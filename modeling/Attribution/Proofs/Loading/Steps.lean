import Attribution.Loader
import Attribution.Proofs.Outcomes

/-!
# What the steps of loading do

Loading is put together of reports, calls and single sources, so a relation that holds along these
holds along all of it.

- `Loading.Carries`: a relation that holds along what loading is put together of.
- `Loading.Carries.addRepository`: it holds along all sources that are configured.
- `Loading.OnRepository`: what is done to the repository only.
- `Loading.carries_onRepository`: nothing is done to it but that it is asked.
-/

namespace Attribution.Loading

variable {σ : Type} {c : Catalogue} {r : Repository σ}

/-! ## Steps put together -/

/-- A relation between states of loading that holds along reports, along calls to a repository and
along what its contents are added by. -/
structure Carries (c : Catalogue) (r : Repository σ) (R : Loading σ → Loading σ → Prop) : Prop where
  report (lines : List LogLine) : Along (report lines) R
  source (contents : Datum) (name : Text) : Along (addSource c contents name) R
  worktreeMailmap : Along (ask r.worktreeMailmap) R
  hasWorktree : Along (ask r.hasWorktree) R
  config (key : Text) : Along (ask (r.config key)) R
  blob (spec : Text) : Along (ask (r.blob spec)) R
  file (path : Text) : Along (ask (r.file path)) R

namespace Carries

variable {R : Loading σ → Loading σ → Prop} [Trans R R R] (h : Carries c r R)

include h

theorem addBlob (spec : Text) : Along (addBlob c r spec) R := by
  refine (h.blob spec).bind fun found => ?_
  cases found with
  | none => exact h.report _
  | some contents => exact h.source contents spec

theorem addFile (path : Text) : Along (addFile c r path) R := by
  refine (h.file path).bind fun found => ?_
  cases found with
  | none => exact h.report _
  | some contents => exact h.source contents path

variable [Std.Refl R]

theorem addWorktree : Along (addWorktree c r) R := by
  refine h.worktreeMailmap.bind fun found => ?_
  cases found with
  | none => exact along_pure ()
  | some contents => exact h.source contents worktreeSource

theorem chosenBlob : Along (chosenBlob r) R := by
  refine (h.config blobKey).bind fun spec => ?_
  cases spec with
  | some spec => exact along_pure _
  | none => exact h.hasWorktree.bind fun _ => along_pure _

theorem addChosenBlob : Along (addChosenBlob c r) R := by
  refine h.chosenBlob.bind fun spec => ?_
  rcases spec with - | (- | ⟨first, rest⟩)
  · exact along_pure ()
  · exact along_pure ()
  · exact h.addBlob (first :: rest)

theorem addConfiguredFile : Along (addConfiguredFile c r) R := by
  refine (h.config fileKey).bind fun path => ?_
  rcases path with - | (- | ⟨first, rest⟩)
  · exact along_pure ()
  · exact along_pure ()
  · exact h.addFile (first :: rest)

/-- **All sources that are configured for a repository.** -/
theorem addRepository : Along (addRepository c r) R :=
  h.addWorktree.bind fun _ => h.addChosenBlob.bind fun _ => h.addConfiguredFile

end Carries

/-! ## The repository -/

section Repository

variable {R : σ → σ → Prop}

/-- A relation between the states of the repository. -/
def OnRepository (R : σ → σ → Prop) (l l' : Loading σ) : Prop := R l.repository l'.repository

instance [Std.Refl R] : Std.Refl (OnRepository R) := ⟨fun l => Std.Refl.refl l.repository⟩

instance [Trans R R R] : Trans (OnRepository R) (OnRepository R) (OnRepository R) :=
  ⟨fun h h' => Trans.trans (r := R) (s := R) h h'⟩

/-- What holds along a call holds of the repository where it is asked. -/
theorem along_ask {α : Type} {call : Call σ α} (h : Along call R) :
    Along (ask call) (OnRepository R) := fun l => h l.repository

variable [Std.Refl R]

theorem along_report (lines : List LogLine) :
    Along (report lines : Load σ Unit) (OnRepository R) := fun l => Std.Refl.refl l.repository

theorem along_addRules (rs : List Rule) :
    Along (addRules rs : Load σ Unit) (OnRepository R) := fun l => Std.Refl.refl l.repository

variable [Trans R R R]

theorem along_addContents (contents : Datum) :
    Along (addContents contents : Load σ Nat) (OnRepository R) := by
  have hdecode : Along (attempt (Document.decode contents) : Load σ Text) (OnRepository R) :=
    fun l => Std.Refl.refl l.repository
  exact hdecode.bind fun _ => (along_report _).bind fun _ => (along_addRules _).bind fun _ =>
    along_pure _

theorem along_addBuffer (contents : Datum) (source : Text) :
    Along (addBuffer contents source : Load σ Unit) (OnRepository R) :=
  (along_addContents contents).bind fun _ => along_report _

theorem along_addSource (contents : Datum) (source : Text) :
    Along (addSource c contents source : Load σ Unit) (OnRepository R) := by
  refine along_tryCatch (along_addBuffer contents source) fun e => ?_
  split
  · split
    · exact along_report _
    · exact along_throw _
  · exact along_throw _

/-- **Nothing is done to a repository but that it is asked.** -/
theorem carries_onRepository (hworktreeMailmap : Along r.worktreeMailmap R)
    (hhasWorktree : Along r.hasWorktree R) (hconfig : ∀ key, Along (r.config key) R)
    (hblob : ∀ spec, Along (r.blob spec) R) (hfile : ∀ path, Along (r.file path) R) :
    Carries c r (OnRepository R) where
  report := along_report
  source := along_addSource
  worktreeMailmap := along_ask hworktreeMailmap
  hasWorktree := along_ask hhasWorktree
  config key := along_ask (hconfig key)
  blob spec := along_ask (hblob spec)
  file path := along_ask (hfile path)

end Repository

end Attribution.Loading
