import Attribution.Loader
import Attribution.Proofs.Document
import Attribution.Proofs.Repository.Git

/-!
# Why loading fails

Loading from files and from git repositories fails for reasons of the domain, except in a
few cases, which are listed here.

- `Loading.ends_addPath`, `Loading.ends_addBlob`: files always do, and blobs unless git
  does not name their object in UTF-8.
- `Loading.RepositoryMisuse`: what of a repository cannot be used.
- `Loading.ends_addRepository`: nothing else fails for a reason outside the domain.
-/

namespace Attribution

/-- The failure of a store that is given rules is that of a field. -/
theorem Store.exists_field_of_addAll {s : Store} {rs : List Rule} {e : Failure}
    (h : (s.addAll rs).2 = .error e) : ∃ cause, e = .field cause := by
  induction rs generalizing s with
  | nil => cases h
  | cons r rest ih =>
    rw [addAll] at h
    split at h
    · exact ih h
    · next cause _ =>
      cases h
      exact ⟨cause, rfl⟩

theorem Document.exists_parse_of_decode {bytes : Bytes} {e : Failure}
    (h : decode (.bytes bytes) = .error e) : ∃ cause, e = .parse cause := by
  rcases (Datum.IsContents.bytes bytes).decode with ⟨t, hdecode⟩ | ⟨cause, hdecode⟩
  · rw [hdecode] at h
    cases h
  · rw [hdecode] at h
    cases h
    exact ⟨_, rfl⟩

namespace Loading

variable {σ α : Type} {p : Misuse → Prop} {q : AccessFailure → Prop}

/-! ## Steps -/

theorem ends_ask {c : Call σ α} {Q : α → Prop} (h : Ends c Q (CallFailure.OneOf q p)) :
    Ends (ask c) Q (Failure.Allows p) := by
  intro l
  have hcall := h l.repository
  show Except.Meets Q _ ((c.run.run l.repository).1.mapError CallFailure.toFailure)
  cases hrun : (c.run.run l.repository).1 with
  | ok a =>
    rw [hrun] at hcall
    exact hcall
  | error e =>
    rw [hrun] at hcall
    exact CallFailure.OneOf.allows hcall

theorem ends_addRules (rs : List Rule) :
    Ends (addRules rs : Load σ Unit) (fun _ => True) (Failure.Allows p) := by
  intro l
  show Except.Meets _ _ (l.store.addAll rs).2
  cases hadd : (l.store.addAll rs).2 with
  | ok u => trivial
  | error e =>
    obtain ⟨cause, rfl⟩ := Store.exists_field_of_addAll hadd
    exact fun cause' heq => nomatch heq

theorem ends_addBuffer (bytes : Bytes) (source : Text) :
    Ends (addBuffer (.bytes bytes) source : Load σ Unit) (fun _ => True)
      (Failure.Allows p) := by
  have hdecode : Ends (attempt (Document.decode (.bytes bytes)) : Load σ Text)
      (fun _ => True) (Failure.Allows p) := by
    cases hdoc : Document.decode (.bytes bytes) with
    | ok t => exact ends_pure trivial
    | error e =>
      obtain ⟨cause, rfl⟩ := Document.exists_parse_of_decode hdoc
      exact ends_throw fun cause' heq => nomatch heq
  have hcontents : Ends (addContents (.bytes bytes) : Load σ Nat) (fun _ => True)
      (Failure.Allows p) :=
    hdecode.bind fun t _ => ends_modify.bind fun _ _ =>
      (ends_addRules _).bind fun _ _ => ends_pure trivial
  exact hcontents.bind fun _ _ => ends_modify

theorem ends_addSource (c : Catalogue) (bytes : Bytes) (source : Text) :
    Ends (addSource c (.bytes bytes) source : Load σ Unit) (fun _ => True)
      (Failure.Allows p) := by
  refine ends_tryCatch (ends_addBuffer (p := p) bytes source) fun e he => ?_
  split
  · split
    · exact ends_modify
    · exact ends_throw fun cause heq => nomatch heq
  · exact ends_throw he

theorem ends_addPath (h : Host) (path : PathName) :
    Ends (addPath h path : Load σ Unit) (fun _ => True) (Failure.Allows p) := by
  unfold addPath
  split
  · exact ends_addBuffer _ _
  · split
    · exact ends_modify
    · exact ends_throw fun cause heq => nomatch heq

/-- Contents that the repository is asked for, in bytes if there are any. -/
theorem ends_fetch {c : Catalogue} {call : Call σ (Option Datum)} {lines : List LogLine}
    {source : Text} (h : Ends call AreBytes (CallFailure.OneOf q p)) :
    Ends (do
      match ← ask call with
      | none => report lines
      | some contents => addSource c contents source) (fun _ => True) (Failure.Allows p) := by
  refine (ends_ask h).bind fun found hfound => ?_
  cases found with
  | none => exact ends_modify
  | some contents =>
    obtain ⟨bytes, rfl⟩ := hfound contents rfl
    exact ends_addSource c bytes source

/-! ## Git repositories -/

section Git

variable {h : Host} {c : Catalogue}

open GitRepository

/-- What of a git repository cannot be used: a configured value that is not UTF-8, the
name of an object that is not, or a configured path to a user that cannot exist. -/
inductive RepositoryMisuse (h : Host) : Misuse → Prop
  | config {key : Text} {output : Bytes} (hkey : key = blobKey ∨ key = fileKey)
      (hgit : h.git (configWords key) = .finished output) (hbad : output.Undecodable) :
      RepositoryMisuse h .undecodable
  | object {spec : Text} {output : Bytes}
      (hspec : Configured h blobKey spec ∨ spec = defaultBlob)
      (hgit : h.git (objectWords spec) = .finished output)
      (hbad : (Bytes.strip output).Undecodable) : RepositoryMisuse h .undecodable
  | path {path : Text} (hpath : Configured h fileKey path) (huser : Path.NamesNoUser path) :
      RepositoryMisuse h .invalidValue

theorem ends_ask_config {key : Text} (hkey : key = blobKey ∨ key = fileKey) :
    Ends (ask ((GitRepository.repository h).config key))
      (fun found => ∀ value ∈ found, Configured h key value)
      (Failure.Allows (RepositoryMisuse h)) := by
  refine ends_ask ((ends_config key).oneOf ?_)
  rintro cause ⟨rfl, output, hgit, hbad⟩
  exact .config hkey hgit hbad

theorem ends_addWorktree :
    Ends (addWorktree c (GitRepository.repository h)) (fun _ => True) (Failure.Allows p) := by
  refine (ends_ask ends_worktreeMailmap).bind fun found hfound => ?_
  cases found with
  | none => exact ends_pure trivial
  | some contents =>
    obtain ⟨bytes, rfl⟩ := hfound contents rfl
    exact ends_addSource c bytes worktreeSource

theorem ends_addBlob (spec : Text) :
    Ends (addBlob c (GitRepository.repository h) spec) (fun _ => True)
      (Failure.Allows fun cause => cause = .undecodable ∧
        ∃ output, h.git (objectWords spec) = .finished output ∧
          (Bytes.strip output).Undecodable) :=
  ends_fetch (ends_blob spec)

theorem ends_addChosenBlob :
    Ends (addChosenBlob c (GitRepository.repository h)) (fun _ => True)
      (Failure.Allows (RepositoryMisuse h)) := by
  have hchosen : Ends (chosenBlob (GitRepository.repository h))
      (fun found => ∀ spec ∈ found, Configured h blobKey spec ∨ spec = defaultBlob)
      (Failure.Allows (RepositoryMisuse h)) := by
    refine (ends_ask_config (.inl rfl)).bind fun found hfound => ?_
    cases found with
    | some spec => exact ends_pure fun spec' hmem => .inl (hfound spec' hmem)
    | none =>
      refine (ends_ask ends_hasWorktree).bind fun worktree _ => ends_pure fun spec hmem => ?_
      cases worktree with
      | true => cases hmem
      | false =>
        cases hmem
        exact .inr rfl
  refine hchosen.bind fun found hfound => ?_
  rcases found with - | (- | ⟨first, rest⟩)
  · exact ends_pure trivial
  · exact ends_pure trivial
  · refine (ends_addBlob (first :: rest)).mono (fun _ _ => trivial) fun e he cause heq => ?_
    obtain ⟨rfl, output, hgit, hbad⟩ := he cause heq
    exact .object (hfound _ rfl) hgit hbad

theorem ends_addConfiguredFile :
    Ends (addConfiguredFile c (GitRepository.repository h)) (fun _ => True)
      (Failure.Allows (RepositoryMisuse h)) := by
  refine (ends_ask_config (.inr rfl)).bind fun found hfound => ?_
  rcases found with - | (- | ⟨first, rest⟩)
  · exact ends_pure trivial
  · exact ends_pure trivial
  · refine ends_fetch ((ends_file (first :: rest)).oneOf ?_)
    rintro cause ⟨rfl, huser⟩
    exact .path (hfound _ rfl) huser

/-- **All sources that are configured for a git repository.** -/
theorem ends_addRepository :
    Ends (addRepository c (GitRepository.repository h)) (fun _ => True)
      (Failure.Allows (RepositoryMisuse h)) :=
  ends_addWorktree.bind fun _ _ => ends_addChosenBlob.bind fun _ _ => ends_addConfiguredFile

end Git

end Loading

end Attribution
