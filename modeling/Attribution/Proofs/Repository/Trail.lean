import Attribution.Proofs.Loading.Conversation
import Attribution.Proofs.Repository.Memory

/-!
# The runs that a repository is led to

Whatever a repository is asked for, it is led from run to run of git, and learns from each before
the next.

- `GitRepository.Trail`: a repository before and after some runs.
- `GitRepository.Trail.settled`, `GitRepository.Trail.known_eq`: what is known after them.
- `GitRepository.Leads`: a trail of runs that end as git answers.
- `GitRepository.leads_blob`, `GitRepository.leads_config`: the questions that keep nothing.
- `GitRepository.located`: where a question about a file in the working tree begins.
- `GitRepository.leads_answer`: all questions of the loader.
-/

namespace Attribution.GitRepository

/-! ## Trails -/

/-- A repository before and after some runs of git. Each is made where the state allows its words,
and the repository learns from each before the next. -/
inductive Trail (G : GitRepository → List Text → Prop) :
    GitRepository → List GitRun → GitRepository → Prop
  | nil (ρ : GitRepository) : Trail G ρ [] ρ
  | cons {ρ ρ' : GitRepository} {run : GitRun} {t : List GitRun} (h : G ρ run.words)
      (hrest : Trail G (ρ.learn run) t ρ') : Trail G ρ (run :: t) ρ'

section Trail

variable {G G' : GitRepository → List Text → Prop} {ρ ρ' ρ'' : GitRepository}
  {t t' : List GitRun}

theorem Trail.mono (hG : ∀ ρ words, G ρ words → G' ρ words) (h : Trail G ρ t ρ') :
    Trail G' ρ t ρ' := by
  induction h with
  | nil ρ => exact .nil ρ
  | cons hrun _ ih => exact .cons (hG _ _ hrun) ih

/-- What a guard demands of words is true of those of the runs. -/
theorem Trail.forall_words {p : List Text → Prop} (hG : ∀ ρ words, G ρ words → p words)
    (h : Trail G ρ t ρ') : ∀ run ∈ t, p run.words := by
  induction h with
  | nil => exact fun run hrun => absurd hrun List.not_mem_nil
  | cons hrun _ ih => exact List.forall_mem_cons.mpr ⟨hG _ _ hrun, ih⟩

theorem Trail.append (h : Trail G ρ t ρ') (h' : Trail G ρ' t' ρ'') : Trail G ρ (t ++ t') ρ'' := by
  induction h with
  | nil => exact h'
  | cons hrun _ ih => exact .cons hrun (ih h')

theorem Trail.exists_of_append (h : Trail G ρ (t ++ t') ρ'') :
    ∃ ρ', Trail G ρ t ρ' ∧ Trail G ρ' t' ρ'' := by
  induction t generalizing ρ with
  | nil => exact ⟨ρ, .nil ρ, h⟩
  | cons run rest ih =>
    cases h with
    | cons hrun hrest =>
      obtain ⟨ρ', hfirst, hlast⟩ := ih hrest
      exact ⟨ρ', .cons hrun hfirst, hlast⟩

/-- **Where a trail ends** is what its runs tell, one after the other. -/
theorem Trail.eq_foldl (h : Trail G ρ t ρ') : ρ' = t.foldl learn ρ := by
  induction h with
  | nil => rfl
  | cons _ _ ih => exact ih

theorem Trail.path_eq (h : Trail G ρ t ρ') : ρ'.path = ρ.path := by
  induction h with
  | nil => rfl
  | cons _ _ ih => exact ih

theorem Trail.runs_eq (h : Trail G ρ t ρ') :
    ρ'.runs = ρ.runs ++ t.map fun run => ρ.path :: run.words := by
  induction h with
  | nil => exact (List.append_nil _).symm
  | cons _ _ ih =>
    rw [ih, learn, List.append_assoc]
    rfl

variable {α : Type} {m : Memory α} {a : α}

/-- **What is known stays known**, and git is not asked for it again. -/
theorem Trail.settled (hm : m.Lawful) (h : Trail Lacks ρ t ρ') (hknown : m.known ρ = some a) :
    m.known ρ' = some a ∧ ∀ run ∈ t, run.words ≠ m.words := by
  induction h with
  | nil => exact ⟨hknown, fun run hrun => absurd hrun List.not_mem_nil⟩
  | @cons ρ ρ' run t hlacks _ ih =>
    have hne : run.words ≠ m.words := by
      intro hwords
      rw [hm.unknown (hwords ▸ hlacks)] at hknown
      cases hknown
    have hlearn : m.known (ρ.learn run) = some a := by
      rw [hm.known_learn, Memory.told, if_neg hne]
      exact hknown
    obtain ⟨hend, hrest⟩ := ih hlearn
    exact ⟨hend, List.forall_mem_cons.mpr ⟨hne, hrest⟩⟩

/-- **As long as no run tells it**, no more is known of it. -/
theorem Trail.known_eq (hm : m.Lawful) (h : Trail G ρ t ρ') (hnone : ∀ run ∈ t, m.told run = none) :
    m.known ρ' = m.known ρ := by
  induction h with
  | nil => rfl
  | cons _ _ ih =>
    obtain ⟨hfirst, hrest⟩ := List.forall_mem_cons.mp hnone
    rw [ih hrest, hm.known_learn, hfirst]
    rfl

end Trail

/-! ## Questions -/

/-- A trail of runs that end as git answers. -/
def Leads (G : GitRepository → List Text → Prop) (h : Host) (ρ ρ' : GitRepository) : Prop :=
  ∃ t, Trail G ρ t ρ' ∧ ∀ run ∈ t, run.answer = h.git run.words

/-- The words ask for something else, of which nothing is kept. -/
def Other (_ : GitRepository) (words : List Text) : Prop := words.length ≠ 2

/-- What the words ask for is not known, and the start of a working tree is only asked for where
there is known to be one. -/
structure Seeks (ρ : GitRepository) (words : List Text) : Prop extends Lacks ρ words where
  worktree : words = location.words → ρ.bare = some false

theorem Trail.words_ne_location {ρ ρ' : GitRepository} {t : List GitRun} (h : Trail Seeks ρ t ρ')
    (hbare : ρ.bare = some true) : ∀ run ∈ t, run.words ≠ location.words := by
  induction h with
  | nil => exact fun run hrun => absurd hrun List.not_mem_nil
  | @cons ρ ρ' run t hseeks _ ih =>
    have hne : run.words ≠ location.words := by
      intro hwords
      rw [hseeks.worktree hwords] at hbare
      cases hbare
    have hone : Trail Lacks ρ [run] (ρ.learn run) := .cons hseeks.toLacks (.nil _)
    exact List.forall_mem_cons.mpr ⟨hne, ih (hone.settled lawful_bareness hbare).1⟩

section Leads

variable {G G' : GitRepository → List Text → Prop} {h : Host} {ρ ρ' ρ'' : GitRepository}

theorem Leads.refl (ρ : GitRepository) : Leads G h ρ ρ :=
  ⟨[], .nil ρ, fun _ hrun => absurd hrun List.not_mem_nil⟩

theorem Leads.trans (hfirst : Leads G h ρ ρ') (hlast : Leads G h ρ' ρ'') : Leads G h ρ ρ'' := by
  obtain ⟨t, ht, hanswers⟩ := hfirst
  obtain ⟨t', ht', hanswers'⟩ := hlast
  exact ⟨t ++ t', ht.append ht', List.forall_mem_append.mpr ⟨hanswers, hanswers'⟩⟩

theorem Leads.mono (hG : ∀ ρ words, G ρ words → G' ρ words) (hleads : Leads G h ρ ρ') :
    Leads G' h ρ ρ' := by
  obtain ⟨t, ht, hanswers⟩ := hleads
  exact ⟨t, ht.mono hG, hanswers⟩

theorem leads_learn {words : List Text} (hG : G ρ words) :
    Leads G h ρ (ρ.learn ⟨words, h.git words⟩) :=
  ⟨[⟨words, h.git words⟩], .cons hG (.nil _), List.forall_mem_singleton.mpr rfl⟩

instance : Std.Refl (Leads G h) := ⟨Leads.refl⟩

instance : Trans (Leads G h) (Leads G h) (Leads G h) := ⟨Leads.trans⟩

theorem Other.seeks {words : List Text} (hother : Other ρ words) : Seeks ρ words where
  bare hwords := absurd (congrArg List.length hwords) hother
  top hwords := absurd (congrArg List.length hwords) hother
  worktree hwords := absurd (congrArg List.length hwords) hother

theorem leads_run {words : List Text} (hlength : words.length ≠ 2) :
    Along (run h words) (Leads Other h) := by
  intro ρ
  have hlearn : ρ.learn ⟨words, h.git words⟩ = { ρ with runs := ρ.runs ++ [ρ.path :: words] } :=
    learn_of_length hlength
  rw [run_run, ← hlearn]
  exact leads_learn hlength

theorem leads_runOrFail {words : List Text} (hlength : words.length ≠ 2) :
    Along (runOrFail h words) (Leads Other h) := by
  refine (leads_run hlength).bind fun result => ?_
  cases result with
  | ok output => exact along_pure _
  | error f => exact along_throw _

theorem leads_runIfAny {words : List Text} (hlength : words.length ≠ 2) :
    Along (runIfAny h words) (Leads Other h) := by
  refine (leads_run hlength).bind fun result => ?_
  cases result with
  | ok output => exact along_pure _
  | error f =>
    dsimp only
    split
    · exact along_pure _
    · exact along_throw _

theorem leads_decodeOutput (output : Bytes) : Along (decodeOutput output) (Leads Other h) := by
  unfold decodeOutput
  split
  · exact along_pure _
  · exact along_throw _

/-- **A blob is read by commands only**, and nothing is kept of it. -/
theorem leads_blob (spec : Text) : Along (blob h spec) (Leads Other h) := by
  refine (leads_runIfAny (by simp)).bind fun found => ?_
  cases found with
  | none => exact along_pure _
  | some output =>
    refine (leads_decodeOutput _).bind fun object =>
      (leads_runOrFail (by simp)).bind fun kind => ?_
    split
    · exact (leads_runOrFail (by simp)).bind fun contents => along_pure _
    · exact along_pure _

theorem leads_config (key : Text) : Along (config h key) (Leads Other h) := by
  refine (leads_runIfAny (by simp)).bind fun found => ?_
  cases found with
  | none => exact along_pure _
  | some output => exact (leads_decodeOutput _).bind fun t => along_pure _

variable {α : Type} {m : Memory α}

theorem Memory.Lawful.leads_ask (hm : m.Lawful) (hG : m.known ρ = none → G ρ m.words) :
    Leads G h ρ ((m.ask h).run.run ρ).2 := by
  cases hknown : m.known ρ with
  | some a =>
    rw [hm.ask_known hknown]
    exact .refl ρ
  | none =>
    obtain ⟨outcome, hask, -⟩ := hm.ask_unknown (h := h) hknown
    rw [hask]
    exact leads_learn (hG hknown)

theorem Memory.Lawful.known_of_ask (hm : m.Lawful) {a : α}
    (hask : (m.ask h).run.run ρ = (.ok a, ρ')) : m.known ρ' = some a := by
  cases hknown : m.known ρ with
  | some b =>
    rw [hm.ask_known hknown] at hask
    cases hask
    exact hknown
  | none =>
    obtain ⟨outcome, hrun, htold⟩ := hm.ask_unknown (h := h) hknown
    obtain ⟨rfl, rfl⟩ := Prod.mk.inj (hrun.symm.trans hask)
    rw [hm.known_learn, (htold a).mp rfl]
    rfl

theorem leads_isBare : Along (isBare h) (Leads Seeks h) := fun _ =>
  lawful_bareness.leads_ask fun hunknown =>
    ⟨⟨fun _ => hunknown, fun hwords => absurd hwords.symm location_words_ne⟩,
      fun hwords => absurd hwords.symm location_words_ne⟩

theorem leads_toplevel (hworktree : ρ.bare = some false) :
    Leads Seeks h ρ ((toplevel h).run.run ρ).2 :=
  lawful_location.leads_ask fun hunknown =>
    ⟨⟨fun hwords => absurd hwords location_words_ne, fun _ => hunknown⟩, fun _ => hworktree⟩

/-- The repository after it is asked whether it has a working tree and, if it has, where. -/
def located (h : Host) (ρ : GitRepository) : GitRepository :=
  match (isBare h).run.run ρ with
  | (.ok false, ρ') => ((toplevel h).run.run ρ').2
  | (_, ρ') => ρ'

theorem leads_located_of_isBare (ρ : GitRepository) :
    Leads Seeks h ((isBare h).run.run ρ).2 (located h ρ) := by
  unfold located
  split
  · next ρ' hask =>
    rw [hask]
    exact leads_toplevel (lawful_bareness.known_of_ask hask)
  · next hask =>
    rw [hask]
    exact .refl _

theorem leads_located (ρ : GitRepository) : Leads Seeks h ρ (located h ρ) :=
  (leads_isBare ρ).trans (leads_located_of_isBare ρ)

/-- Whether there is a working tree is told by whether the repository is bare. -/
theorem run_hasWorktree :
    (hasWorktree h).run.run ρ =
      (((isBare h).run.run ρ).1.map (!·), ((isBare h).run.run ρ).2) := by
  rw [hasWorktree, run_bind]
  rcases (isBare h).run.run ρ with ⟨outcome, ρ'⟩
  cases outcome <;> rfl

/-- A question that needs the start of the working tree, if there is one, ends where this is
known. -/
theorem state_inWorktree {α : Type} {inside : Text → Ask α} {outside : Ask α}
    (hinside : ∀ top ρ, ((inside top).run.run ρ).2 = ρ)
    (houtside : ∀ ρ, (outside.run.run ρ).2 = ρ) :
    ((do if ← hasWorktree h then inside (← toplevel h) else outside : Ask α).run.run ρ).2 =
      located h ρ := by
  rw [run_bind, run_hasWorktree, located]
  rcases (isBare h).run.run ρ with ⟨outcome, ρ'⟩
  cases outcome with
  | error e => rfl
  | ok bare =>
    cases bare with
    | true => exact houtside ρ'
    | false =>
      show ((toplevel h >>= inside).run.run ρ').2 = ((toplevel h).run.run ρ').2
      rw [run_bind]
      rcases (toplevel h).run.run ρ' with ⟨outcome', ρ''⟩
      cases outcome' with
      | error e => rfl
      | ok top => exact hinside top ρ''

theorem state_worktreeMailmap : ((worktreeMailmap h).run.run ρ).2 = located h ρ :=
  state_inWorktree (fun _ _ => rfl) fun _ => rfl

/-- A path is relative if it does not start at the root, not even in place of a `~`. -/
def IsRelative (h : Host) (path : Text) : Prop :=
  ∃ path', Path.expandHome? h.home h.users path = some path' ∧ Path.isAbsolute path' = false

theorem state_file {path : Text} (hrelative : IsRelative h path) :
    ((file h path).run.run ρ).2 = located h ρ := by
  obtain ⟨path', hexpand, habsolute⟩ := hrelative
  have hfile : (file h path).run.run ρ = (do
      if ← hasWorktree h then return readFile h (Path.join (← toplevel h) path')
      else return readFile h (Path.join (← get).path path') : Ask (Option Datum)).run.run ρ := by
    simp only [file, expandHome, hexpand, pure_bind, habsolute, Bool.false_eq_true, if_false]
  rw [hfile]
  exact state_inWorktree (fun _ _ => rfl) fun _ => rfl

theorem state_file_of_not_isRelative {path : Text} (habsolute : ¬ IsRelative h path) :
    ((file h path).run.run ρ).2 = ρ := by
  cases hexpand : Path.expandHome? h.home h.users path with
  | none =>
    simp only [file, expandHome, hexpand]
    rfl
  | some path' =>
    have hroot : Path.isAbsolute path' = true := by
      rw [← Bool.not_eq_false]
      exact fun hrelative => habsolute ⟨path', hexpand, hrelative⟩
    simp only [file, expandHome, hexpand, pure_bind, hroot, if_true]
    rfl

/-- **Whatever a repository is asked for**, it is led from run to run. -/
theorem leads_answer (call : RepositoryCall) :
    Along ((repository h).answer call) (Leads Seeks h) := by
  intro ρ
  cases call with
  | worktreeMailmap =>
    show Leads Seeks h ρ ((worktreeMailmap h).run.run ρ).2
    rw [state_worktreeMailmap]
    exact leads_located ρ
  | hasWorktree =>
    show Leads Seeks h ρ ((hasWorktree h).run.run ρ).2
    rw [run_hasWorktree]
    exact leads_isBare ρ
  | config key => exact (leads_config key ρ).mono fun _ _ => Other.seeks
  | blob spec => exact (leads_blob spec ρ).mono fun _ _ => Other.seeks
  | file path =>
    show Leads Seeks h ρ ((file h path).run.run ρ).2
    by_cases hrelative : IsRelative h path
    · rw [state_file hrelative]
      exact leads_located ρ
    · rw [state_file_of_not_isRelative hrelative]
      exact .refl ρ

end Leads

end Attribution.GitRepository
