import Attribution.Proofs.Loading.Perform
import Attribution.Proofs.Loading.Steps
import Attribution.Proofs.Repository.Trail

/-!
# What a repository is asked for once

Whether a repository is bare and where its working tree starts are asked for until git can say it,
and then never again, whatever else is done with the repository and however git changes its answers.

- `GitRepository.newRuns`: the runs of git between two states of a repository.
- `GitRepository.Operation`: what is done with a repository.
- `GitRepository.mem_gitRuns_bareness_iff`, `GitRepository.mem_gitRuns_location_iff`: the operations
  that ask for either, as long as it is not known.
- `GitRepository.trail_gitRuns`, `GitRepository.trail_allRuns`: what a repository learns in one
  operation, and in a history of them.
- `GitRepository.Memory.Lawful.askedOnce`: what is kept by a lawful memory is asked for once.
- `GitRepository.asked_once`: so are both of these.
-/

namespace Attribution.GitRepository

/-! ## New runs -/

/-- The runs of git between two states of a repository: the commands that only the second one keeps,
each with how git answers it. -/
def newRuns (h : Host) (ρ ρ' : GitRepository) : List GitRun :=
  (ρ'.runs.drop ρ.runs.length).map fun command => ⟨command.tail, h.git command.tail⟩

section NewRuns

variable {G G' : GitRepository → List Text → Prop} {h : Host} {ρ ρ' ρ'' : GitRepository}
  {t : List GitRun}

theorem Trail.newRuns_eq (ht : Trail G ρ t ρ')
    (hanswers : ∀ run ∈ t, run.answer = h.git run.words) : newRuns h ρ ρ' = t := by
  rw [newRuns, ht.runs_eq, List.drop_left, List.map_map]
  refine (List.map_congr_left fun run hrun => ?_).trans (List.map_id t)
  show GitRun.mk run.words (h.git run.words) = run
  rw [← hanswers run hrun]

theorem answer_of_mem_newRuns {run : GitRun} (hrun : run ∈ newRuns h ρ ρ') :
    run.answer = h.git run.words := by
  obtain ⟨command, -, rfl⟩ := List.mem_map.mp hrun
  rfl

theorem Leads.trail (hleads : Leads G h ρ ρ') : Trail G ρ (newRuns h ρ ρ') ρ' := by
  obtain ⟨t, ht, hanswers⟩ := hleads
  rwa [ht.newRuns_eq hanswers]

theorem newRuns_self : newRuns h ρ ρ = [] := by
  rw [newRuns, List.drop_length]
  rfl

theorem newRuns_learn (words : List Text) :
    newRuns h ρ (ρ.learn ⟨words, h.git words⟩) = [⟨words, h.git words⟩] := by
  refine Trail.newRuns_eq (G := fun _ _ => True) (.cons trivial (.nil _)) ?_
  exact List.forall_mem_singleton.mpr rfl

theorem Leads.newRuns_trans (hfirst : Leads G h ρ ρ') (hlast : Leads G' h ρ' ρ'') :
    newRuns h ρ ρ'' = newRuns h ρ ρ' ++ newRuns h ρ' ρ'' := by
  have hany {G : GitRepository → List Text → Prop} : ∀ ρ words, G ρ words → True :=
    fun _ _ _ => trivial
  refine ((hfirst.trail.mono hany).append (hlast.trail.mono hany)).newRuns_eq ?_
  exact List.forall_mem_append.mpr
    ⟨fun _ => answer_of_mem_newRuns, fun _ => answer_of_mem_newRuns⟩

variable {α : Type} {m : Memory α}

theorem Memory.Lawful.newRuns_ask_known (hm : m.Lawful) {a : α} (hknown : m.known ρ = some a) :
    newRuns h ρ ((m.ask h).run.run ρ).2 = [] := by
  rw [hm.ask_known hknown, newRuns_self]

theorem Memory.Lawful.newRuns_ask (hm : m.Lawful) (hunknown : m.known ρ = none) :
    newRuns h ρ ((m.ask h).run.run ρ).2 = [⟨m.words, h.git m.words⟩] := by
  obtain ⟨outcome, hask, -⟩ := hm.ask_unknown (h := h) hunknown
  rw [hask, newRuns_learn]

theorem Memory.Lawful.words_of_mem_newRuns (hm : m.Lawful) {run : GitRun}
    (hrun : run ∈ newRuns h ρ ((m.ask h).run.run ρ).2) : run.words = m.words := by
  cases hknown : m.known ρ with
  | some a =>
    rw [hm.newRuns_ask_known hknown] at hrun
    exact absurd hrun List.not_mem_nil
  | none =>
    rw [hm.newRuns_ask hknown] at hrun
    rw [List.mem_singleton.mp hrun]

/-- Where git is run for something else, it is run for nothing that is kept. -/
theorem Leads.words_of_mem_newRuns (hleads : Leads Other h ρ ρ') {run : GitRun}
    (hrun : run ∈ newRuns h ρ ρ') : run.words.length ≠ 2 :=
  hleads.trail.forall_words (p := fun words => words.length ≠ 2) (fun _ _ hwords => hwords) run hrun

/-- There is a working tree, as far as is known or as git says. -/
def HasWorktree (h : Host) (ρ : GitRepository) : Prop := ((hasWorktree h).run.run ρ).1 = .ok true

theorem hasWorktree_iff : HasWorktree h ρ ↔ ∃ ρ', (isBare h).run.run ρ = (.ok false, ρ') := by
  rw [HasWorktree, run_hasWorktree]
  rcases (isBare h).run.run ρ with ⟨outcome, ρ'⟩
  rcases outcome with e | (- | -)
  · exact iff_of_false nofun nofun
  · exact iff_of_true rfl ⟨ρ', rfl⟩
  · exact iff_of_false nofun nofun

theorem located_of_not_hasWorktree (hnone : ¬ HasWorktree h ρ) :
    located h ρ = ((isBare h).run.run ρ).2 := by
  unfold located
  split
  · next ρ' hask => exact absurd (hasWorktree_iff.mpr ⟨ρ', hask⟩) hnone
  · next hask => rw [hask]

/-- Whether the repository is bare tells nothing of where its working tree starts. -/
theorem top_of_isBare : ((isBare h).run.run ρ).2.top = ρ.top := by
  refine (leads_isBare (h := h) ρ).trail.known_eq lawful_location fun run hrun => ?_
  exact if_neg fun hwords =>
    location_words_ne (hwords.symm.trans (lawful_bareness.words_of_mem_newRuns hrun))

/-- **What a question in the working tree asks first**, if it is not known. -/
theorem bareness_mem_located (hunknown : ρ.bare = none) :
    ⟨bareness.words, h.git bareness.words⟩ ∈ newRuns h ρ (located h ρ) := by
  rw [(leads_isBare ρ).newRuns_trans (leads_located_of_isBare ρ)]
  have hask := lawful_bareness.newRuns_ask (h := h) hunknown
  exact List.mem_append_left _ (hask ▸ List.mem_singleton_self _)

/-- **What a question in the working tree asks next**, if it is not known and there is a working
tree. -/
theorem location_mem_located_iff (hunknown : ρ.top = none) :
    ⟨location.words, h.git location.words⟩ ∈ newRuns h ρ (located h ρ) ↔ HasWorktree h ρ := by
  constructor
  · intro hrun
    by_contra hnone
    rw [located_of_not_hasWorktree hnone] at hrun
    exact absurd (lawful_bareness.words_of_mem_newRuns hrun) location_words_ne
  · intro hworktree
    obtain ⟨ρ', hask⟩ := hasWorktree_iff.mp hworktree
    have htop := top_of_isBare (h := h) (ρ := ρ)
    have hrest := leads_located_of_isBare (h := h) ρ
    rw [(leads_isBare ρ).newRuns_trans hrest, hask, located, hask]
    rw [hask] at htop
    have hlocate := lawful_location.newRuns_ask (h := h) (htop.trans hunknown)
    exact List.mem_append_right _ (hlocate ▸ List.mem_singleton_self _)

end NewRuns

/-! ## Operations -/

/-- What is done with a repository: it is asked whether it is bare, or where its working tree
starts, or one of the questions of the loader, or a mailmap is loaded from it. -/
inductive Operation
  | isBare
  | toplevel
  | answer (call : RepositoryCall)
  | mailmap

namespace Operation

/-- The repository after an operation, whether this fails or not. -/
def after (h : Host) : Operation → GitRepository → GitRepository
  | isBare, ρ => ((GitRepository.isBare h).run.run ρ).2
  | toplevel, ρ => ((GitRepository.toplevel h).run.run ρ).2
  | answer call, ρ => (((repository h).answer call).run.run ρ).2
  | mailmap, ρ =>
    ((Loading.start ρ).perform
      (Loading.freshly (Loading.addRepository h.catalogue (repository h)))).2.repository

/-- The runs of git that an operation makes. -/
def gitRuns (h : Host) (q : Operation) (ρ : GitRepository) : List GitRun :=
  newRuns h ρ (q.after h ρ)

/-- The operations that need to know whether the repository is bare. -/
def NeedsBareness (h : Host) (_ : GitRepository) : Operation → Prop
  | isBare => True
  | toplevel => False
  | answer .worktreeMailmap => True
  | answer .hasWorktree => True
  | answer (.config _) => False
  | answer (.blob _) => False
  | answer (.file path) => IsRelative h path
  | mailmap => True

/-- The operations that need to know where the working tree starts. All but the question itself need
it only if there is one. -/
def NeedsLocation (h : Host) (ρ : GitRepository) : Operation → Prop
  | isBare => False
  | toplevel => True
  | answer .worktreeMailmap => HasWorktree h ρ
  | answer .hasWorktree => False
  | answer (.config _) => False
  | answer (.blob _) => False
  | answer (.file path) => IsRelative h path ∧ HasWorktree h ρ
  | mailmap => HasWorktree h ρ

end Operation

section Operation

variable {h : Host} {ρ ρ' : GitRepository}

/-- Loading a mailmap begins with a question about a file in the working tree. -/
theorem leads_mailmap : Leads Seeks h (located h ρ) (Operation.mailmap.after h ρ) := by
  have hcarries : Loading.Carries h.catalogue (repository h)
      (Loading.OnRepository (Leads Seeks h)) :=
    Loading.carries_onRepository (leads_answer .worktreeMailmap) (leads_answer .hasWorktree)
      (fun key => leads_answer (.config key)) (fun spec => leads_answer (.blob spec))
      fun path => leads_answer (.file path)
  have hworktree : Loading.OnRepository (Leads Seeks h)
      ((Loading.start ρ).perform (Loading.ask (repository h).worktreeMailmap)).2
      ((Loading.start ρ).perform (Loading.addWorktree h.catalogue (repository h))).2 := by
    refine along_rest (fun found => ?_) (Loading.start ρ)
    cases found with
    | none => exact along_pure ()
    | some contents => exact hcarries.source contents Loading.worktreeSource
  have hrest : Loading.OnRepository (Leads Seeks h)
      ((Loading.start ρ).perform (Loading.addWorktree h.catalogue (repository h))).2
      ((Loading.start ρ).perform (Loading.addRepository h.catalogue (repository h))).2 :=
    along_rest (fun _ => hcarries.addChosenBlob.bind fun _ => hcarries.addConfiguredFile)
      (Loading.start ρ)
  rw [← state_worktreeMailmap]
  exact Leads.trans hworktree hrest

theorem after_mailmap_of_error {e : CallFailure} (hask : (isBare h).run.run ρ = (.error e, ρ')) :
    Operation.mailmap.after h ρ = located h ρ := by
  have hworktree : (repository h).worktreeMailmap.run.run (Loading.start ρ).repository =
      (.error e, ρ') := by
    show (worktreeMailmap h).run.run ρ = _
    rw [worktreeMailmap, run_bind, run_hasWorktree, hask]
    rfl
  have hload : (Loading.start ρ).perform (Loading.addRepository h.catalogue (repository h)) =
      (.error e.toFailure, { Loading.start ρ with repository := ρ' }) := by
    refine Loading.perform_bind_error (Loading.perform_bind_error ?_)
    rw [Loading.perform_ask, hworktree]
    rfl
  rw [located, hask]
  exact congrArg (fun result => result.2.repository) hload

/-- **The operations that ask whether the repository is bare**, if it is not known. -/
theorem mem_gitRuns_bareness_iff (hunknown : ρ.bare = none) (q : Operation) :
    ⟨bareness.words, h.git bareness.words⟩ ∈ q.gitRuns h ρ ↔ q.NeedsBareness h ρ := by
  have hasked : ⟨bareness.words, h.git bareness.words⟩ ∈ newRuns h ρ ((isBare h).run.run ρ).2 := by
    rw [show newRuns h ρ ((isBare h).run.run ρ).2 = _ from lawful_bareness.newRuns_ask hunknown]
    exact List.mem_singleton_self _
  cases q with
  | isBare => exact iff_of_true hasked trivial
  | toplevel =>
    exact iff_of_false (fun hrun =>
      location_words_ne (lawful_location.words_of_mem_newRuns hrun).symm) id
  | answer call =>
    cases call with
    | worktreeMailmap =>
      refine iff_of_true ?_ trivial
      show _ ∈ newRuns h ρ ((worktreeMailmap h).run.run ρ).2
      rw [state_worktreeMailmap]
      exact bareness_mem_located hunknown
    | hasWorktree =>
      refine iff_of_true ?_ trivial
      show _ ∈ newRuns h ρ ((hasWorktree h).run.run ρ).2
      rwa [run_hasWorktree]
    | config key =>
      exact iff_of_false (fun hrun => (leads_config key ρ).words_of_mem_newRuns hrun rfl) id
    | blob spec =>
      exact iff_of_false (fun hrun => (leads_blob spec ρ).words_of_mem_newRuns hrun rfl) id
    | file path =>
      show _ ∈ newRuns h ρ ((file h path).run.run ρ).2 ↔ IsRelative h path
      by_cases hrelative : IsRelative h path
      · rw [state_file hrelative]
        exact iff_of_true (bareness_mem_located hunknown) hrelative
      · rw [state_file_of_not_isRelative hrelative, newRuns_self]
        exact iff_of_false List.not_mem_nil hrelative
  | mailmap =>
    refine iff_of_true ?_ trivial
    rw [Operation.gitRuns, (leads_located ρ).newRuns_trans leads_mailmap]
    exact List.mem_append_left _ (bareness_mem_located hunknown)

/-- **The operations that ask where the working tree starts**, if it is not known. -/
theorem mem_gitRuns_location_iff (hunknown : ρ.top = none) (q : Operation) :
    ⟨location.words, h.git location.words⟩ ∈ q.gitRuns h ρ ↔ q.NeedsLocation h ρ := by
  have hnot : ⟨location.words, h.git location.words⟩ ∉ newRuns h ρ ((isBare h).run.run ρ).2 :=
    fun hrun => location_words_ne (lawful_bareness.words_of_mem_newRuns hrun)
  cases q with
  | isBare => exact iff_of_false hnot id
  | toplevel =>
    refine iff_of_true ?_ trivial
    show _ ∈ newRuns h ρ ((toplevel h).run.run ρ).2
    rw [show newRuns h ρ ((toplevel h).run.run ρ).2 = _ from lawful_location.newRuns_ask hunknown]
    exact List.mem_singleton_self _
  | answer call =>
    cases call with
    | worktreeMailmap =>
      show _ ∈ newRuns h ρ ((worktreeMailmap h).run.run ρ).2 ↔ HasWorktree h ρ
      rw [state_worktreeMailmap]
      exact location_mem_located_iff hunknown
    | hasWorktree =>
      refine iff_of_false ?_ id
      show _ ∉ newRuns h ρ ((hasWorktree h).run.run ρ).2
      rwa [run_hasWorktree]
    | config key =>
      exact iff_of_false (fun hrun => (leads_config key ρ).words_of_mem_newRuns hrun rfl) id
    | blob spec =>
      exact iff_of_false (fun hrun => (leads_blob spec ρ).words_of_mem_newRuns hrun rfl) id
    | file path =>
      show _ ∈ newRuns h ρ ((file h path).run.run ρ).2 ↔ IsRelative h path ∧ HasWorktree h ρ
      by_cases hrelative : IsRelative h path
      · rw [state_file hrelative, location_mem_located_iff hunknown, and_iff_right hrelative]
      · rw [state_file_of_not_isRelative hrelative, newRuns_self]
        exact iff_of_false List.not_mem_nil fun hneeds => hrelative hneeds.1
  | mailmap =>
    show _ ↔ HasWorktree h ρ
    rw [Operation.gitRuns, (leads_located ρ).newRuns_trans leads_mailmap, List.mem_append,
      location_mem_located_iff hunknown]
    refine or_iff_left_of_imp fun hrun => ?_
    -- loading asks for it only where it has been told that there is a working tree
    by_contra hnone
    cases hask : (isBare h).run.run ρ with
    | mk outcome ρ' =>
      rcases outcome with e | (- | -)
      · rw [after_mailmap_of_error hask, newRuns_self] at hrun
        exact absurd hrun List.not_mem_nil
      · exact hnone (hasWorktree_iff.mpr ⟨ρ', hask⟩)
      · have hbare : (located h ρ).bare = some true := by
          rw [located_of_not_hasWorktree hnone, hask]
          exact lawful_bareness.known_of_ask hask
        exact leads_mailmap.trail.words_ne_location hbare _ hrun rfl

/-- **The runs of an operation are a trail**, on which nothing is asked for that is known. -/
theorem trail_gitRuns (h : Host) (ρ : GitRepository) (q : Operation) :
    Trail Lacks ρ (q.gitRuns h ρ) (q.after h ρ) := by
  have hlacks : ∀ ρ words, Seeks ρ words → Lacks ρ words := fun _ _ hseeks => hseeks.toLacks
  cases q with
  | isBare => exact (leads_isBare ρ).trail.mono hlacks
  | toplevel =>
    refine (lawful_location.leads_ask fun hunknown => ?_).trail
    exact ⟨fun hwords => absurd hwords location_words_ne, fun _ => hunknown⟩
  | answer call => exact (leads_answer call ρ).trail.mono hlacks
  | mailmap => exact ((leads_located ρ).trans leads_mailmap).trail.mono hlacks

end Operation

/-! ## Histories -/

/-- The repository after one operation after the other. Git may answer differently each time. -/
def afterAll (ρ : GitRepository) : List (Host × Operation) → GitRepository
  | [] => ρ
  | (h, q) :: rest => afterAll (q.after h ρ) rest

/-- All runs of git that the operations make. -/
def allRuns (ρ : GitRepository) : List (Host × Operation) → List GitRun
  | [] => []
  | (h, q) :: rest => q.gitRuns h ρ ++ allRuns (q.after h ρ) rest

/-- **The runs of a history are a trail.** -/
theorem trail_allRuns (ρ : GitRepository) (past : List (Host × Operation)) :
    Trail Lacks ρ (allRuns ρ past) (afterAll ρ past) := by
  induction past generalizing ρ with
  | nil => exact .nil ρ
  | cons step rest ih =>
    obtain ⟨h, q⟩ := step
    exact (trail_gitRuns h ρ q).append (ih (q.after h ρ))

/-- After a history of the repository at a path, something has been asked for until git could say
it, and never again. -/
structure Memory.AskedOnce {α : Type} (m : Memory α)
    (needs : Host → GitRepository → Operation → Prop) (path : Text)
    (past : List (Host × Operation)) : Prop where
  /-- After a run that succeeds there is no other, and the question is answered with what this run
  printed, whatever git would say. -/
  settled : ∀ before output later,
    allRuns (atPath path) past = before ++ ⟨m.words, .finished output⟩ :: later →
      (∀ run ∈ later, run.words ≠ m.words) ∧
      ∀ h, (m.ask h).run.run (afterAll (atPath path) past) =
        (.ok (m.read output), afterAll (atPath path) past)
  /-- As long as none has succeeded, nothing is known, and the operations that need it, but no
  others, run git for it again. -/
  sought : (∀ output, ⟨m.words, .finished output⟩ ∉ allRuns (atPath path) past) →
    m.known (afterAll (atPath path) past) = none ∧
    ∀ (h : Host) (q : Operation),
      ⟨m.words, h.git m.words⟩ ∈ q.gitRuns h (afterAll (atPath path) past) ↔
        needs h (afterAll (atPath path) past) q
  /-- An operation for which git cannot say it leaves what is known as it was. -/
  unharmed : ∀ (h : Host) (q : Operation), (∀ output, h.git m.words ≠ .finished output) →
    m.known (q.after h (afterAll (atPath path) past)) = m.known (afterAll (atPath path) past)

/-- What is kept by a lawful memory is asked for once, by the operations that need it. -/
theorem Memory.Lawful.askedOnce {α : Type} {m : Memory α} (hm : m.Lawful)
    {needs : Host → GitRepository → Operation → Prop}
    (hneeds : ∀ {h ρ}, m.known ρ = none →
      ∀ q : Operation, ⟨m.words, h.git m.words⟩ ∈ q.gitRuns h ρ ↔ needs h ρ q)
    {path : Text} (hstart : m.known (atPath path) = none) (past : List (Host × Operation)) :
    m.AskedOnce needs path past where
  settled before output later hruns := by
    have htrail := trail_allRuns (atPath path) past
    rw [hruns] at htrail
    obtain ⟨ρ, -, hrest⟩ := htrail.exists_of_append
    cases hrest with
    | cons _ hlater =>
      have hknown : m.known (ρ.learn ⟨m.words, .finished output⟩) = some (m.read output) := by
        rw [hm.known_learn, told_finished]
        rfl
      obtain ⟨hend, hne⟩ := hlater.settled hm hknown
      exact ⟨hne, fun h => hm.ask_known hend⟩
  sought hnone := by
    have hunknown : m.known (afterAll (atPath path) past) = none := by
      refine ((trail_allRuns (atPath path) past).known_eq hm fun run hrun => ?_).trans hstart
      exact told_eq_none_iff.mpr fun output heq => hnone output (heq ▸ hrun)
    exact ⟨hunknown, fun h q => hneeds hunknown q⟩
  unharmed h q hfails := by
    refine (trail_gitRuns h _ q).known_eq hm fun run hrun => ?_
    refine told_eq_none_iff.mpr fun output heq => hfails output ?_
    have hanswer := answer_of_mem_newRuns hrun
    rw [heq] at hanswer
    exact hanswer.symm

/-- **What does not change is asked for once.** Whatever is done with the repository at a path, and
however git changes its answers, this is true of whether it is bare and of where its working tree
starts. Whether it has a working tree is answered with the opposite of what is known of the first.
The repository has learned from the runs one after the other, and from one that fails nothing, so
that all that is left of it is the command that was run. -/
theorem asked_once (path : Text) (past : List (Host × Operation)) :
    bareness.AskedOnce Operation.NeedsBareness path past ∧
    location.AskedOnce Operation.NeedsLocation path past ∧
    (∀ before output later,
      allRuns (atPath path) past = before ++ ⟨bareness.words, .finished output⟩ :: later →
        ∀ h, (hasWorktree h).run.run (afterAll (atPath path) past) =
          (.ok (!bareness.read output), afterAll (atPath path) past)) ∧
    afterAll (atPath path) past = (allRuns (atPath path) past).foldl learn (atPath path) ∧
    ∀ (ρ : GitRepository) (run : GitRun), run.output? = none →
      ρ.learn run = { ρ with runs := ρ.runs ++ [ρ.path :: run.words] } := by
  have hbare : bareness.AskedOnce Operation.NeedsBareness path past :=
    lawful_bareness.askedOnce mem_gitRuns_bareness_iff rfl past
  have htop : location.AskedOnce Operation.NeedsLocation path past :=
    lawful_location.askedOnce mem_gitRuns_location_iff rfl past
  refine ⟨hbare, htop, fun before output later hruns h => ?_,
    (trail_allRuns (atPath path) past).eq_foldl, fun ρ run => learn_of_failed⟩
  have hask := (hbare.settled before output later hruns).2 h
  rw [run_hasWorktree, show (isBare h).run.run _ = _ from hask]
  rfl

/-! ### A repository that cannot be asked at first -/

/-- A machine on which git fails. -/
def mutedHost : Host where
  git _ := .failed 128 []
  file _ := .error .noEntry
  home := []
  catalogue := .plain

/-- The muted machine when git answers, with a working tree at the root. -/
def answeringHost : Host :=
  { mutedHost with
    git := fun words =>
      if words = bareness.words then .finished (Utf8.encode "false\n".toList)
      else if words = location.words then .finished (Utf8.encode "/\n".toList)
      else .failed 1 [] }

/-- The muted machine when git says that the repository is bare. -/
def bareHost : Host :=
  { mutedHost with git := fun _ => .finished (Utf8.encode "true\n".toList) }

/-- A question that fails, the mailmap of the working tree, and the first question again. -/
def recovery : List (Host × Operation) :=
  [(mutedHost, .isBare), (answeringHost, .answer .worktreeMailmap), (bareHost, .isBare)]

/-- Git is run until it answers. Both answers stay, whatever it would say. -/
theorem asked_once_recovery :
    allRuns (atPath ['.']) recovery =
        [⟨bareness.words, .failed 128 []⟩,
          ⟨bareness.words, .finished (Utf8.encode "false\n".toList)⟩,
          ⟨location.words, .finished (Utf8.encode "/\n".toList)⟩] ∧
      ∀ h, (hasWorktree h).run.run (afterAll (atPath ['.']) recovery) =
          (.ok true, afterAll (atPath ['.']) recovery) ∧
        (toplevel h).run.run (afterAll (atPath ['.']) recovery) =
          (.ok ['/'], afterAll (atPath ['.']) recovery) := by
  have hruns : allRuns (atPath ['.']) recovery =
      [⟨bareness.words, .failed 128 []⟩,
        ⟨bareness.words, .finished (Utf8.encode "false\n".toList)⟩,
        ⟨location.words, .finished (Utf8.encode "/\n".toList)⟩] := rfl
  have hread : location.read (Utf8.encode "/\n".toList) = ['/'] := Utf8.decodeLossy_encode ['/']
  obtain ⟨-, htop, hworktree, -⟩ := asked_once ['.'] recovery
  refine ⟨hruns, fun h => ⟨hworktree [_] _ [_] hruns h, ?_⟩⟩
  rw [← hread]
  exact (htop.settled [_, _] _ [] hruns).2 h

end Attribution.GitRepository
