import Attribution.Proofs.Outcomes
import Attribution.Repository.Git

/-!
# What a repository remembers of git

Of all that a repository runs git for it keeps two things: whether it is bare, and where its working
tree starts.

- `GitRun`: a run of git, with how it ended.
- `GitRepository.Memory`: something that git is asked for and that is kept.
- `GitRepository.learn`: the repository after a run.
- `GitRepository.Memory.Lawful`: only runs tell it, it is asked for only if it is not known, and a
  failed run tells nothing.
- `GitRepository.lawful_bareness`, `GitRepository.lawful_location`: the two memories are lawful.
-/

namespace Attribution

/-- A run of git: the words after `git`, and how it ended. -/
structure GitRun where
  words : List Text
  answer : GitAnswer

/-- What a run printed, if it succeeded. -/
def GitRun.output? (run : GitRun) : Option Bytes :=
  match run.answer with
  | .finished output => some output
  | _ => none

namespace GitRepository

/-! ## Memories -/

/-- Something that a repository asks git for and keeps: the words that ask for it, how the output is
read, what is known of it, and the question. -/
structure Memory (α : Type) where
  words : List Text
  read : Bytes → α
  known : GitRepository → Option α
  ask : Host → Ask α

/-- What a run tells: nothing if git was run for something else, or failed. -/
def Memory.told {α : Type} (m : Memory α) (run : GitRun) : Option α :=
  if run.words = m.words then run.output?.map m.read else none

/-- Whether the repository is bare. -/
def bareness : Memory Bool where
  words := ["rev-parse".toList, "--is-bare-repository".toList]
  read output := output.strip == Utf8.encode "true".toList
  known ρ := ρ.bare
  ask := isBare

/-- Where the working tree starts. -/
def location : Memory Text where
  words := ["rev-parse".toList, "--show-toplevel".toList]
  read output := Utf8.decodeLossy (trimEnd (· == 10) output)
  known ρ := ρ.top
  ask := toplevel

theorem location_words_ne : location.words ≠ bareness.words := by decide

/-- The repository after a run: it keeps the command, and what the run tells. -/
def learn (ρ : GitRepository) (run : GitRun) : GitRepository where
  path := ρ.path
  bare := (bareness.told run).or ρ.bare
  top := (location.told run).or ρ.top
  runs := ρ.runs ++ [ρ.path :: run.words]

/-- What the words ask for is not known. -/
structure Lacks (ρ : GitRepository) (words : List Text) : Prop where
  bare : words = bareness.words → ρ.bare = none
  top : words = location.words → ρ.top = none

/-- What a lawful memory is like: it is told by runs only, it is asked for only if it is not known,
and a failed run tells nothing. -/
structure Memory.Lawful {α : Type} (m : Memory α) : Prop where
  known_learn (ρ : GitRepository) (run : GitRun) :
    m.known (ρ.learn run) = (m.told run).or (m.known ρ)
  unknown {ρ : GitRepository} (h : ρ.Lacks m.words) : m.known ρ = none
  ask_known {h : Host} {ρ : GitRepository} {a : α} (hknown : m.known ρ = some a) :
    (m.ask h).run.run ρ = (.ok a, ρ)
  ask_unknown {h : Host} {ρ : GitRepository} (hunknown : m.known ρ = none) :
    ∃ outcome, (m.ask h).run.run ρ = (outcome, ρ.learn ⟨m.words, h.git m.words⟩) ∧
      ∀ a, outcome = .ok a ↔ m.told ⟨m.words, h.git m.words⟩ = some a

section Memory

variable {α : Type} {m : Memory α} {h : Host} {ρ : GitRepository} {run : GitRun} {a : α}

theorem Memory.told_finished (output : Bytes) :
    m.told ⟨m.words, .finished output⟩ = some (m.read output) :=
  if_pos rfl

theorem Memory.told_eq_some_iff :
    m.told run = some a ↔ ∃ output, run = ⟨m.words, .finished output⟩ ∧ a = m.read output := by
  obtain ⟨words, answer⟩ := run
  constructor
  · intro htold
    unfold told at htold
    split at htold
    · next hwords =>
      obtain rfl : words = m.words := hwords
      cases answer with
      | finished output => exact ⟨output, rfl, (Option.some.inj htold).symm⟩
      | failed status errors => cases htold
      | unstartable cause => cases htold
    · cases htold
  · rintro ⟨output, hrun, rfl⟩
    rw [hrun, told_finished]

/-- Any other run tells nothing. -/
theorem Memory.told_eq_none_iff :
    m.told run = none ↔ ∀ output, run ≠ ⟨m.words, .finished output⟩ := by
  rw [Option.eq_none_iff_forall_ne_some]
  constructor
  · intro hnone output hrun
    exact hnone (m.read output) (told_eq_some_iff.mpr ⟨output, hrun, rfl⟩)
  · intro hne a htold
    obtain ⟨output, hrun, -⟩ := told_eq_some_iff.mp htold
    exact hne output hrun

/-- **A run that fails leaves the repository as it was**, but for the command that was run. -/
theorem learn_of_failed (hfailed : run.output? = none) :
    ρ.learn run = { ρ with runs := ρ.runs ++ [ρ.path :: run.words] } := by
  have hnone {β : Type} (m : Memory β) : m.told run = none := by
    rw [Memory.told, hfailed]
    exact ite_self none
  rw [learn, hnone, hnone]
  rfl

theorem learn_of_length (hlength : run.words.length ≠ 2) :
    ρ.learn run = { ρ with runs := ρ.runs ++ [ρ.path :: run.words] } := by
  have hbare : bareness.told run = none := if_neg fun hwords => hlength (by rw [hwords]; rfl)
  have htop : location.told run = none := if_neg fun hwords => hlength (by rw [hwords]; rfl)
  rw [learn, hbare, htop]
  rfl

/-! ### Running git -/

theorem run_run (words : List Text) :
    (GitRepository.run h words).run.run ρ =
      (match h.git words with
        | .finished output => .ok (.ok output)
        | .failed status errors => .ok (.error ⟨.words ("git".toList :: words), status, errors⟩)
        | .unstartable cause => .error (.access (.gitUnavailable cause)),
      { ρ with runs := ρ.runs ++ [ρ.path :: words] }) := by
  unfold GitRepository.run
  cases h.git words <;> rfl

/-- **Whether a repository is bare** is a lawful memory. -/
theorem lawful_bareness : bareness.Lawful where
  known_learn ρ run := rfl
  unknown hlacks := hlacks.bare rfl
  ask_known {h ρ a} hknown := by
    obtain ⟨path, bare, top, runs⟩ := ρ
    obtain rfl : bare = some a := hknown
    rfl
  ask_unknown {h ρ} hunknown := by
    have hstart : (get : Ask GitRepository).run.run ρ = (.ok ρ, ρ) := rfl
    have hnone : ρ.bare = none := hunknown
    have hrun : (GitRepository.run h
      ["rev-parse".toList, "--is-bare-repository".toList]).run.run ρ = _ := run_run bareness.words
    show ∃ outcome, (isBare h).run.run ρ = _ ∧ _
    unfold isBare
    rw [run_bind, hstart]
    dsimp only
    rw [hnone]
    dsimp only
    rw [run_bind, hrun]
    cases h.git bareness.words with
    | finished output =>
      refine ⟨.ok (bareness.read output), rfl, fun a => ?_⟩
      rw [Memory.told_finished, Except.ok.injEq, Option.some.injEq]
    | failed status errors => exact ⟨_, rfl, fun a => iff_of_false nofun nofun⟩
    | unstartable cause => exact ⟨_, rfl, fun a => iff_of_false nofun nofun⟩

/-- **Where the working tree starts** is a lawful memory. -/
theorem lawful_location : location.Lawful where
  known_learn ρ run := rfl
  unknown hlacks := hlacks.top rfl
  ask_known {h ρ a} hknown := by
    obtain ⟨path, bare, top, runs⟩ := ρ
    obtain rfl : top = some a := hknown
    rfl
  ask_unknown {h ρ} hunknown := by
    have hstart : (get : Ask GitRepository).run.run ρ = (.ok ρ, ρ) := rfl
    have hnone : ρ.top = none := hunknown
    have hrun : (GitRepository.run h
      ["rev-parse".toList, "--show-toplevel".toList]).run.run ρ = _ := run_run location.words
    show ∃ outcome, (toplevel h).run.run ρ = _ ∧ _
    unfold toplevel
    rw [run_bind, hstart]
    dsimp only
    rw [hnone]
    dsimp only
    rw [run_bind, runOrFail, run_bind, hrun]
    cases h.git location.words with
    | finished output =>
      refine ⟨.ok (location.read output), rfl, fun a => ?_⟩
      rw [Memory.told_finished, Except.ok.injEq, Option.some.injEq]
    | failed status errors => exact ⟨_, rfl, fun a => iff_of_false nofun nofun⟩
    | unstartable cause => exact ⟨_, rfl, fun a => iff_of_false nofun nofun⟩

end Memory

end GitRepository

end Attribution
