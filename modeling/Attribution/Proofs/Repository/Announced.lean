import Attribution.Proofs.Loading.Conversation
import Attribution.Proofs.Repository.Git
import Attribution.Proofs.Repository.Memory

/-!
# How a git repository fails

Whatever a git repository is asked, it answers, or it says itself which failure of git keeps it
from answering. The exceptions are three things that it gets and cannot use.

- `GitRepository.Question`: what a repository is asked.
- `GitRepository.Question.Unusable`: what it cannot use.
- `GitRepository.ends_question`, `GitRepository.outcome_of_unusable`: nothing else makes a question
  fail by misuse, and each of them does.
- `GitRepository.answered_or_announced`: what comes of any question.
-/

namespace Attribution.GitRepository

/-! ## Questions -/

/-- What a repository is asked: whether it is bare, where its working tree starts, or one of the
questions of the loader. -/
inductive Question
  | isBare
  | toplevel
  | answer (call : RepositoryCall)

namespace Question

/-- The answers to a question. -/
def Reply : Question → Type
  | isBare => Bool
  | toplevel => Text
  | answer call => call.Reply

/-- A question as a call. -/
def ask (h : Host) : (q : Question) → Ask q.Reply
  | isBare => GitRepository.isBare h
  | toplevel => GitRepository.toplevel h
  | answer call => (repository h).answer call

/-- What comes of a question that is put to a repository. -/
def outcome (h : Host) (q : Question) (ρ : GitRepository) : Except CallFailure q.Reply :=
  ((q.ask h).run.run ρ).1

/-- What is of no use for the answer to a question: the value of a configuration key or the name of
an object that git does not print in UTF-8, or a path to a user that cannot exist. -/
inductive Unusable (h : Host) : Question → Misuse → Prop
  | value {key : Text} {output : Bytes} (hgit : h.git (configWords key) = .finished output)
      (hbad : output.Undecodable) : Unusable h (answer (.config key)) .undecodable
  | object {spec : Text} {output : Bytes} (hgit : h.git (objectWords spec) = .finished output)
      (hbad : (Bytes.strip output).Undecodable) : Unusable h (answer (.blob spec)) .undecodable
  | path {path : Text} (huser : Path.NamesNoUser path) :
      Unusable h (answer (.file path)) .invalidValue

end Question

section Questions

variable {h : Host} {ρ : GitRepository} {q : Question} {cause : Misuse}

/-- **A question is answered**, or it fails by a failure of git or because of what is of no use. -/
theorem ends_question (h : Host) (q : Question) :
    Ends (q.ask h) (fun _ => True) (CallFailure.OneOf (Complaint h) (q.Unusable h)) := by
  cases q with
  | isBare => exact ends_isBare
  | toplevel => exact ends_toplevel
  | answer call =>
    cases call with
    | worktreeMailmap => exact ends_worktreeMailmap.mono (fun _ _ => trivial) fun _ he => he
    | hasWorktree => exact ends_hasWorktree
    | config key =>
      refine ((ends_config key).oneOf ?_).mono (fun _ _ => trivial) fun _ he => he
      rintro cause ⟨rfl, output, hgit, hbad⟩
      exact .value hgit hbad
    | blob spec =>
      refine ((ends_blob spec).oneOf ?_).mono (fun _ _ => trivial) fun _ he => he
      rintro cause ⟨rfl, output, hgit, hbad⟩
      exact .object hgit hbad
    | file path =>
      refine ((ends_file path).oneOf ?_).mono (fun _ _ => trivial) fun _ he => he
      rintro cause ⟨rfl, huser⟩
      exact .path huser

/-! ## What is of no use -/

theorem run_decodeOutput {output : Bytes} (hbad : output.Undecodable) :
    (decodeOutput output).run.run ρ = (.error (.misuse .undecodable), ρ) := by
  obtain ⟨f, hdecode⟩ := Utf8.exists_error_iff.mpr hbad
  rw [decodeOutput, hdecode]
  rfl

/-- A question that goes on from the text of an output fails where there is none. -/
theorem outcome_of_undecodable {α : Type} {arguments : List Text} {output : Bytes}
    (hgit : h.git arguments = .finished output) (part : Bytes → Bytes)
    (hbad : (part output).Undecodable) (rest : Text → Ask (Option α)) :
    ((do
      match ← runIfAny h arguments with
      | none => return none
      | some output => rest (← decodeOutput (part output)) : Ask (Option α)).run.run ρ).1 =
      .error (.misuse .undecodable) := by
  rw [run_bind, runIfAny, run_bind, run_run, hgit]
  show ((decodeOutput (part output) >>= rest).run.run _).1 = _
  rw [run_bind, run_decodeOutput hbad]

/-- **What is of no use** makes the question fail, whatever is known of the repository. -/
theorem outcome_of_unusable (hunusable : q.Unusable h cause) (ρ : GitRepository) :
    q.outcome h ρ = .error (.misuse cause) := by
  cases hunusable with
  | value hgit hbad => exact outcome_of_undecodable hgit id hbad _
  | object hgit hbad => exact outcome_of_undecodable hgit Bytes.strip hbad _
  | @path path huser =>
    have hfile : (file h path).run.run ρ = (.error (.misuse .invalidValue), ρ) := by
      rw [file, run_bind, expandHome, Path.expandHome?_eq_none_iff.mpr huser]
      rfl
    exact congrArg Prod.fst hfile

/-- **A question is answered or its failure announced**, given that messages are not masked: git
could not be started or it failed, and the repository has words for that. Otherwise, and for no
other reason, it got something that is of no use to it. -/
theorem answered_or_announced (hplain : h.catalogue = .plain) (q : Question) (ρ : GitRepository) :
    ((∃ reply, q.outcome h ρ = .ok reply) ∨
      (∃ cause message, q.outcome h ρ = .error (.access cause) ∧ Complaint h cause ∧
        (Failure.access cause).report h.catalogue = .condition .access message) ∨
      ∃ cause, q.outcome h ρ = .error (.misuse cause)) ∧
    ∀ cause, q.outcome h ρ = .error (.misuse cause) ↔ q.Unusable h cause := by
  have hends : Except.Meets (fun _ => True) _ (q.outcome h ρ) := ends_question h q ρ
  constructor
  · cases houtcome : q.outcome h ρ with
    | ok reply => exact .inl ⟨reply, rfl⟩
    | error e =>
      rw [houtcome] at hends
      cases hends with
      | @access cause hcomplaint =>
        obtain ⟨message, hreport⟩ := cause.report_plain
        exact .inr (.inl ⟨cause, message, rfl, hcomplaint, hplain ▸ hreport⟩)
      | @misuse cause hunusable => exact .inr (.inr ⟨cause, rfl⟩)
  · refine fun cause => ⟨fun houtcome => ?_, fun hunusable => outcome_of_unusable hunusable ρ⟩
    rw [houtcome] at hends
    cases hends with
    | misuse hunusable => exact hunusable

end Questions

/-! ### A value in another encoding -/

/-- A machine on which git knows of no repository, and the name of a file is configured in
Latin-1. -/
def accentedHost : Host where
  git words :=
    if words = configWords Loading.fileKey then .finished [0x63, 0x61, 0x66, 0xE9, 10]
    else .failed 128 []
  file _ := .error .noEntry
  home := []
  catalogue := .plain

/-- On this machine the failure of git is announced, and the value is of no use. -/
theorem answered_or_announced_accentedHost :
    accentedHost.catalogue = .plain ∧
      (∃ cause message,
        Question.isBare.outcome accentedHost (atPath ['.']) = .error (.access cause) ∧
        (Failure.access cause).report accentedHost.catalogue = .condition .access message) ∧
      (Question.answer (.config Loading.fileKey)).outcome accentedHost (atPath ['.']) =
        .error (.misuse .undecodable) := by
  have hgit : accentedHost.git (configWords Loading.fileKey) =
      .finished [0x63, 0x61, 0x66, 0xE9, 10] := rfl
  have hbad : Bytes.Undecodable [0x63, 0x61, 0x66, 0xE9, 10] :=
    Utf8.exists_error_iff.mp ⟨⟨3, 0xE9, [], .continuationByte⟩, by cbv⟩
  have hbare := answered_or_announced (h := accentedHost) rfl .isBare (atPath ['.'])
  have hvalue := answered_or_announced (h := accentedHost) rfl
    (.answer (.config Loading.fileKey)) (atPath ['.'])
  refine ⟨rfl, ?_, (hvalue.2 _).mpr (.value hgit hbad)⟩
  rcases hbare.1 with ⟨reply, hreply⟩ | ⟨cause, message, houtcome, -, hreport⟩ | ⟨cause, hcause⟩
  · cases hreply
  · exact ⟨cause, message, houtcome, hreport⟩
  · cases hcause

-- no user has a name with a zero character in it
example : (Question.answer (.file "~a\x00b/m".toList)).outcome accentedHost (atPath ['.']) =
    .error (.misuse .invalidValue) := by cbv

/-- Not all failures are announced: a value that is not UTF-8 makes its question fail by misuse. -/
theorem not_always_announced :
    ¬ ∀ (h : Host) (q : Question) (ρ : GitRepository), h.catalogue = .plain →
      (∃ reply, q.outcome h ρ = .ok reply) ∨ ∃ cause, q.outcome h ρ = .error (.access cause) := by
  intro hall
  have hfails : (Question.answer (.config Loading.fileKey)).outcome accentedHost (atPath ['.']) =
      .error (.misuse .undecodable) := by cbv
  rcases hall accentedHost (.answer (.config Loading.fileKey)) (atPath ['.']) rfl with
    ⟨reply, h⟩ | ⟨cause, h⟩
  · rw [hfails] at h
    cases h
  · rw [hfails] at h
    cases h

end Attribution.GitRepository
