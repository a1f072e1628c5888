import Attribution.Proofs.Contact
import Attribution.Proofs.Loading.Failures
import Attribution.Proofs.Session.Answers

/-!
# Runs that crash

A run ends as it should or by a failure of the domain, which is its last word, except
for a few causes.

- `Session.endingOf_eq_crashed_iff`: a run crashes by misuse only.
- `Session.LoadMisuse`, `Session.ends_load`: what of the sources that options name cannot
  be used.
- `Session.answer_eq_misuse_iff`: the inputs that fail for a reason outside the domain.
- `Session.run_crashes_iff`: exactly which runs crash.
-/

namespace Attribution

/-! ## Failures as last words -/

/-- Every failure of the domain has a message in the plain catalogue. -/
theorem Failure.report_plain (e : Failure) :
    (∃ cause, e = .misuse cause) ∨ ∃ kind t, e.report .plain = .condition kind t := by
  cases e with
  | parse cause => cases cause <;> exact .inr ⟨.parse, _, rfl⟩
  | field cause => cases cause <;> exact .inr ⟨.field, _, rfl⟩
  | identity cause => cases cause <;> exact .inr ⟨.identity, _, rfl⟩
  | access cause => exact .inr ⟨.access, cause.report_plain⟩
  | misuse cause => exact .inl ⟨cause, rfl⟩

namespace Session

theorem endingOf_eq_crashed_iff {e : Failure} {cause : Misuse} :
    endingOf .plain e = .crashed cause ↔ e = .misuse cause := by
  rcases e.report_plain with ⟨cause', rfl⟩ | ⟨kind, t, hreport⟩
  · simp [endingOf, Failure.report]
  · have hexit : endingOf .plain e = .exited (.text ("fatal: ".toList ++ t)) := by
      rw [endingOf, hreport]
      show Ending.exited (.text ("fatal: ".toList ++ (t ++ []))) = _
      rw [List.append_nil]
    rw [hexit]
    refine iff_of_false nofun ?_
    rintro rfl
    cases hreport

/-! ## Loading -/

section Loading

open Loading GitRepository

variable {h : Host} {o : Options}

/-- What of the sources that options name cannot be used: a lost value, something in the
repository, or a blob whose object git does not name in UTF-8. -/
inductive LoadMisuse (h : Host) (o : Options) : Misuse → Prop
  | lost (hlost : .lost ∈ o.repo.toList ++ o.mailmapFiles ++ o.mailmapBlobs) :
      LoadMisuse h o .wrongType
  | repository {path : Text} {cause : Misuse} (hrepo : o.repo = some (.text path))
      (hcause : RepositoryMisuse h cause) : LoadMisuse h o cause
  | blob {spec : Text} {output : Bytes} (hspec : .text spec ∈ o.mailmapBlobs)
      (hgit : h.git (objectWords spec) = .finished output)
      (hbad : (Bytes.strip output).Undecodable) : LoadMisuse h o .undecodable

theorem ends_valueText {σ : Type} {v : OptionValue}
    (hv : v ∈ o.repo.toList ++ o.mailmapFiles ++ o.mailmapBlobs) :
    Ends (valueText v : Load σ Text) (fun t => v = .text t) (Failure.Allows (LoadMisuse h o)) := by
  cases v with
  | text t => exact ends_pure rfl
  | lost =>
    refine ends_throw fun cause heq => ?_
    cases heq
    exact .lost hv

theorem ends_loadRepository :
    Ends (loadRepository h o) (fun _ => True) (Failure.Allows (LoadMisuse h o)) := by
  unfold loadRepository
  split
  · exact ends_pure trivial
  · next v hrepo =>
    have hv : v ∈ o.repo.toList ++ o.mailmapFiles ++ o.mailmapBlobs := by simp [hrepo]
    refine (ends_valueText hv).bind fun path hpath => ends_modify.bind fun _ _ => ?_
    refine ends_addRepository.mono (fun _ _ => trivial) fun e he cause heq => ?_
    exact .repository (hpath ▸ hrepo) (he cause heq)

theorem ends_loadFile {v : OptionValue} (hv : v ∈ o.mailmapFiles) :
    Ends (loadFile h v) (fun _ => True) (Failure.Allows (LoadMisuse h o)) := by
  have hvalue : v ∈ o.repo.toList ++ o.mailmapFiles ++ o.mailmapBlobs := by simp [hv]
  exact (ends_valueText hvalue).bind fun _ _ => ends_addPath h _

theorem ends_loadBlob {v : OptionValue} (hv : v ∈ o.mailmapBlobs) :
    Ends (loadBlob h o v) (fun _ => True) (Failure.Allows (LoadMisuse h o)) := by
  have hvalue : v ∈ o.repo.toList ++ o.mailmapFiles ++ o.mailmapBlobs := by simp [hv]
  have hblob : Ends (do
      Loading.addBlob h.catalogue (GitRepository.repository h) (← valueText v))
      (fun _ => True) (Failure.Allows (LoadMisuse h o)) := by
    refine (ends_valueText hvalue).bind fun spec hspec => ?_
    refine (ends_addBlob spec).mono (fun _ _ => trivial) fun e he cause heq => ?_
    obtain ⟨rfl, output, hgit, hbad⟩ := he cause heq
    exact .blob (hspec ▸ hv) hgit hbad
  unfold loadBlob
  dsimp only
  split
  · exact ends_modify.bind fun _ _ => hblob
  · exact hblob

/-- **All sources that the options name.** -/
theorem ends_load :
    Ends (load h o) (fun _ => True) (Failure.Allows (LoadMisuse h o)) :=
  ends_loadRepository.bind fun _ _ =>
    (ends_forM fun _ hv => ends_loadFile hv).bind fun _ _ =>
      ends_forM fun _ hv => ends_loadBlob hv

end Loading

/-! ## Answers -/

section Answers

variable {st : Store} {o : Options} {input : Text}

/-- **The inputs that fail for a reason outside the domain** are signatures with a
timestamp of too many digits. -/
theorem answer_eq_misuse_iff {cause : Misuse} :
    answer st o input = .error (.misuse cause) ↔
      o.signatures = true ∧ Signature.Overlong input.chomp ∧ cause = .invalidValue := by
  rw [answer_eq_iff, ← Signature.readText_eq_misuse_iff]
  constructor
  · intro h
    cases h with
    | noContact _ hread => cases (Contact.read_eq_error_iff.mp hread).2
    | noSignature ho hread => exact ⟨ho, hread⟩
    | unresolved _ _ hresolve =>
      obtain ⟨cause', heq⟩ := Signature.ofParts_eq_error hresolve
      cases heq
  · rintro ⟨ho, hread⟩
    exact .noSignature ho hread

/-- **The first input that fails** ends the answers. -/
theorem answerAll_eq_error_iff {inputs : List Text} {e : Failure} :
    (answerAll st o inputs).2 = .error e ↔
      ∃ before input after, inputs = before ++ input :: after ∧
        (∀ i ∈ before, ∃ line, answer st o i = .ok line) ∧ answer st o input = .error e := by
  constructor
  · intro h
    obtain ⟨out, hall⟩ : ∃ out, answerAll st o inputs = (out, .error e) := ⟨_, Prod.ext rfl h⟩
    cases answerAll_eq_iff.mp hall with
    | upTo hlines hfails =>
      exact ⟨_, _, _, rfl, exists_answers_iff.mp ⟨_, hlines⟩, answer_eq_iff.mpr hfails⟩
  · rintro ⟨before, input, after, rfl, hbefore, hinput⟩
    obtain ⟨lines, hlines⟩ := exists_answers_iff.mpr hbefore
    rw [answerAll_append hlines, answerAll, hinput]

end Answers

/-! ## Runs -/

section Runs

variable {h : Host} {o : Options}

/-- The answers to some inputs end with a signature whose timestamp has too many digits. -/
def StopsAtOverlong (st : Store) (o : Options) (inputs : List Text) : Prop :=
  o.list = false ∧ o.signatures = true ∧
    ∃ before input after, inputs = before ++ input :: after ∧
      (∀ i ∈ before, ∃ line, answer st o i = .ok line) ∧ Signature.Overlong input.chomp

/-- What is written once the store is loaded fails for a reason outside the domain only at a
signature with too many digits in its timestamp. -/
theorem output_eq_misuse_iff {st : Store} {stdin : Text} {cause : Misuse} :
    (output st o stdin).2 = .error (.misuse cause) ↔
      StopsAtOverlong st o (inputs o stdin) ∧ cause = .invalidValue := by
  unfold output
  split
  · next hlist => exact iff_of_false nofun fun h => by simp [h.1.1] at hlist
  · next hlist =>
    rw [answerAll_eq_error_iff]
    constructor
    · rintro ⟨before, input, after, hinputs, hbefore, hinput⟩
      obtain ⟨ho, hoverlong, hcause⟩ := answer_eq_misuse_iff.mp hinput
      exact ⟨⟨by simpa using hlist, ho, before, input, after, hinputs, hbefore, hoverlong⟩, hcause⟩
    · rintro ⟨⟨-, ho, before, input, after, hinputs, hbefore, hoverlong⟩, hcause⟩
      exact ⟨before, input, after, hinputs, hbefore,
        answer_eq_misuse_iff.mpr ⟨ho, hoverlong, hcause⟩⟩

/-- A run crashes where what it does fails for a reason outside the domain. -/
theorem ending_runOptions {stdin : Text} {outcome : Except Failure Unit}
    {l : Loading GitRepository} {cause : Misuse} (hplain : h.catalogue = .plain)
    (hload : (Loading.start (.atPath ['.'])).perform (load h o) = (outcome, l)) :
    (runOptions h o stdin).ending = .crashed cause ↔
      (outcome >>= fun _ => (output l.store o stdin).2) = .error (.misuse cause) := by
  cases outcome with
  | error e =>
    rw [(runOptions_of_error hload).2, hplain]
    exact endingOf_eq_crashed_iff.trans (by simp [bind, Except.bind])
  | ok u =>
    rw [(runOptions_of_ok hload).2, hplain]
    show endingAfter .plain (output l.store o stdin).2 = _ ↔ (output l.store o stdin).2 = _
    cases (output l.store o stdin).2 with
    | ok u => exact iff_of_false nofun nofun
    | error e => exact endingOf_eq_crashed_iff.trans (by simp)

/-- **Which runs crash**, given that messages are not masked. A run crashes exactly if
loading fails for a reason outside the domain, which is one of those listed, or if the
sources are loaded and the first input without an answer is a signature with too many
digits in its timestamp. Every other run ends as it should, or with a status. Words and inputs
are texts: what becomes of lone surrogates in them, which no output can encode, is not said. -/
theorem run_crashes_iff (hplain : h.catalogue = .plain) (argv : List Text) (stdin : Text)
    (cause : Misuse) :
    (run h argv stdin).ending = .crashed cause ↔
      ∃ o outcome l, Options.read .plain argv = .ok o ∧
        (Loading.start (.atPath ['.'])).perform (load h o) = (outcome, l) ∧
        ((outcome = .error (.misuse cause) ∧ LoadMisuse h o cause) ∨
          (outcome = .ok () ∧ StopsAtOverlong l.store o (inputs o stdin) ∧
            cause = .invalidValue)) := by
  rw [run, hplain]
  cases hread : Options.read .plain argv with
  | error e =>
    refine iff_of_false (fun hcrashed => by cases hcrashed) ?_
    rintro ⟨o, outcome, l, heq, -⟩
    cases heq
  | ok o =>
    show (runOptions h o stdin).ending = _ ↔ _
    cases hload : (Loading.start (.atPath ['.'])).perform (load h o) with
    | mk outcome l =>
      rw [ending_runOptions hplain hload, Except.bind_eq_error_iff]
      simp only [output_eq_misuse_iff]
      constructor
      · rintro (rfl | ⟨u, rfl, hstops⟩)
        · exact ⟨o, _, l, rfl, hload, .inl ⟨rfl, ends_load.error hload cause rfl⟩⟩
        · exact ⟨o, _, l, rfl, hload, .inr ⟨rfl, hstops⟩⟩
      · rintro ⟨o', outcome', l', heq, hload', ⟨rfl, -⟩ | ⟨rfl, hstops⟩⟩
        · cases heq
          rw [hload] at hload'
          cases hload'
          exact .inl rfl
        · cases heq
          rw [hload] at hload'
          cases hload'
          exact .inr ⟨(), rfl, hstops⟩

end Runs

/-- A machine without files, on which git prints a byte that is not UTF-8, whatever it is
asked. -/
def garbledHost : Host where
  git _ := .finished [0xFF]
  file _ := .error .noEntry
  home := "/home/a".toList
  catalogue := .plain

/-- A run crashes on this machine, since the name of the configured blob cannot be decoded. -/
theorem run_crashes_garbledHost :
    garbledHost.catalogue = .plain ∧
      (run garbledHost ["--list".toList] []).ending = .crashed .undecodable := by
  have hread : Options.read .plain ["--list".toList] =
      .ok { Options.initial with list := true, repo := some (.text ['.']) } := by cbv
  have hfails : ((Loading.start (.atPath ['.'])).perform (load garbledHost
      { Options.initial with list := true, repo := some (.text ['.']) })).1 =
        .error (.misuse .undecodable) := by cbv
  have hbad : Bytes.Undecodable [0xFF] := by
    intro t ht
    have hdecode : (Utf8.decode [0xFF]).toOption = none := by cbv
    rw [Utf8.decode_eq_ok_iff.mpr ht] at hdecode
    cases hdecode
  exact ⟨rfl, (run_crashes_iff rfl _ _ _).mpr ⟨_, _, _, hread, (Prod.eta _).symm,
    .inl ⟨hfails, .repository rfl (.config (.inl rfl) rfl hbad)⟩⟩⟩

-- an option without its value crashes before git is asked anything
example : (run garbledHost ["--list".toList, "--repo=--".toList] []).ending =
    .crashed .wrongType := by cbv

/-- Not all runs end as they should or with a status, even if messages are not masked. -/
theorem not_run_never_crashes :
    ¬ ∀ (h : Host) (argv : List Text) (stdin : Text), h.catalogue = .plain →
      (run h argv stdin).ending = .finished ∨
        ∃ status, (run h argv stdin).ending = .exited status := by
  intro hnever
  have hcrash : (run garbledHost ["--list".toList] []).ending = .crashed .undecodable := by cbv
  rcases hnever garbledHost ["--list".toList] [] rfl with h | ⟨status, h⟩
  · rw [hcrash] at h
    cases h
  · rw [hcrash] at h
    cases h

end Session

end Attribution
