import Attribution.Proofs.Session.Answers

/-!
# Signatures that a run writes and reads again

What comes of the line that is written for a signature, if it is an input once more.

- `Store.Keeps`: a store leaves the name and the email of a signature as they are.
- `Session.answer_of_keeps`: what is written for such a signature.
- `Session.inputs_line_iff`: when a line on the standard input is one input.
- `Session.signature_fed_back`: the signatures that come back, and those that do not.
-/

namespace Attribution

/-- A store leaves the name and the email of a signature as they are. -/
def Store.Keeps (st : Store) (s : Signature) : Prop :=
  st.resolve (some s.name.val) s.email.val = (some s.name.val, s.email.val)

theorem Store.keeps_empty (s : Signature) : empty.Keeps s := by
  rw [Keeps, resolve_eq_search]
  rfl

theorem Store.resolveSignature_of_keeps {st : Store} {s : Signature} (h : st.Keeps s) :
    st.resolveSignature s = .ok s := by
  unfold resolveSignature
  rw [h]
  exact Signature.ofParts_text_eq_ok_iff.mpr
    ⟨s.name.property.2.1, s.email.property.2.1, rfl, rfl⟩

namespace Session

/-! ## Answers -/

section Answers

variable {st : Store} {o : Options} {s : Signature} {input : Text}

/-- What is written for a signature that the store leaves as it is. -/
theorem answer_of_keeps (ho : o.signatures = true) (hkeeps : st.Keeps s)
    (hread : Signature.read (.text input) = .ok s) :
    answer st o input = .ok (s.written ++ ['\n']) :=
  answer_eq_iff.mpr (.signature ho hread (Store.resolveSignature_of_keeps hkeeps))

end Answers

/-! ## Lines of the standard input -/

/-- **When a line is one input**: on the standard input, it is if it holds no carriage
return. -/
theorem inputs_line_iff {o : Options} {t : Text} (hline : '\n' ∉ t) (ht : t.isBlankText = false)
    (hcontacts : o.contacts = []) (hstdin : o.stdin = true) :
    inputs o (t ++ ['\n']) = [t] ↔ '\r' ∉ t := by
  have hinputs : inputs o (t ++ ['\n']) =
      (inputLines (t ++ ['\n'])).filter (!·.isBlankText) := by
    rw [inputs, hcontacts, hstdin]
    rfl
  rw [hinputs]
  constructor
  · intro h
    have hmem : t ∈ (inputLines (t ++ ['\n'])).filter (!·.isBlankText) := by
      rw [h]
      exact List.mem_singleton_self t
    exact ((hasLines_inputLines _).isUnbroken t (List.mem_filter.mp hmem).1).2
  · intro hcr
    have hlines : Text.HasLines ([t].flatMap (· ++ ['\n'])) [t] :=
      Text.hasLines_flatMap (List.forall_mem_singleton.mpr ⟨hline, hcr⟩)
    rw [List.flatMap_singleton, ← inputLines_eq_iff] at hlines
    rw [hlines, List.filter_cons_of_pos (by rw [ht]; rfl), List.filter_nil]

-- a carriage return inside a name makes two inputs of the line
example : inputs { Options.initial with stdin := true } "A\rB <a> 0 +0000\n".toList =
    ["A".toList, "B <a> 0 +0000".toList] := by decide

/-! ## Signatures fed back -/

/-- **Whatever is read can be written, but not always read again.** A signature that is
read has a text. If its offset is less than a hundred hours, the text is read as the same
signature, and where no rule changes who it is of, the line that a run writes for it is
answered by the same line. The offsets that are read end a little above that, at 99 hours
and 99 minutes; the texts of those that remain are refused. On the standard input, the
line is one input unless the name or the email holds a carriage return. Names and emails are
texts: of those with lone surrogates, which have no bytes, nothing is said. -/
theorem signature_fed_back {d : Datum} {s : Signature} (h : Signature.read d = .ok s) :
    s.offset.natAbs < 6040 ∧ s.write = .ok s.written ∧
    (∀ d', d' = .text s.written ∨ d' = .bytes (Utf8.encode s.written) →
      Signature.read d' = if s.offset.natAbs < 6000 then .ok s
        else .error (.parse (.signature s.written))) ∧
    ∀ (st : Store) (o : Options), o.signatures = true → st.Keeps s →
      (∀ input, d = .text input → answer st o input = .ok (s.written ++ ['\n'])) ∧
      answer st o s.written =
        (if s.offset.natAbs < 6000 then .ok (s.written ++ ['\n'])
          else .error (.parse (.signature s.written))) ∧
      (o.contacts = [] → o.stdin = true →
        (inputs o (s.written ++ ['\n']) = [s.written] ↔
          '\r' ∉ s.name.val ∧ '\r' ∉ s.email.val)) := by
  obtain ⟨line, -, hspells⟩ := Signature.read_eq_ok_iff.mp h
  obtain ⟨htime, hoffset⟩ := hspells.natAbs_lt
  have hwrite : s.write = .ok s.written := Signature.write_of_lt htime hoffset
  have hread := Signature.read_written htime
  refine ⟨hoffset, hwrite, fun d' hd' => ?_, fun st o ho hkeeps => ⟨?_, ?_, ?_⟩⟩
  · rcases hd' with rfl | rfl
    · exact hread
    · exact (Signature.read_encode s.written).trans hread
  · rintro input rfl
    exact answer_of_keeps ho hkeeps h
  · split at hread
    · next hlt =>
      rw [if_pos hlt]
      exact answer_of_keeps ho hkeeps hread
    · next hlt =>
      rw [if_neg hlt]
      exact answer_eq_iff.mpr (.noSignature ho hread)
  · intro hcontacts hstdin
    have hblank : s.written.isBlankText = false := by
      have hopen : '<' ∈ s.written := by simp [Signature.written]
      rw [Text.isBlankText, List.isEmpty_eq_false_iff]
      exact List.ne_nil_of_mem (Text.mem_strip_of_mem hopen rfl)
    rw [inputs_line_iff s.oneLine_written hblank hcontacts hstdin,
      Signature.mem_written_iff (by decide) (by decide), not_or]

/-- Sixty minutes are written as an hour, and the line comes back. -/
theorem signature_fed_back_sixty_minutes :
    Signature.read (.text "A<a> 00 0060".toList) = .ok (Signature.brief 60) ∧
      (Signature.brief 60).write = .ok "A <a> 0 +0100".toList ∧
      Signature.read (.bytes (Utf8.encode "A <a> 0 +0100".toList)) = .ok (Signature.brief 60) ∧
      answer .empty { Options.initial with signatures := true } "A <a> 0 +0100".toList =
        .ok "A <a> 0 +0100\n".toList := by
  have hread : Signature.read (.text "A<a> 00 0060".toList) = .ok (Signature.brief 60) := by
    decide
  obtain ⟨-, hwrite, hagain, hanswer⟩ := signature_fed_back hread
  exact ⟨hread, hwrite, hagain _ (.inr rfl),
    (hanswer .empty { Options.initial with signatures := true } rfl (Store.keeps_empty _)).2.1⟩

/-- Ninety-nine hours and sixty minutes are written as a hundred hours, and the line does
not come back. -/
theorem signature_not_fed_back :
    Signature.read (.text "A <a> 0 +9960".toList) = .ok (Signature.brief 6000) ∧
      (Signature.brief 6000).write = .ok "A <a> 0 +10000".toList ∧
      Signature.read (.bytes (Utf8.encode "A <a> 0 +10000".toList)) =
        .error (.parse (.signature "A <a> 0 +10000".toList)) := by
  refine ⟨by decide, by decide, ?_⟩
  rw [Signature.read_encode]
  decide

end Session

end Attribution
