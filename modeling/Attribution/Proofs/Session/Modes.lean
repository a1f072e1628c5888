import Attribution.Proofs.Contact
import Attribution.Proofs.Session.Answers
import Attribution.Proofs.Signature.Resolve

/-!
# Contacts and signatures are attributed alike

A line with a signature starts with a contact. Whether a run takes its inputs for contacts or
for signatures, it attributes both to the same.

- `Signature.who`: the contact of a signature.
- `Signature.written_eq`: the text of a signature starts with that of its contact.
- `Signature.Spells.exists_contact`: so does every line that spells it.
- `Session.attributed_alike`: what comes of the one and of the other.
-/

namespace Attribution

namespace Signature

section Contacts

variable {s s' : Signature} {st : Store} {line : Text}

/-- The contact that a signature is of. -/
def who (s : Signature) : Contact := ⟨some s.name.val, s.email.val⟩

/-- The text of a signature is that of its contact, and then its numbers. -/
theorem written_eq (s : Signature) :
    s.written =
      s.who.write ++ ' ' :: Numeral.ofInt s.time ++ ' ' :: Offset.written s.offset := by
  obtain ⟨first, rest, hname⟩ := List.exists_cons_of_ne_nil s.name.property.1
  simp [written, who, Contact.write, Rule.bracketed, hname]

/-- **A line with a signature starts with its contact**, which ends at the last closing
bracket. -/
theorem Spells.exists_contact (h : Spells line.chomp s) :
    ∃ before after, line = before ++ '>' :: after ∧ '>' ∉ after ∧
      Contact.Spells (before ++ ['>']) s.who := by
  obtain ⟨stop, hline, hstop⟩ := line.exists_append_chomp
  generalize line.chomp = t at h hline
  cases h with
  | @mk name email time offset s digits hname hnamed hemail hmailed htime hdigits hoffset =>
    obtain ⟨hopen, hclose, -, -⟩ := Identity.any_isForbidden_eq_false_iff.mp hname
    obtain ⟨hopen', hclose', -, -⟩ := Identity.any_isForbidden_eq_false_iff.mp hemail
    refine ⟨name ++ '<' :: email, ' ' :: time ++ ' ' :: offset ++ stop, ?_, ?_, ?_⟩
    · rw [hline]
      simp
    -- neither the numbers nor the line ends after them have a bracket
    · have htime' : '>' ∉ time := not_mem_of_forall htime.isMark (by decide)
      have hoffset' : '>' ∉ offset := not_mem_of_forall hoffset.isMark (by decide)
      have hstop' : '>' ∉ stop := fun hmem => by
        have := hstop _ hmem
        simp at this
      simp [htime', hoffset', hstop']
    · have hm : Mention.Opens ⟨name, email, []⟩ (name ++ '<' :: email ++ ['>']) :=
        ⟨rfl, hopen, hopen', hclose'⟩
      have hspells := Contact.Spells.mk hm hclose (by simp)
      have hname' : name.stripped? = some s.name.val := by
        rw [← Rule.presentName?_eq_stripped?]
        exact Rule.presentName?_eq_some_iff.mpr ⟨hnamed, s.name.property.1⟩
      rwa [hname', hmailed] at hspells

/-- Resolving a signature resolves its contact, and leaves its numbers as they are. -/
theorem who_of_resolveSignature (hst : st.FromText) (h : st.resolveSignature s = .ok s') :
    s'.who = s.who.resolve st ∧ s'.time = s.time ∧ s'.offset = s.offset := by
  obtain ⟨hresolve, htime, hoffset⟩ := Store.resolve_of_resolveSignature hst h
  refine ⟨?_, htime, hoffset⟩
  simp only [who, Contact.resolve, hresolve]

end Contacts

end Signature

namespace Session

section Modes

variable {st : Store} {d : Datum} {line : Text} {s : Signature}

/-- What is written for a signature is its resolved contact, and then its numbers. -/
theorem write_resolved_eq (hst : st.FromText) (hread : Signature.read d = .ok s) {s' : Signature}
    (hresolve : st.resolveSignature s = .ok s') :
    s'.write = .ok ((s.who.resolve st).write ++ ' ' :: Numeral.ofInt s.time ++
      ' ' :: Offset.written s.offset) := by
  obtain ⟨hwho, htime, hoffset⟩ := Signature.who_of_resolveSignature hst hresolve
  rw [write_resolved hread hresolve, Signature.written_eq, hwho, htime, hoffset]

/-- **A line is attributed alike** whether its signature is resolved or the contact at its
start, up to the last closing bracket: what is written for the signature, if it is resolved,
is what is written for the contact, and then the timestamp and the offset. So it is in a
run too. -/
theorem attributed_alike (hst : st.FromText)
    (hd : d = .text line ∨ d = .bytes (Utf8.encode line)) (hread : Signature.read d = .ok s) :
    ∃ before after c time offset, line = before ++ '>' :: after ∧ '>' ∉ after ∧
      Contact.read (before ++ ['>']) = .ok c ∧
      Numeral.write? s.time = some time ∧ Offset.write? s.offset = some offset ∧
      (∀ s', st.resolveSignature s = .ok s' →
        s'.write = .ok ((c.resolve st).write ++ ' ' :: time ++ ' ' :: offset)) ∧
      ∀ (o : Options) (out : Text), answer st { o with signatures := true } line = .ok out →
        ∃ who, answer st { o with signatures := false } (before ++ ['>']) = .ok (who ++ ['\n']) ∧
          out = who ++ ' ' :: time ++ ' ' :: offset ++ ['\n'] := by
  have htext : Signature.read (.text line) = .ok s := by
    rcases hd with rfl | rfl
    · exact hread
    · rwa [Signature.read_encode] at hread
  have hspells := Signature.readText_eq_ok_iff.mp htext
  obtain ⟨htime, hoffset⟩ := hspells.natAbs_lt
  obtain ⟨before, after, hline, hafter, hcontact⟩ := hspells.exists_contact
  have hwho := Contact.read_eq_ok_iff.mpr hcontact
  refine ⟨before, after, s.who, _, _, hline, hafter, hwho,
    Numeral.write?_eq_some_iff.mpr ⟨htime, rfl⟩, Offset.write?_of_natAbs_lt hoffset,
    fun s' hresolve => write_resolved_eq hst hread hresolve, fun o out hout => ?_⟩
  refine ⟨(s.who.resolve st).write, answer_eq_iff.mpr (.contact rfl hwho), ?_⟩
  cases answer_eq_iff.mp hout with
  | contact ho _ => cases ho
  | @signature s₁ s' _ hread' hresolve =>
    obtain rfl : s = s₁ := Except.ok.inj (htext.symm.trans hread')
    have hwritten := write_resolved_eq hst htext hresolve
    rw [write_resolved htext hresolve] at hwritten
    rw [Except.ok.inj hwritten]

end Modes

/-! ### A line whose person has another name -/

/-- A mailmap that gives one person another name and another email. -/
def newName : Text := "Jane Doe <jane@new> <jane@old>".toList

/-- The signature that has the recorded name and email. -/
def recorded : Signature :=
  ⟨⟨"jd".toList, by decide⟩, ⟨"JANE@old".toList, by decide⟩, 1, -90⟩

/-- The signature with the other name and email. -/
def renamed : Signature :=
  ⟨⟨"Jane Doe".toList, by decide⟩, ⟨"jane@new".toList, by decide⟩, 1, -90⟩

theorem resolveSignature_recorded :
    (Store.ofDocument newName).resolveSignature recorded = .ok renamed := by
  have hfind : (Store.ofDocument newName).find? (some "jd".toList) "JANE@old".toList =
      some ⟨some "Jane Doe".toList, some "jane@new".toList, none, "jane@old".toList⟩ := by
    rw [Store.find?_eq_search, Store.toList_ofDocument (by decide) (by decide)]
    decide
  exact Store.resolveSignature_of_resolve (s := recorded) (n := renamed.name)
    (e := renamed.email) (Store.resolve_of_find? hfind)

/-- No space in front of the email, one inside its brackets and a line end make no
difference. -/
theorem attributed_alike_recorded :
    (Store.ofDocument newName).FromText ∧
      Signature.read (.bytes (Utf8.encode "jd<JANE@old > 01 -0130\r\n".toList)) = .ok recorded ∧
      answer (Store.ofDocument newName) { Options.initial with signatures := true }
          "jd<JANE@old > 01 -0130\r\n".toList = .ok "Jane Doe <jane@new> 1 -0130\n".toList ∧
      answer (Store.ofDocument newName) { Options.initial with signatures := false }
          "jd<JANE@old >".toList = .ok "Jane Doe <jane@new>\n".toList := by
  have hst := Store.fromText_ofDocument newName
  have hread : Signature.read (.text "jd<JANE@old > 01 -0130\r\n".toList) = .ok recorded := by
    decide
  have hbytes := (Signature.read_encode _).trans hread
  have hout : answer (Store.ofDocument newName) { Options.initial with signatures := true }
      "jd<JANE@old > 01 -0130\r\n".toList = .ok "Jane Doe <jane@new> 1 -0130\n".toList :=
    answer_eq_iff.mpr (.signature rfl hread resolveSignature_recorded)
  obtain ⟨before, after, c, time, offset, hline, hafter, -, htime, hoffset, -, hanswer⟩ :=
    attributed_alike hst (.inr rfl) hbytes
  obtain ⟨who, hwho, hout'⟩ := hanswer Options.initial _ hout
  -- the last bracket of the line, and what stands for the numbers, are there to be seen
  have hcut := Signature.cutLast?_eq_some_iff.mpr ⟨hline, hafter⟩
  rw [show Signature.cutLast? '>' "jd<JANE@old > 01 -0130\r\n".toList =
    some ("jd<JANE@old ".toList, " 01 -0130\r\n".toList) by decide] at hcut
  rw [show Numeral.write? recorded.time = some ['1'] by decide] at htime
  rw [show Offset.write? recorded.offset = some "-0130".toList by decide] at hoffset
  cases hcut
  cases htime
  cases hoffset
  have hsame : who = "Jane Doe <jane@new>".toList := by
    have hcancel : who ++ " 1 -0130\n".toList =
        "Jane Doe <jane@new>".toList ++ " 1 -0130\n".toList := by
      simpa using hout'.symm
    exact List.append_cancel_right hcancel
  rw [hsame] at hwho
  exact ⟨hst, hbytes, hout, hwho⟩

end Session

end Attribution
