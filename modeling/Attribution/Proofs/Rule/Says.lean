import Attribution.Proofs.Rule.RoundTrip

/-!
# The rule that a line says

The grammar of a line with a rule, in terms of its characters only, and that
reading a line finds exactly what the grammar gives it.

- `Mention.Opens`: a text starts with a name and an email in angle brackets.
- `Line.Says`: the rule that a line says, one clause for each number of emails.
- `Rule.ofLine?_eq_some_iff_says`: the rule read from a line is the one it says.
- `Line.Says.subset`, `Document.subset_of_mem_rules`: the fields of a rule are made of
  characters of its line and of its document.
- `Document.line_grammar`: all of it for documents of one line.
-/

namespace Attribution

/-! ## The grammar -/

/-- A text without the blanks at its ends, absent if nothing is left. -/
def Text.stripped? (t : Text) : Option Text := if t.strip = [] then none else some t.strip

/-- A text starts with a mention: a name up to the first `<`, an email without angle
brackets, and the `>` that closes it. -/
structure Mention.Opens (m : Mention) (t : Text) : Prop where
  text : t = m.name ++ '<' :: m.email ++ '>' :: m.rest
  name : '<' ∉ m.name
  noOpen : '<' ∉ m.email
  noClose : '>' ∉ m.email

/-- The rule that a line says, if it is no comment and starts with a mention. -/
inductive Line.Says (line : Text) : Rule → Prop
  /-- Another mention follows, which is no comment: its name and email are those in
  commits. What follows the second mention makes no difference. -/
  | two {first second : Mention} (hline : line.strip.head? ≠ some '#')
      (hfirst : first.Opens line.strip) (hrest : first.rest.strip.head? ≠ some '#')
      (hsecond : second.Opens first.rest.strip) (hemail : second.email.strip ≠ []) :
      Says line ⟨first.name.stripped?, first.email.stripped?, second.name.stripped?,
        second.email.strip⟩
  /-- Only a comment follows, or nothing that opens another email: the email is the
  one in commits. -/
  | one {only : Mention} (hline : line.strip.head? ≠ some '#')
      (honly : only.Opens line.strip)
      (hrest : only.rest.strip.head? = some '#' ∨ '<' ∉ only.rest.strip)
      (hemail : only.email.strip ≠ []) :
      Says line ⟨only.name.stripped?, none, none, only.email.strip⟩

/-! ## Reading finds what a line says -/

theorem Mention.ofText?_eq_some_iff_opens {t : Text} {m : Mention} :
    ofText? t = some m ↔ m.Opens t := by
  rw [ofText?_eq_some_iff]
  constructor
  · rintro ⟨htext, hname, hopen, hclose⟩
    exact ⟨htext, hname, hopen, hclose⟩
  · rintro ⟨htext, hname, hopen, hclose⟩
    exact ⟨htext, hname, hopen, hclose⟩

theorem Mention.ofText?_eq_none {t : Text} (h : '<' ∉ t) : ofText? t = none := by
  cases hm : ofText? t with
  | none => rfl
  | some m =>
    obtain ⟨rfl, -⟩ := ofText?_eq_some_iff.mp hm
    exact absurd (by simp) h

theorem Rule.presentName?_eq_stripped? (t : Text) : presentName? t = t.stripped? := by
  unfold presentName? Text.stripped?
  cases t.strip <;> rfl

namespace Line

theorem isComment_eq_false_iff {t : Text} :
    isComment t = false ↔ t.head? ≠ some '#' := by
  rw [isComment, beq_eq_false_iff_ne]

theorem remainder_of_comment {m : Mention} (h : m.rest.strip.head? = some '#') :
    remainder m = [] :=
  if_pos (by rw [isComment, h]; rfl)

/-- Anything else after a mention is left without the blanks at its ends. -/
theorem remainder_of_not_comment {m : Mention} (h : m.rest.strip.head? ≠ some '#') :
    remainder m = m.rest.strip :=
  if_neg (by rw [isComment_eq_false_iff.mpr h]; decide)

end Line

/-- **The rule read from a line is the one that it says.** -/
theorem Rule.ofLine?_eq_some_iff_says {line : Text} {r : Rule} :
    ofLine? line = some r ↔ Line.Says line r := by
  rw [ofLine?_eq_some_iff, Line.isComment_eq_false_iff]
  constructor
  · rintro ⟨hline, first, hfirst, ⟨second, hsecond, htwo⟩ | ⟨-, hopen, hone⟩⟩
    · obtain ⟨hemail, rfl⟩ := ofTwo?_eq_some_iff.mp htwo
      -- nothing is read from a comment, so there is none before the second mention
      have hrest : first.rest.strip.head? ≠ some '#' := fun hcomment => by
        rw [Line.remainder_of_comment hcomment] at hsecond
        cases hsecond
      rw [Line.remainder_of_not_comment hrest] at hsecond
      simp only [presentName?_eq_stripped?]
      exact .two hline (Mention.ofText?_eq_some_iff_opens.mp hfirst) hrest
        (Mention.ofText?_eq_some_iff_opens.mp hsecond) hemail
    · obtain ⟨hemail, rfl⟩ := ofOne?_eq_some_iff.mp hone
      have hrest : first.rest.strip.head? = some '#' ∨ '<' ∉ first.rest.strip := by
        by_cases hcomment : first.rest.strip.head? = some '#'
        · exact .inl hcomment
        · rw [Line.remainder_of_not_comment hcomment] at hopen
          exact .inr hopen
      simp only [presentName?_eq_stripped?]
      exact .one hline (Mention.ofText?_eq_some_iff_opens.mp hfirst) hrest hemail
  · intro h
    cases h with
    | @two first second hline hfirst hrest hsecond hemail =>
      refine ⟨hline, first, Mention.ofText?_eq_some_iff_opens.mpr hfirst,
        .inl ⟨second, ?_, ofTwo?_eq_some_iff.mpr ⟨hemail, ?_⟩⟩⟩
      · rw [Line.remainder_of_not_comment hrest]
        exact Mention.ofText?_eq_some_iff_opens.mpr hsecond
      · simp only [presentName?_eq_stripped?]
    | @one only hline honly hrest hemail =>
      have hopen : '<' ∉ Line.remainder only := by
        by_cases hcomment : only.rest.strip.head? = some '#'
        · rw [Line.remainder_of_comment hcomment]
          exact List.not_mem_nil
        · rw [Line.remainder_of_not_comment hcomment]
          exact hrest.resolve_left hcomment
      refine ⟨hline, only, Mention.ofText?_eq_some_iff_opens.mpr honly,
        .inr ⟨Mention.ofText?_eq_none hopen, hopen, ofOne?_eq_some_iff.mpr ⟨hemail, ?_⟩⟩⟩
      simp only [presentName?_eq_stripped?]

/-! ## Characters of a rule -/

theorem Text.subset_of_stripped? {t u : Text} (h : u ∈ t.stripped?) : u ⊆ t := by
  unfold stripped? at h
  split at h
  · cases h
  · cases h
    exact fun c hc => mem_of_mem_strip hc

/-- The parts of a mention are made of the characters of the text. -/
theorem Mention.Opens.subset {m : Mention} {t : Text} (h : m.Opens t) :
    m.name ⊆ t ∧ m.email ⊆ t ∧ m.rest ⊆ t := by
  rw [h.text]
  refine ⟨fun c hc => ?_, fun c hc => ?_, fun c hc => ?_⟩ <;> simp [hc]

/-- **The fields of a rule are made of the characters of its line.** -/
theorem Line.Says.subset {line : Text} {r : Rule} (h : Says line r) {f : Field} {t : Text}
    (ht : t ∈ r.field f) : t ⊆ line := by
  have hline : line.strip ⊆ line := fun c hc => Text.mem_of_mem_strip hc
  cases h with
  | @two first second _ hfirst _ hsecond _ =>
    obtain ⟨hname, hemail, hrest⟩ := hfirst.subset
    obtain ⟨hname', hemail', -⟩ := hsecond.subset
    have hrest' : first.rest.strip ⊆ line := fun c hc =>
      hline (hrest (Text.mem_of_mem_strip hc))
    cases f with
    | properName => exact fun c hc => hline (hname (Text.subset_of_stripped? ht hc))
    | properEmail => exact fun c hc => hline (hemail (Text.subset_of_stripped? ht hc))
    | commitName => exact fun c hc => hrest' (hname' (Text.subset_of_stripped? ht hc))
    | commitEmail =>
      cases ht
      exact fun c hc => hrest' (hemail' (Text.mem_of_mem_strip hc))
  | @one only _ honly _ _ =>
    obtain ⟨hname, hemail, -⟩ := honly.subset
    cases f with
    | properName => exact fun c hc => hline (hname (Text.subset_of_stripped? ht hc))
    | properEmail => cases ht
    | commitName => cases ht
    | commitEmail =>
      cases ht
      exact fun c hc => hline (hemail (Text.mem_of_mem_strip hc))

/-- The fields of a rule that is read from a document are made of its characters. -/
theorem Document.subset_of_mem_rules {t : Text} {r : Rule} (h : r ∈ rules t) {f : Field}
    {u : Text} (hu : u ∈ r.field f) : u ⊆ t := by
  obtain ⟨line, hline, hr⟩ := List.mem_filterMap.mp h
  exact List.Subset.trans ((Rule.ofLine?_eq_some_iff_says.mp hr).subset hu)
    (Text.subset_of_mem_splitOn hline)

/-! ## Documents of one line -/

namespace Document

/-- **A line is read by its grammar.** A line says at most one rule. If it says one,
this is what is read from it, on its own and as a document, and if it says none, the
document is read without failure and has no rule. -/
theorem line_grammar {line : Text} (hline : '\n' ∉ line) :
    (∀ r, Rule.ofLine? line = some r ↔ Line.Says line r) ∧
    (∀ r, (decode (.text line)).map rules = .ok [r] ↔ Line.Says line r) ∧
    (∀ r r', Line.Says line r → Line.Says line r' → r = r') ∧
    ((decode (.text line)).map rules = .ok [] ↔ ∀ r, ¬ Line.Says line r) := by
  have hiff : ∀ r, Rule.ofLine? line = some r ↔ Line.Says line r := fun r =>
    Rule.ofLine?_eq_some_iff_says
  have hdocument : (decode (.text line)).map rules = .ok (Rule.ofLine? line).toList :=
    congrArg Except.ok (rules_of_oneLine hline)
  refine ⟨hiff, fun r => ?_, fun r r' h h' => ?_, ?_⟩
  · rw [hdocument, ← hiff, Except.ok.injEq, Option.toList_eq_singleton_iff]
  · rw [← hiff] at h h'
    exact Option.some.inj (h.symm.trans h')
  · rw [hdocument, Except.ok.injEq, Option.toList_eq_nil_iff, Option.eq_none_iff_forall_ne_some]
    exact forall_congr' fun r => not_congr (hiff r)

/-- A closing bracket in a name, an empty first email, and a third email that is
never closed. -/
theorem line_grammar_of_three_emails :
    '\n' ∉ " A > B < > c <d> e <f ".toList ∧
      (decode (.text " A > B < > c <d> e <f ".toList)).map rules =
        .ok [⟨some "A > B".toList, none, some "c".toList, "d".toList⟩] := by
  have hfirst : Mention.Opens ⟨"A > B ".toList, " ".toList, " c <d> e <f".toList⟩
      (Text.strip " A > B < > c <d> e <f ".toList) :=
    ⟨by decide, by decide, by decide, by decide⟩
  have hsecond : Mention.Opens ⟨"c ".toList, "d".toList, " e <f".toList⟩
      (Text.strip " c <d> e <f".toList) :=
    ⟨by decide, by decide, by decide, by decide⟩
  exact ⟨by decide, ((line_grammar (by decide)).2.1 _).mpr
    (.two (by decide) hfirst (by decide) hsecond (by decide))⟩

end Document

end Attribution
