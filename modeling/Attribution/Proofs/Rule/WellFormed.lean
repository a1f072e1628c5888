import Attribution.Proofs.Rule.Grammar
import Attribution.Proofs.Text.Lines
import Attribution.Document

/-!
# Rules that a line can hold

- `Rule.WellFormed`: the rules that survive being written as a line.
- `Line.IsContent`: the texts in which mentions are looked for.
- `Rule.wellFormed_of_ofLine?`: what is read from a line is well formed.
- `Document.wellFormed_of_mem_rules`: so is what is read from a document.
-/

namespace Attribution

/-! ## Well-formed rules -/

namespace Text

/-- A name that stands in a line as it is. -/
structure IsName (t : Text) : Prop where
  nonempty : t ≠ []
  stripped : t.strip = t
  noOpen : '<' ∉ t
  oneLine : '\n' ∉ t
  noComment : t.head? ≠ some '#'

/-- An email that stands in angle brackets as it is. -/
structure IsEmail (t : Text) : Prop where
  nonempty : t ≠ []
  stripped : t.strip = t
  noOpen : '<' ∉ t
  noClose : '>' ∉ t
  oneLine : '\n' ∉ t

instance (t : Text) : Decidable t.IsName :=
  decidable_of_iff
    (t ≠ [] ∧ t.strip = t ∧ '<' ∉ t ∧ '\n' ∉ t ∧ t.head? ≠ some '#')
    ⟨fun ⟨h₁, h₂, h₃, h₄, h₅⟩ => ⟨h₁, h₂, h₃, h₄, h₅⟩,
      fun ⟨h₁, h₂, h₃, h₄, h₅⟩ => ⟨h₁, h₂, h₃, h₄, h₅⟩⟩

instance (t : Text) : Decidable t.IsEmail :=
  decidable_of_iff
    (t ≠ [] ∧ t.strip = t ∧ '<' ∉ t ∧ '>' ∉ t ∧ '\n' ∉ t)
    ⟨fun ⟨h₁, h₂, h₃, h₄, h₅⟩ => ⟨h₁, h₂, h₃, h₄, h₅⟩,
      fun ⟨h₁, h₂, h₃, h₄, h₅⟩ => ⟨h₁, h₂, h₃, h₄, h₅⟩⟩

end Text

/-- A rule whose names and emails stand in a line as they are. -/
structure Rule.WellFormed (r : Rule) : Prop where
  properName : ∀ t ∈ r.properName, t.IsName
  properEmail : ∀ t ∈ r.properEmail, t.IsEmail
  commitName : ∀ t ∈ r.commitName, t.IsName
  commitEmail : r.commitEmail.IsEmail

instance (r : Rule) : Decidable r.WellFormed :=
  decidable_of_iff
    ((∀ t ∈ r.properName, t.IsName) ∧ (∀ t ∈ r.properEmail, t.IsEmail) ∧
      (∀ t ∈ r.commitName, t.IsName) ∧ r.commitEmail.IsEmail)
    ⟨fun ⟨h₁, h₂, h₃, h₄⟩ => ⟨h₁, h₂, h₃, h₄⟩,
      fun ⟨h₁, h₂, h₃, h₄⟩ => ⟨h₁, h₂, h₃, h₄⟩⟩

/-! ## What a line is read for -/

namespace Line

/-- A text in which a mention is looked for: a line without the blanks at its ends
that is no comment. -/
structure IsContent (t : Text) : Prop where
  stripped : t.strip = t
  oneLine : '\n' ∉ t
  noComment : t.head? ≠ some '#'

/-- A line that is no comment has content, without the blanks at its ends. -/
theorem isContent_strip {line : Text} (hline : '\n' ∉ line)
    (h : isComment line.strip = false) : IsContent line.strip where
  stripped := line.strip_strip
  oneLine hmem := hline (Text.mem_of_mem_strip hmem)
  noComment heq := by
    rw [isComment, heq] at h
    cases h

/-- What follows a mention is content again. A comment there leaves nothing. -/
theorem isContent_remainder {m : Mention} (h : '\n' ∉ m.rest) :
    IsContent (remainder m) := by
  unfold remainder
  dsimp only
  split
  · exact ⟨rfl, List.not_mem_nil, by simp⟩
  · next hcomment =>
    exact isContent_strip h (by simpa using hcomment)

end Line

/-! ## What is read from a line -/

theorem Rule.presentName?_eq_some_iff {t n : Text} :
    presentName? t = some n ↔ t.strip = n ∧ n ≠ [] := by
  unfold presentName?
  cases t.strip with
  | nil =>
    constructor
    · intro h
      cases h
    · rintro ⟨h, hne⟩
      exact absurd h.symm hne
  | cons c rest =>
    show some (c :: rest) = some n ↔ _
    rw [Option.some.injEq]
    exact ⟨fun h => ⟨h, h ▸ List.cons_ne_nil c rest⟩, And.left⟩

namespace Mention

variable {t : Text} {m : Mention}

/-- The characters of a mention are on the line that it is read from. -/
theorem oneLine_of_ofText? (ht : Line.IsContent t) (hm : ofText? t = some m) :
    '\n' ∉ m.name ∧ '\n' ∉ m.email ∧ '\n' ∉ m.rest := by
  obtain ⟨rfl, -⟩ := ofText?_eq_some_iff.mp hm
  have hline := ht.oneLine
  refine ⟨fun h => hline ?_, fun h => hline ?_, fun h => hline ?_⟩ <;> simp [h]

/-- **The name of a mention.** It starts where the content does, so it can be taken
for a comment only if the content is one. -/
theorem isName_of_ofText? (ht : Line.IsContent t) (hm : ofText? t = some m) {n : Text}
    (hn : Rule.presentName? m.name = some n) : n.IsName := by
  obtain ⟨rfl, hne⟩ := Rule.presentName?_eq_some_iff.mp hn
  obtain ⟨heq, hopen, -⟩ := ofText?_eq_some_iff.mp hm
  refine ⟨hne, m.name.strip_strip, fun h => hopen (Text.mem_of_mem_strip h),
    fun h => (oneLine_of_ofText? ht hm).1 (Text.mem_of_mem_strip h), fun hhash => ?_⟩
  have hname : m.name ≠ [] := fun hnil => hne (by rw [hnil]; rfl)
  -- the name starts where the line does, with no blank, so stripping keeps its start
  obtain ⟨c, rest, hcons⟩ := List.exists_cons_of_ne_nil hname
  have hhead : t.head? = m.name.head? := by
    rw [heq, hcons]
    rfl
  have hstart : ∀ c ∈ m.name.head?, Text.isBlank c = false := fun c hc =>
    (Text.strip_eq_self_iff.mp ht.stripped).1 c (hhead ▸ hc)
  exact ht.noComment (hhead.trans (Text.head?_of_head?_strip hstart hhash))

theorem isEmail_of_ofText? (ht : Line.IsContent t) (hm : ofText? t = some m)
    (hne : m.email.strip ≠ []) : m.email.strip.IsEmail := by
  obtain ⟨-, -, hopen, hclose⟩ := ofText?_eq_some_iff.mp hm
  exact ⟨hne, m.email.strip_strip, fun h => hopen (Text.mem_of_mem_strip h),
    fun h => hclose (Text.mem_of_mem_strip h),
    fun h => (oneLine_of_ofText? ht hm).2.1 (Text.mem_of_mem_strip h)⟩

end Mention

namespace Rule

/-- **What is read from a line is well formed.** -/
theorem wellFormed_of_ofLine? {line : Text} (hline : '\n' ∉ line) {r : Rule}
    (h : ofLine? line = some r) : r.WellFormed := by
  obtain ⟨hcomment, first, hfirst, hrest⟩ := ofLine?_eq_some_iff.mp h
  have hcontent := Line.isContent_strip hline hcomment
  rcases hrest with ⟨second, hsecond, htwo⟩ | ⟨-, -, hone⟩
  · obtain ⟨hemail, rfl⟩ := ofTwo?_eq_some_iff.mp htwo
    have hcontent' := Line.isContent_remainder
      (Mention.oneLine_of_ofText? hcontent hfirst).2.2
    refine ⟨fun t ht => Mention.isName_of_ofText? hcontent hfirst ht, fun t ht => ?_,
      fun t ht => Mention.isName_of_ofText? hcontent' hsecond ht,
      Mention.isEmail_of_ofText? hcontent' hsecond hemail⟩
    obtain ⟨rfl, hne⟩ := presentName?_eq_some_iff.mp ht
    exact Mention.isEmail_of_ofText? hcontent hfirst hne
  · obtain ⟨hemail, rfl⟩ := ofOne?_eq_some_iff.mp hone
    refine ⟨fun t ht => Mention.isName_of_ofText? hcontent hfirst ht, ?_, ?_,
      Mention.isEmail_of_ofText? hcontent hfirst hemail⟩
    · exact fun t ht => nomatch ht
    · exact fun t ht => nomatch ht

end Rule

/-- **What is read from a document is well formed.** -/
theorem Document.wellFormed_of_mem_rules {t : Text} {r : Rule} (h : r ∈ rules t) :
    r.WellFormed := by
  obtain ⟨line, hline, hr⟩ := List.mem_filterMap.mp h
  exact Rule.wellFormed_of_ofLine? (Text.not_mem_of_mem_splitOn hline) hr

end Attribution
