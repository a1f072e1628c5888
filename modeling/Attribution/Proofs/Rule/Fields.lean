import Attribution.Rule.Basic
import Mathlib

/-!
# The fields a rule can have

What the checks of a rule's fields let through, said without the checks.

- `Rule.IsValid`: there is a commit email, and no field holds a NUL character.
- `Rule.fields`: the fields of a rule as loosely typed values.
- `Rule.ofFields_eq_ok_iff`: the lists of values that make a rule are exactly the
  fields of the valid rules.
- `Rule.ofFields_eq_error`: of at most four values, those that make no rule are
  refused because of a field.
- `Rule.recheck_eq_ok_iff`: checking a rule again lets the valid rules through
  as they are.
- `Rule.HasNulIn`: what makes a rule with a commit email invalid.
- `Rule.recheck_eq_error`: the failure of such a rule names a field with a NUL
  character.
-/

namespace Attribution

/-- A computation that goes on succeeds where both of its parts do. -/
theorem Except.bind_eq_ok_iff {ε α β : Type} {x : Except ε α}
    {f : α → Except ε β} {b : β} :
    (x >>= f) = .ok b ↔ ∃ a, x = .ok a ∧ f a = .ok b := by
  cases x with
  | error e =>
    constructor
    · intro h
      cases h
    · rintro ⟨a, h, -⟩
      cases h
  | ok a =>
    constructor
    · intro h
      exact ⟨a, rfl, h⟩
    · rintro ⟨a', h, hb⟩
      cases h
      exact hb

/-- A computation that goes on fails where one of its parts does. -/
theorem Except.bind_eq_error_iff {ε α β : Type} {x : Except ε α}
    {f : α → Except ε β} {e : ε} :
    (x >>= f) = .error e ↔ x = .error e ∨ ∃ a, x = .ok a ∧ f a = .error e := by
  cases x with
  | error e' =>
    constructor
    · intro h
      cases h
      exact .inl rfl
    · rintro (h | ⟨a, h, -⟩)
      · cases h
        rfl
      · cases h
  | ok a =>
    constructor
    · intro h
      exact .inr ⟨a, rfl, h⟩
    · rintro (h | ⟨a', h, he⟩)
      · cases h
      · cases h
        exact he

/-- A computation that starts with a check succeeds where the check finds nothing. -/
theorem Except.check_eq_ok_iff {ε α : Type} {c : Prop} [Decidable c] {e : ε} {x : Except ε α}
    {a : α} : (if c then do throw e; x else x) = .ok a ↔ ¬ c ∧ x = .ok a := by
  by_cases hc : c
  · rw [if_pos hc]
    exact iff_of_false nofun fun h => h.1 hc
  · rw [if_neg hc]
    exact (and_iff_right hc).symm

/-- A translated failure is still one, and a success stays as it is. -/
theorem Except.mapError_eq_ok_iff {ε ε' α : Type} {x : Except ε α} {f : ε → ε'}
    {a : α} : x.mapError f = .ok a ↔ x = .ok a := by
  cases x with
  | error e =>
    constructor
    · intro h
      cases h
    · intro h
      cases h
  | ok a' =>
    constructor
    · intro h
      cases h
      rfl
    · intro h
      cases h
      rfl

theorem Except.mapError_eq_error_iff {ε ε' α : Type} {x : Except ε α} {f : ε → ε'}
    {e' : ε'} : x.mapError f = .error e' ↔ ∃ e, x = .error e ∧ f e = e' := by
  cases x with
  | error e =>
    constructor
    · intro h
      cases h
      exact ⟨e, rfl, rfl⟩
    · rintro ⟨e₀, h, rfl⟩
      cases h
      rfl
  | ok a =>
    constructor
    · intro h
      cases h
    · rintro ⟨e, h, -⟩
      cases h

/-- A computation that never succeeds fails, for a translated reason. -/
theorem Except.mapError_eq_error {ε ε' α : Type} {x : Except ε α} {f : ε → ε'}
    (h : ∀ a, x.mapError f ≠ .ok a) : ∃ e, x.mapError f = .error (f e) := by
  cases x with
  | error e => exact ⟨e, rfl⟩
  | ok a => exact absurd rfl (h a)

namespace Rule

/-! ## Valid rules -/

/-- A rule that a store takes: its commit email is not empty, and none of its
fields holds a NUL character. -/
structure IsValid (r : Rule) : Prop where
  commitEmail_ne : r.commitEmail ≠ []
  commitEmail : '\x00' ∉ r.commitEmail
  properName : ∀ t ∈ r.properName, '\x00' ∉ t
  properEmail : ∀ t ∈ r.properEmail, '\x00' ∉ t
  commitName : ∀ t ∈ r.commitName, '\x00' ∉ t

instance (r : Rule) : Decidable r.IsValid :=
  decidable_of_iff (r.commitEmail ≠ [] ∧ '\x00' ∉ r.commitEmail ∧
      (∀ t ∈ r.properName, '\x00' ∉ t) ∧ (∀ t ∈ r.properEmail, '\x00' ∉ t) ∧
      ∀ t ∈ r.commitName, '\x00' ∉ t)
    ⟨fun ⟨h₁, h₂, h₃, h₄, h₅⟩ => ⟨h₁, h₂, h₃, h₄, h₅⟩,
      fun ⟨h₁, h₂, h₃, h₄, h₅⟩ => ⟨h₁, h₂, h₃, h₄, h₅⟩⟩

/-- The fields of a rule as loosely typed values, in order. -/
def fields (r : Rule) : List Datum :=
  [.ofText? r.properName, .ofText? r.properEmail, .ofText? r.commitName,
    .text r.commitEmail]

/-- The fields of a rule tell what the rule is. -/
theorem fields_injective {r r' : Rule} (h : r.fields = r'.fields) : r = r' := by
  have htext : ∀ {s t : Option Text}, Datum.ofText? s = Datum.ofText? t → s = t := by
    intro s t hst
    cases s <;> cases t <;> cases hst <;> rfl
  obtain ⟨pn, pe, cn, ce⟩ := r
  obtain ⟨pn', pe', cn', ce'⟩ := r'
  simp only [fields, List.cons.injEq, Datum.text.injEq, and_true] at h
  obtain ⟨h₁, h₂, h₃, rfl⟩ := h
  rw [htext h₁, htext h₂, htext h₃]

/-! ## Single fields -/

/-- A field that may be absent takes the absent value and text without NUL. -/
theorem optionalField_eq_ok_iff {f : Field} {d : Datum} {t? : Option Text} :
    optionalField f d = .ok t? ↔ d = .ofText? t? ∧ ∀ t ∈ t?, '\x00' ∉ t := by
  constructor
  · intro h
    cases d with
    | null =>
      cases h
      exact ⟨rfl, fun t ht => by cases ht⟩
    | text t =>
      rw [optionalField] at h
      split at h
      · cases h
      · next hnul =>
        cases h
        exact ⟨rfl, fun t' ht => by cases ht; exact hnul⟩
    | _ => cases h
  · rintro ⟨rfl, hnul⟩
    cases t? with
    | none => rfl
    | some t => exact if_neg (hnul t rfl)

theorem requiredField_eq_ok_iff {f : Field} {d : Datum} {t : Text} :
    requiredField f d = .ok t ↔ d = .text t ∧ '\x00' ∉ t := by
  rw [requiredField, Except.bind_eq_ok_iff]
  constructor
  · rintro ⟨t?, h, ht⟩
    cases t? with
    | none => cases ht
    | some t' =>
      cases ht
      obtain ⟨rfl, hnul⟩ := optionalField_eq_ok_iff.mp h
      exact ⟨rfl, hnul t rfl⟩
  · rintro ⟨rfl, hnul⟩
    exact ⟨some t, optionalField_eq_ok_iff.mpr ⟨rfl, fun t' ht => by cases ht; exact hnul⟩,
      rfl⟩

/-! ## All fields -/

/-- Four values pass the checks exactly as the fields of a valid rule. -/
theorem check_eq_ok_iff {a b c d : Datum} {r : Rule} :
    check a b c d = .ok r ↔ [a, b, c, d] = r.fields ∧ r.IsValid := by
  constructor
  · intro h
    -- the commit email comes first, then the other fields in their order
    obtain ⟨e, he, hrest⟩ := Except.bind_eq_ok_iff.mp h
    obtain ⟨rfl, hnul⟩ := requiredField_eq_ok_iff.mp he
    split at hrest
    · cases hrest
    · next hne =>
      obtain ⟨pn, hpn, h₁⟩ := Except.bind_eq_ok_iff.mp hrest
      obtain ⟨pe, hpe, h₂⟩ := Except.bind_eq_ok_iff.mp h₁
      obtain ⟨cn, hcn, h₃⟩ := Except.bind_eq_ok_iff.mp h₂
      obtain ⟨rfl, hnul₁⟩ := optionalField_eq_ok_iff.mp hpn
      obtain ⟨rfl, hnul₂⟩ := optionalField_eq_ok_iff.mp hpe
      obtain ⟨rfl, hnul₃⟩ := optionalField_eq_ok_iff.mp hcn
      cases h₃
      exact ⟨rfl, fun hnil => hne (List.isEmpty_iff.mpr hnil), hnul, hnul₁, hnul₂, hnul₃⟩
  · rintro ⟨h, hv⟩
    cases h
    have he : requiredField .commitEmail (.text r.commitEmail) = .ok r.commitEmail :=
      requiredField_eq_ok_iff.mpr ⟨rfl, hv.commitEmail⟩
    have hne : r.commitEmail.isEmpty = false := by
      simpa using hv.commitEmail_ne
    have hpn := (optionalField_eq_ok_iff (f := .properName)).mpr ⟨rfl, hv.properName⟩
    have hpe := (optionalField_eq_ok_iff (f := .properEmail)).mpr ⟨rfl, hv.properEmail⟩
    have hcn := (optionalField_eq_ok_iff (f := .commitName)).mpr ⟨rfl, hv.commitName⟩
    simp only [check, he, hne, hpn, hpe, hcn, bind, Except.bind]
    rfl

/-- **Which values make a rule**: exactly the fields of the valid rules. A rule
needs its last field, so nothing shorter than four values makes one. -/
theorem ofFields_eq_ok_iff {values : List Datum} {r : Rule} :
    ofFields values = .ok r ↔ values = r.fields ∧ r.IsValid := by
  constructor
  · intro h
    match values, h with
    | [a, b, c, d], h =>
      cases hc : check a b c d with
      | error e => simp only [ofFields, hc] at h; cases h
      | ok r' => simp only [ofFields, hc] at h; cases h; exact check_eq_ok_iff.mp hc
  · rintro ⟨rfl, hv⟩
    rw [fields, ofFields, check_eq_ok_iff.mpr ⟨rfl, hv⟩]
    rfl

/-- **Values that make no rule** are refused because of a field, unless there are
too many of them. -/
theorem ofFields_eq_error {values : List Datum} (hlen : values.length ≤ 4)
    (h : ∀ r : Rule, r.IsValid → values ≠ r.fields) :
    ∃ e, ofFields values = .error (.field e) := by
  have hno : ∀ r, ofFields values ≠ .ok r := fun r hr =>
    h r (ofFields_eq_ok_iff.mp hr).2 (ofFields_eq_ok_iff.mp hr).1
  unfold ofFields at hno ⊢
  split at hno
  · exact Except.mapError_eq_error hno
  · exact Except.mapError_eq_error hno
  · exact Except.mapError_eq_error hno
  · exact Except.mapError_eq_error hno
  · exact Except.mapError_eq_error hno
  · next h₀ h₁ h₂ h₃ h₄ =>
    match values, hlen with
    | [], _ => exact absurd rfl h₀
    | [a], _ => exact absurd rfl (h₁ a)
    | [a, b], _ => exact absurd rfl (h₂ a b)
    | [a, b, c], _ => exact absurd rfl (h₃ a b c)
    | [a, b, c, d], _ => exact absurd rfl (h₄ a b c d)

theorem ofFields_eq_misuse {values : List Datum} (hlen : 4 < values.length) :
    ofFields values = .error (.misuse .wrongType) := by
  match values, hlen with
  | _ :: _ :: _ :: _ :: _ :: _, _ => rfl

/-- A rule that is checked again passes as it is if it is valid, and not at all
otherwise. -/
theorem recheck_eq_ok_iff {r r' : Rule} : r.recheck = .ok r' ↔ r' = r ∧ r.IsValid := by
  rw [recheck, check_eq_ok_iff]
  constructor
  · rintro ⟨h, hv⟩
    obtain rfl := fields_injective (r := r) h
    exact ⟨rfl, hv⟩
  · rintro ⟨rfl, hv⟩
    exact ⟨rfl, hv⟩

/-! ## Refused rules -/

/-- The text of a field, if the rule has it. -/
def field (r : Rule) : Field → Option Text
  | .properName => r.properName
  | .properEmail => r.properEmail
  | .commitName => r.commitName
  | .commitEmail => some r.commitEmail

/-- A field of the rule holds a NUL character. -/
def HasNulIn (r : Rule) (f : Field) : Prop := ∃ t ∈ r.field f, '\x00' ∈ t

/-- A rule with a commit email is valid if no field holds a NUL character. -/
theorem isValid_iff {r : Rule} (hne : r.commitEmail ≠ []) :
    r.IsValid ↔ ∀ f, ¬ r.HasNulIn f := by
  constructor
  · rintro ⟨-, hemail, hname, hemail', hname'⟩ f ⟨t, ht, hnul⟩
    cases f with
    | properName => exact hname t ht hnul
    | properEmail => exact hemail' t ht hnul
    | commitName => exact hname' t ht hnul
    | commitEmail =>
      cases ht
      exact hemail hnul
  · intro h
    exact ⟨hne, fun hnul => h .commitEmail ⟨_, rfl, hnul⟩,
      fun t ht hnul => h .properName ⟨t, ht, hnul⟩,
      fun t ht hnul => h .properEmail ⟨t, ht, hnul⟩,
      fun t ht hnul => h .commitName ⟨t, ht, hnul⟩⟩

theorem IsValid.not_hasNulIn {r : Rule} (h : r.IsValid) (f : Field) : ¬ r.HasNulIn f :=
  (isValid_iff h.commitEmail_ne).mp h f

/-- A text field is refused for a NUL character only, and by its name. -/
theorem optionalField_eq_error_iff {f : Field} {t? : Option Text} {e : FieldFailure} :
    optionalField f (.ofText? t?) = .error e ↔ e = .containsNul f ∧ ∃ t ∈ t?, '\x00' ∈ t := by
  cases t? with
  | none =>
    constructor
    · intro h
      cases h
    · rintro ⟨-, t, ht, -⟩
      cases ht
  | some t =>
    rw [Datum.ofText?, optionalField]
    split
    · next hnul =>
      constructor
      · intro h
        cases h
        exact ⟨rfl, t, rfl, hnul⟩
      · rintro ⟨rfl, -⟩
        rfl
    · next hnul =>
      constructor
      · intro h
        cases h
      · rintro ⟨-, t', ht, hnul'⟩
        cases ht
        exact absurd hnul' hnul

/-- **A refused rule** that has a commit email is refused because of a field that
holds a NUL character, and the failure names this field. -/
theorem recheck_eq_error {r : Rule} (hne : r.commitEmail ≠ []) (hr : ¬ r.IsValid) :
    ∃ f, r.HasNulIn f ∧ r.recheck = .error (.containsNul f) := by
  cases hcheck : r.recheck with
  | ok r' => exact absurd (recheck_eq_ok_iff.mp hcheck).2 hr
  | error e =>
    have hrefused {f : Field} (h : optionalField f (.ofText? (r.field f)) = .error e) :
        ∃ f, r.HasNulIn f ∧ Except.error e = (.error (.containsNul f) : Except _ Rule) := by
      obtain ⟨rfl, hnul⟩ := optionalField_eq_error_iff.mp h
      exact ⟨f, hnul, rfl⟩
    -- the commit email comes first, then the other fields in their order
    rcases Except.bind_eq_error_iff.mp hcheck with hemail | ⟨email, hemail, hrest⟩
    · rcases Except.bind_eq_error_iff.mp hemail with h | ⟨t?, h, hnone⟩
      · exact hrefused (f := .commitEmail) h
      · obtain ⟨ht, -⟩ := optionalField_eq_ok_iff.mp h
        cases t? with
        | none => cases ht
        | some t => cases hnone
    · obtain ⟨hemail, -⟩ := requiredField_eq_ok_iff.mp hemail
      cases hemail
      split at hrest
      · next hempty => exact absurd (List.isEmpty_iff.mp hempty) hne
      · rcases Except.bind_eq_error_iff.mp hrest with hpn | ⟨pn, -, h₁⟩
        · exact hrefused (f := .properName) hpn
        rcases Except.bind_eq_error_iff.mp h₁ with hpe | ⟨pe, -, h₂⟩
        · exact hrefused (f := .properEmail) hpe
        rcases Except.bind_eq_error_iff.mp h₂ with hcn | ⟨cn, -, h₃⟩
        · exact hrefused (f := .commitName) hcn
        · cases h₃

end Rule

end Attribution
