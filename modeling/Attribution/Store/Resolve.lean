import Attribution.Store.Basic

/-!
# Resolving identities

Which rule applies to a recorded identity, and whose it is.

- `Store.find?`: the rule for a name and an email; one for this very name comes before one for any.
- `Store.resolve`: the proper name and email.
- `Store.lookup`, `Store.corrections`: the same for loosely typed names and emails.
-/

namespace Attribution

namespace Store

/-! ## Names and emails -/

/-- The rule that applies to a name and an email. -/
def find? (s : Store) (name : Option Text) (email : Text) : Option Rule :=
  match name with
  | none => s.get? ⟨email.lower, none⟩
  | some n => s.get? ⟨email.lower, some n⟩ <|> s.get? ⟨email.lower, none⟩

/-- The identity that a recorded one belongs to. What the rule does not give stays as it is. -/
def resolve (s : Store) (name : Option Text) (email : Text) : Option Text × Text :=
  match s.find? name email with
  | none => (name, email)
  | some r => (r.properName <|> name, r.properEmail.getD email)

/-! ## Loosely typed names and emails -/

/-- Whether some rule is about an email in lower case. -/
def mentions (s : Store) (email : Text) : Bool := s.rules.any (·.key.email == email)

/-- The rule that applies to a loosely typed name and email. No rule is about an email in bytes. A
name that is not text is like none, but one that cannot be compared with names at all must not be
compared with any. -/
def lookup (s : Store) (name email : Datum) : Except Misuse (Option Rule) :=
  match email with
  | .text e =>
    match name with
    | .text n => .ok (s.find? (some n) e)
    | .list _ | .dict .. => if s.mentions e.lower then .error .wrongType else .ok none
    | _ => .ok (s.find? none e)
  | .bytes _ => .ok none
  | _ => .error .unsupported

/-- The proper name and email that come in place of a loosely typed name and email; what is absent
stays as it is. -/
def corrections (s : Store) (name email : Datum) : Except Misuse (Option Text × Option Text) :=
  (s.lookup name email).map fun r? => (r?.bind Rule.properName, r?.bind Rule.properEmail)

end Store

/-- The words for a store: how many rules it has. -/
def Store.summary (s : Store) : Text :=
  "Mailmap(".toList ++ Numeral.digits s.size ++ " entries)".toList

end Attribution
