import Attribution.Store.Resolve

/-!
# Contacts

An identity as given on a command line: a name, which may be missing, and an email in angle
brackets.

- `Contact`: such an identity.
- `Contact.read`: the contact that a text spells.
- `Contact.write`: the contact as text.
- `Contact.resolve`: the contact a store of rules makes of it.
-/

namespace Attribution

/-- An email and, if known, a name. -/
structure Contact where
  name : Option Text
  email : Text
deriving DecidableEq

namespace Contact

/-- Whether a character is an angle bracket. -/
def isAngle (c : Char) : Bool := c == '<' || c == '>'

/-- The contact that a text spells, blanks around its parts aside. Angle brackets stand around the
email and nowhere else. -/
def read? (t : Text) : Option Contact :=
  match t.strip.dropWhile (!isAngle ·) with
  | '<' :: inside =>
    match inside.dropWhile (!isAngle ·) with
    | ['>'] =>
      some ⟨(Text.strip (t.strip.takeWhile (!isAngle ·))).nonEmpty?,
        Text.strip (inside.takeWhile (!isAngle ·))⟩
    | _ => none
  | _ => none

/-- The contact that a text spells, or a report on it. -/
def read (t : Text) : Except Failure Contact :=
  (read? t).elim (.error (.parse (.contact t))) .ok

/-- The contact that a loosely typed value spells; only text spells one. -/
def readDatum : Datum → Except Failure Contact
  | .text t => read t
  | _ => .error (.misuse .unsupported)

/-- The contact as text. An empty name is left out like a missing one. -/
def write (c : Contact) : Text :=
  match c.name with
  | some (ch :: rest) => ch :: rest ++ ' ' :: Rule.bracketed c.email
  | _ => Rule.bracketed c.email

/-- A loosely typed name and email as text. -/
def writeData (name email : Datum) : Except Misuse Text := do
  let email ← Rule.bracketedPart email
  if name.isPresent then return (← name.shown) ++ ' ' :: email else return email

/-- The contact that a recorded one belongs to. -/
def resolve (s : Store) (c : Contact) : Contact :=
  let (name, email) := s.resolve c.name c.email
  ⟨name, email⟩

end Contact

end Attribution
