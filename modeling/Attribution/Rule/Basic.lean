import Attribution.Failure
import Attribution.Text.Lowercase

/-!
# Attribution rules

A rule says that commits recorded with one identity belong to another.

- `Rule`: the commit email and, optionally, the commit name it applies to, and the proper name and
  email, either of which may be left as recorded.
- `Rule.key`: what a rule applies to, with the letter case of the email removed.
- `Rule.toLine`: the rule as a mailmap line.
- `Rule.check`: the rule with loosely typed fields, if they are ones a rule can have.
-/

namespace Attribution

/-- Commits recorded with `commitEmail` and, if given, `commitName` belong to `properName` and
`properEmail`; one that is absent stays as recorded. -/
structure Rule where
  properName : Option Text
  properEmail : Option Text
  commitName : Option Text
  commitEmail : Text
deriving DecidableEq

/-- What a rule applies to: a lower-cased email, and one name or any. -/
structure Key where
  email : Text
  name : Option Text
deriving DecidableEq

/-- A number that spreads texts over the buckets of a table. -/
def Text.hashCode (t : Text) : UInt64 := t.foldl (fun code c => mixHash code c.val.toUInt64) 7

instance : Hashable Key where
  hash k := mixHash k.email.hashCode (k.name.elim 11 Text.hashCode)

namespace Rule

/-- What the rule applies to. -/
def key (r : Rule) : Key := ⟨r.commitEmail.lower, r.commitName⟩

/-! ## Writing -/

/-- A text in angle brackets. -/
def bracketed (t : Text) : Text := '<' :: t ++ ['>']

/-- The parts of a rule's line. A line with one email is read as the commit email, so that form is
used only when there is neither a proper email nor a commit name. -/
def lineParts (r : Rule) : List Text :=
  r.properName.toList ++
    if r.properEmail.isNone && r.commitName.isNone then [bracketed r.commitEmail]
    else bracketed (r.properEmail.getD []) :: r.commitName.toList ++ [bracketed r.commitEmail]

/-- The rule as a mailmap line. -/
def toLine (r : Rule) : Text := Text.join [' '] r.lineParts

/-- A field that stands in a line as it is, if it is there. -/
def barePart : Datum → Except Misuse (List Text)
  | .null => .ok []
  | .text t => .ok [t]
  | _ => .error .wrongType

/-- A field that stands in angle brackets in the form it has in messages. -/
def bracketedPart (d : Datum) : Except Misuse Text := d.shown.map bracketed

/-- The line of four loosely typed fields, checked only as far as writing them needs. The fields in
angle brackets are checked first. -/
def lineOfFields : List Datum → Except Misuse Text
  | [properName, .null, .null, commitEmail] => do
    let commit ← bracketedPart commitEmail
    return Text.join [' '] ((← barePart properName) ++ [commit])
  | [properName, properEmail, commitName, commitEmail] => do
    let email ← bracketedPart (if properEmail.isPresent then properEmail else .text [])
    let commit ← bracketedPart commitEmail
    return Text.join [' ']
      ((← barePart properName) ++ email :: (← barePart commitName) ++ [commit])
  | _ => .error .wrongType

/-! ## Checking -/

/-- A field that may be absent. -/
def optionalField (field : Field) : Datum → Except FieldFailure (Option Text)
  | .null => .ok none
  | .text t => if '\x00' ∈ t then .error (.containsNul field) else .ok (some t)
  | d => .error (.notText field d.typeName)

/-- A field that must be there. -/
def requiredField (field : Field) (d : Datum) : Except FieldFailure Text := do
  match ← optionalField field d with
  | some t => .ok t
  | none => .error (.required field)

/-- The rule with the given fields, if a rule can have them. The commit email is checked first. -/
def check (properName properEmail commitName commitEmail : Datum) : Except FieldFailure Rule := do
  let email ← requiredField .commitEmail commitEmail
  if email.isEmpty then throw .emptyCommitEmail
  return {
    properName := ← optionalField .properName properName
    properEmail := ← optionalField .properEmail properEmail
    commitName := ← optionalField .commitName commitName
    commitEmail := email }

/-- Checks a rule's own fields again. -/
def recheck (r : Rule) : Except FieldFailure Rule :=
  check (.ofText? r.properName) (.ofText? r.properEmail) (.ofText? r.commitName)
    (.text r.commitEmail)

/-- The rule with the given fields in order, of which the last ones may be missing. -/
def ofFields : List Datum → Except Failure Rule
  | [] => (check .null .null .null .null).mapError .field
  | [a] => (check a .null .null .null).mapError .field
  | [a, b] => (check a b .null .null).mapError .field
  | [a, b, c] => (check a b c .null).mapError .field
  | [a, b, c, d] => (check a b c d).mapError .field
  | _ => .error (.misuse .wrongType)

end Rule

end Attribution
