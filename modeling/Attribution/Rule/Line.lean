import Attribution.Rule.Basic
import Attribution.Text.Trim

/-!
# Lines of a mailmap

What a single line says. A line names an identity, a name and an email in angle brackets, once or
twice; the second one is what is recorded in commits.

- `Mention`: a name and an email in angle brackets, and what follows them.
- `Rule.ofLine?`: the rule on a line, if there is one.
- `Line.isMalformed`: a line that says something, but not a rule.
-/

namespace Attribution

/-! ## Mentions -/

/-- A name, an email in angle brackets after it, and the rest of the text. -/
structure Mention where
  name : Text
  email : Text
  rest : Text
deriving DecidableEq

/-- The mention at the start of a text. The name reaches to the first `<`; the email holds no angle
bracket. -/
def Mention.ofText? (t : Text) : Option Mention :=
  match t.dropWhile (· != '<') with
  | [] => none
  | _ :: inside =>
    match inside.dropWhile fun c => c != '<' && c != '>' with
    | '>' :: rest =>
      some ⟨t.takeWhile (· != '<'), inside.takeWhile fun c => c != '<' && c != '>', rest⟩
    | _ => none

/-! ## Lines -/

namespace Line

/-- Whether a text starts a comment. -/
def isComment (t : Text) : Bool := t.head? == some '#'

/-- What follows the first mention on a line, unless it is a comment. -/
def remainder (m : Mention) : Text :=
  let rest := m.rest.strip
  if isComment rest then [] else rest

end Line

/-- A stripped name, absent if nothing is left of it. -/
def Rule.presentName? (t : Text) : Option Text := t.strip.nonEmpty?

/-- The rule of a line with two mentions. -/
def Rule.ofTwo? (first second : Mention) : Option Rule :=
  if second.email.strip.isEmpty then none
  else
    some {
      properName := presentName? first.name
      properEmail := presentName? first.email
      commitName := presentName? second.name
      commitEmail := second.email.strip }

/-- The rule of a line with one mention: the email is the one in commits. -/
def Rule.ofOne? (only : Mention) : Option Rule :=
  if only.email.strip.isEmpty then none
  else some ⟨presentName? only.name, none, none, only.email.strip⟩

/-- The rule on a line. Comments and blank lines have none, nor does a line with no mention, one
whose commit email is empty, or one with a second email that is not closed. -/
def Rule.ofLine? (line : Text) : Option Rule :=
  let t := line.strip
  if Line.isComment t then none
  else
    match Mention.ofText? t with
    | none => none
    | some first =>
      match Mention.ofText? (Line.remainder first) with
      | some second => ofTwo? first second
      | none => if '<' ∈ Line.remainder first then none else ofOne? first

namespace Line

/-- Whether a line says something, but not a rule. -/
def isMalformed (line : Text) : Bool :=
  (Rule.ofLine? line).isNone && !line.isBlankText && !isComment line.strip

end Line

end Attribution
