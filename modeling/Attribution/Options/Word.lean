import Attribution.Options.Basic
import Attribution.Text.DecimalDigit

/-!
# Words of a command line

Whether a word of a command line is an option, an argument, or the mark after which no options
follow.

- `Word`: a word with its role.
- `Word.ofText`: the role of a single word before the terminator.
- `Word.classify`: the roles of all words.
-/

namespace Attribution

/-- A word of a command line with its role. An option may have a value attached to it; `short`
tells whether it is spelled with a single hyphen. -/
inductive Word
  | argument (t : Text)
  | option (o : OptionName) (short : Bool) (attached : Option Text)
  | unknown (t : Text)
  | terminator
deriving DecidableEq

/-- A word that abbreviates several options. -/
structure Ambiguity where
  word : Text
  candidates : List Text
deriving DecidableEq

namespace Word

/-- What stands before the first equals sign and, if there is one, after it. -/
def splitAttached (t : Text) : Text × Option Text :=
  (t.takeWhile (· != '='), (t.dropWhile (· != '=')).tail?)

/-- Whether a word looks like a negative number, with or without a fraction; a line feed may end
it. -/
def looksNegative (t : Text) : Bool :=
  let t := if t.getLast? = some '\n' then t.dropLast else t
  match t with
  | '-' :: rest =>
    match rest.dropWhile DecimalDigit.isDigit with
    | [] => !rest.isEmpty
    | '.' :: fraction => !fraction.isEmpty && fraction.all DecimalDigit.isDigit
    | _ => false
  | _ => false

/-- The options that a word with two hyphens abbreviates, each with its spelling. -/
def abbreviated (name : Text) : List (Text × OptionName) :=
  OptionName.allSpellings.filter fun entry => entry.1.startsWith name

/-- The role of a word that is no option by its full spelling and none by an abbreviation. -/
def ofOther (t : Text) : Word :=
  if looksNegative t || t.contains ' ' then .argument t else .unknown t

/-- The role of a word with two hyphens that is no full spelling. -/
def ofLong (t : Text) : Except Ambiguity Word :=
  let (name, attached) := splitAttached t
  match abbreviated name with
  | [] => .ok (ofOther t)
  | [(_, o)] => .ok (.option o false attached)
  | several => .error ⟨t, several.map (·.1)⟩

/-- The role of a word with a single hyphen that is no full spelling: the letter after the hyphen
may be an option, with the rest attached. -/
def ofShort (t : Text) : Word :=
  match OptionName.ofSpelling? (t.take 2) with
  | some o => .option o true (some (t.drop 2))
  | none => ofOther t

/-- Whether a word starts with a single hyphen. -/
def isShort (t : Text) : Bool := !t.startsWith "--".toList

/-- The role of a word before the terminator. -/
def ofText (t : Text) : Except Ambiguity Word :=
  if !t.startsWith ['-'] || t = ['-'] then .ok (.argument t)
  else
    match OptionName.ofSpelling? t with
    | some o => .ok (.option o (isShort t) none)
    | none =>
      let (name, attached) := splitAttached t
      match attached, OptionName.ofSpelling? name with
      | some value, some o => .ok (.option o (isShort t) (some value))
      | _, _ => if isShort t then .ok (ofShort t) else ofLong t

/-- The roles of the words of a command line. After the terminator all words are arguments. -/
def classify : List Text → Except Ambiguity (List Word)
  | [] => .ok []
  | t :: rest =>
    if t = OptionValue.terminator then .ok (.terminator :: rest.map .argument)
    else do return (← ofText t) :: (← classify rest)

end Word

end Attribution
