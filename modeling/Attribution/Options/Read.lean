import Attribution.Options.Page
import Attribution.Options.Word
import Attribution.Text.Quoted

/-!
# Reading a command line

What a command line asks for, or why the program ends before it starts its work.

- `Complaint`: what is wrong with a command line.
- `Exit`: an early end, and what it writes.
- `Options.consume`: the effect of a command line's words.
- `Options.read`: the options of a command line, if they fit together.
-/

namespace Attribution

/-! ## Early ends -/

/-- What is wrong with a command line. -/
inductive Complaint
  | ambiguous (a : Ambiguity)
  | missingValue (o : OptionName)
  | ignoredValue (o : OptionName) (value : Text)
  | unrecognized (words : List Text)
deriving DecidableEq

/-- The words for a complaint. -/
def Complaint.message : Complaint → Text
  | ambiguous a =>
    "ambiguous option: ".toList ++ a.word ++ " could match ".toList ++
      Text.join ", ".toList a.candidates
  | missingValue o => "argument ".toList ++ o.label ++ ": expected one argument".toList
  | ignoredValue o value =>
    "argument ".toList ++ o.label ++ ": ignored explicit argument ".toList ++ value.quoted
  | unrecognized words => "unrecognized arguments: ".toList ++ Text.join [' '] words

/-- The status that a program hands to whoever started it: success, a number, or a last word. -/
inductive ExitStatus
  | success
  | number (n : Nat)
  | text (t : Text)
deriving DecidableEq

/-- An early end: the help was asked for, the command line is wrong, or what it asks for does not
fit together. -/
inductive Exit
  | help (page : Text)
  | complaint (c : Complaint)
  | refusal (t : Text)
deriving DecidableEq

namespace Exit

/-- What an early end writes to the standard output. -/
def stdout : Exit → Text
  | help page => page
  | _ => []

/-- What an early end writes to the standard error. -/
def stderr : Exit → Text
  | complaint c => "git-mailmap: error: ".toList ++ c.message ++ ['\n']
  | _ => []

/-- The status of an early end. -/
def status : Exit → ExitStatus
  | help _ => .success
  | complaint _ => .number 2
  | refusal t => .text t

end Exit

namespace Options

/-! ## Words and their effect -/

/-- The options read so far, whether contacts have been taken, and the words nobody takes. -/
structure Progress where
  options : Options
  contactsTaken : Bool
  extras : List Text

/-- The flags that a short option and the letters attached to it turn on. A letter that is no flag
makes the letters from it on an unwanted value. -/
def setLetters (options : Options) (o : OptionName) : Text → Except Complaint Options
  | [] => .error (.ignoredValue o [])
  | letter :: rest =>
    match OptionName.ofSpelling? ['-', letter] with
    | some next =>
      if next.takesValue then .error (.ignoredValue o (letter :: rest))
      else if rest.isEmpty then .ok ((options.setFlag o).setFlag next)
      else setLetters (options.setFlag o) next rest
    | none => .error (.ignoredValue o (letter :: rest))

/-- The effect of a flag with or without something attached to it. -/
def applyFlag (options : Options) (o : OptionName) (short : Bool) :
    Option Text → Except Complaint Options
  | none => .ok (options.setFlag o)
  | some attached =>
    if short then setLetters options o attached else .error (.ignoredValue o attached)

/-- The argument that a word is, if it can stand among contacts. -/
def contact? : Word → Option Text
  | .argument t => some t
  | .terminator => some OptionValue.terminator
  | _ => none

/-- Whether a word can stand among contacts. -/
def canBeContact (w : Word) : Bool := (contact? w).isSome

/-- The effect of a run of arguments: the first run holds the contacts, the terminator aside. -/
def Progress.takeRun (p : Progress) (run : List Word) : Progress :=
  if p.contactsTaken then { p with extras := p.extras ++ run.filterMap contact? }
  else
    { p with
      options := { p.options with contacts := (run.filter (· ≠ .terminator)).filterMap contact? }
      contactsTaken := true }

/-- The effect of the words of a command line. -/
def consume (p : Progress) : List Word → Except Complaint Progress
  | [] => .ok p
  | .unknown t :: rest => consume { p with extras := p.extras ++ [t] } rest
  | .option o short attached :: rest =>
    if o.takesValue then
      match attached, rest with
      | some value, rest =>
        consume { p with options := p.options.setValue (.ofText value) o } rest
      | none, .argument value :: rest =>
        consume { p with options := p.options.setValue (.text value) o } rest
      | none, _ => .error (.missingValue o)
    else
      match applyFlag p.options o short attached with
      | .ok options => consume { p with options := options } rest
      | .error c => .error c
  | word :: rest =>
    consume (p.takeRun (word :: rest.takeWhile canBeContact)) (rest.dropWhile canBeContact)
termination_by words => words.length
decreasing_by
  all_goals
    have := (List.dropWhile_sublist canBeContact (l := rest)).length_le
    simp only [List.length_cons]
    omega

/-! ## Options that fit together -/

/-- Why the options do not fit together, if so. -/
def conflict? (o : Options) : Option Text :=
  if o.list && (!o.contacts.isEmpty || o.stdin) then
    some "Error: --list does not take any contacts.".toList
  else if o.list && o.signatures then
    some "Error: --list is incompatible with --signatures.".toList
  else if !(o.list || !o.contacts.isEmpty || o.stdin) then
    some "Error: no contacts specified.".toList
  else none

/-- The options with the repository in the current directory where no source is given. -/
def withDefaults (o : Options) : Options :=
  if o.repo.isNone && o.mailmapFiles.isEmpty && o.mailmapBlobs.isEmpty then
    { o with repo := some (.text ['.']) }
  else o

/-- The options that the words of a command line set; every word must be taken. -/
def ofWords (argv : List Text) : Except Complaint Options := do
  let words ← (Word.classify argv).mapError .ambiguous
  let p ← consume ⟨initial, false, []⟩ words
  if p.extras.isEmpty then return p.options else throw (.unrecognized p.extras)

/-- The options of a command line, or an early end. -/
def read (c : Catalogue) (argv : List Text) : Except Exit Options := do
  if argv.isEmpty then throw (.refusal (c.text "No arguments specified.".toList))
  let o ← (ofWords argv).mapError .complaint
  if o.help then throw (.help (Page.render c))
  if let some t := o.conflict? then throw (.refusal (c.text t))
  return o.withDefaults

end Options

end Attribution
