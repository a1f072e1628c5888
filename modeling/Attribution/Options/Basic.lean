import Attribution.Text.Basic

/-!
# Command-line options

The options of the command line and what they mean.

- `OptionName`: the options, their spellings, and the values they take.
- `OptionValue`, `Options`: what a command line asks for.
- `Options.set`: the effect of one option.
-/

namespace Attribution

/-- The options of the command line. -/
inductive OptionName
  | repo
  | mailmapFile
  | mailmapBlob
  | stdin
  | signatures
  | list
  | help
  | debug
deriving DecidableEq

namespace OptionName

/-- All options, in the order in which they are declared. -/
def all : List OptionName :=
  [repo, mailmapFile, mailmapBlob, stdin, signatures, list, help, debug]

/-- The spellings of an option; a single hyphen starts a short one. -/
def spellings : OptionName → List Text
  | repo => ["--repo".toList]
  | mailmapFile => ["--mailmap-file".toList]
  | mailmapBlob => ["--mailmap-blob".toList]
  | stdin => ["--stdin".toList]
  | signatures => ["--signatures".toList]
  | list => ["--list".toList]
  | help => ["--help".toList, "-h".toList]
  | debug => ["--debug".toList]

/-- What stands for an option's value in the help; an option without one is a flag. -/
def valueName? : OptionName → Option Text
  | repo => some "DIRECTORY".toList
  | mailmapFile => some "FILENAME".toList
  | mailmapBlob => some "BLOB".toList
  | _ => none

/-- Whether an option takes a value. -/
def takesValue (o : OptionName) : Bool := o.valueName?.isSome

/-- An option as complaints name it. -/
def label (o : OptionName) : Text := Text.join ['/'] o.spellings

/-- Every spelling with its option, in the order of declaration. -/
def allSpellings : List (Text × OptionName) := all.flatMap fun o => o.spellings.map (·, o)

/-- The option with a spelling. -/
def ofSpelling? (t : Text) : Option OptionName := allSpellings.lookup t

end OptionName

/-- The value of an option. A value that is nothing but the terminator of options is lost, and the
option stands without one. -/
inductive OptionValue
  | text (t : Text)
  | lost
deriving DecidableEq

/-- The mark after which no options follow. -/
def OptionValue.terminator : Text := "--".toList

/-- The value that a text gives. -/
def OptionValue.ofText (t : Text) : OptionValue := if t = terminator then .lost else .text t

/-- What a command line asks for. -/
structure Options where
  repo : Option OptionValue
  mailmapFiles : List OptionValue
  mailmapBlobs : List OptionValue
  stdin : Bool
  signatures : Bool
  list : Bool
  help : Bool
  debug : Bool
  contacts : List Text
deriving DecidableEq

namespace Options

/-- Nothing asked for yet. -/
def initial : Options := ⟨none, [], [], false, false, false, false, false, []⟩

/-- Turns a flag on; options that take values are left alone. -/
def setFlag (o : Options) : OptionName → Options
  | .stdin => { o with stdin := true }
  | .signatures => { o with signatures := true }
  | .list => { o with list := true }
  | .help => { o with help := true }
  | .debug => { o with debug := true }
  | _ => o

/-- Gives an option a value; flags are left alone. Files and blobs add up, and of several
repositories the last counts. -/
def setValue (o : Options) (v : OptionValue) : OptionName → Options
  | .repo => { o with repo := some v }
  | .mailmapFile => { o with mailmapFiles := o.mailmapFiles ++ [v] }
  | .mailmapBlob => { o with mailmapBlobs := o.mailmapBlobs ++ [v] }
  | _ => o

end Options

end Attribution
