import Attribution.Numeral
import Attribution.Text.Quoted

/-!
# The log

What the library reports about its work while it does it.

- `LogLine`: one report.
- `LogLine.render`: the report as text, after the name of the part that made it.
-/

namespace Attribution

/-- A report: a line that was skipped, a source that was read, or one that was not. -/
inductive LogLine
  | malformedLine (number : Nat) (line : Text)
  | rulesRead (count : Nat) (source : Text)
  | undecodableSource (source complaint : Text)
  | missingPath (path : Text)
  | missingBlob (spec : Text)
  | unreadableFile (path : Text)
deriving DecidableEq

namespace LogLine

/-- The part of the library that makes a report. -/
def origin : LogLine → Text
  | malformedLine .. => "git_mailmap.mailmap".toList
  | _ => "git_mailmap.loader".toList

/-- What a report says. -/
def message : LogLine → Text
  | malformedLine number line =>
    "Skipping unparseable mailmap line #".toList ++ Numeral.digits number ++ ": ".toList ++
      line.quoted
  | rulesRead count source =>
    "Read ".toList ++ Numeral.digits count ++ " mailmap entries from ".toList ++ source
  | undecodableSource source complaint =>
    "Skipping mailmap source ".toList ++ source ++ ": ".toList ++ complaint
  | missingPath path => "Skipping missing mailmap file ".toList ++ path
  | missingBlob spec => "Skipping missing mailmap blob ".toList ++ spec
  | unreadableFile path => "Skipping unreadable mailmap file ".toList ++ path

/-- The report as one line of text. -/
def render (l : LogLine) : Text := l.origin ++ ": ".toList ++ l.message

end LogLine

end Attribution
