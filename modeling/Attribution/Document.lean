import Attribution.Log
import Attribution.Rule.Line

/-!
# Mailmap documents

The contents of a mailmap file as a whole.

- `Document.decode`: the text of contents that are text or UTF-8.
- `Document.rules`: the rules of a document, in the order of its lines.
- `Document.complaints`: a report on each line that says something, but not a rule.
-/

namespace Attribution.Document

/-- The text of contents: text as it is, anything else as UTF-8 bytes. -/
def decode : Datum → Except Failure Text
  | .text t => .ok t
  | d => do
    let bytes ← d.toBytes.mapError .misuse
    (Utf8.decode bytes).mapError fun cause => .parse (.undecodableMailmap cause)

/-- The rules of a document, in the order of its lines. -/
def rules (t : Text) : List Rule := t.lines.filterMap Rule.ofLine?

/-- The reports on malformed lines of which the first has the number `first`. -/
def complaintsFrom (first : Nat) : List Text → List LogLine
  | [] => []
  | line :: rest =>
    if Line.isMalformed line then .malformedLine first line :: complaintsFrom (first + 1) rest
    else complaintsFrom (first + 1) rest

/-- The reports on malformed lines; the first line has number one. -/
def complaints (t : Text) : List LogLine := complaintsFrom 1 t.lines

end Attribution.Document
