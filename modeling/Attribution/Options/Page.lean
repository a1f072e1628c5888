import Attribution.Message
import Attribution.Options.Basic
import Attribution.Text.Trim

/-!
# The help page

- `Page.fill`: words set in lines of a greatest width.
- `Page.Item`, `Page.groups`: what the page explains, in groups.
- `Page.render`: the whole page in the words of a catalogue.
-/

namespace Attribution.Page

/-! ## Texts -/

/-- What the program does and how it is called. -/
def summary : Text :=
  "Show canonical names and email addresses for contacts

    git-mailmap maps each contact given on the command line (or on standard
    input with --stdin) to its canonical name and email, according to the
    mailmap files of a repository or the files given explicitly.

    Basic Usage:
      git-mailmap [OPTIONS] \"Name <user@host>\"...
      git-mailmap [OPTIONS] \"<user@host>\"...
      git-mailmap [OPTIONS] --signatures \"Name <user@host> 1700000000 +0100\"...
      git-mailmap [OPTIONS] --list".toList

/-- Where the rules come from, and examples of use. -/
def epilogue : Text :=
  "SOURCES

    Unless told otherwise, mailmap entries are read from the repository in the
    current directory, in this order, later entries overriding earlier ones:
      1. .mailmap at the top of the working tree
      2. the blob named by the mailmap.blob configuration variable
         (HEAD:.mailmap in a bare repository)
      3. the file named by the mailmap.file configuration variable
    Any --mailmap-blob and --mailmap-file given are read after those.  If
    --mailmap-file or --mailmap-blob is used without --repo, only the sources
    given on the command line are read.

EXAMPLES

    To see who the repository thinks wrote as jd@old.example.com:
      git-mailmap \"<jd@old.example.com>\"

    To canonicalize every author of the current branch:
      git log --format='%an <%ae>' | sort -u | git-mailmap --stdin

    To check a mailmap file before committing it:
      git-mailmap --mailmap-file .mailmap.new --list".toList

/-- What the page explains: an option, or the contacts. -/
inductive Item
  | option (o : OptionName)
  | contacts

/-- An item as it is written on a command line. -/
def Item.usage : Item → Text
  | option o =>
    Text.join ", ".toList
      (o.spellings.map fun s => s ++ (o.valueName?.map (' ' :: ·)).getD [])
  | contacts => "CONTACT".toList

/-- What an item means. -/
def Item.meaning : Item → Text
  | option .repo =>
    ("Read the mailmap sources configured for the git repository in DIRECTORY.  Defaults to the " ++
      "current directory unless --mailmap-file or --mailmap-blob is given.").toList
  | option .mailmapFile =>
    ("Also read mailmap entries from FILENAME.  May be given multiple times; later files " ++
      "override earlier ones.").toList
  | option .mailmapBlob =>
    ("Also read mailmap entries from BLOB in the repository, for example 'HEAD:.mailmap'.  May " ++
      "be given multiple times.").toList
  | option .stdin =>
    ("Read contacts, one per line, from standard input after those given on the command " ++
      "line.").toList
  | option .signatures =>
    ("Treat each contact as a full signature with timestamp and timezone offset ('Name <email> " ++
      "1700000000 +0100'), as found in author and committer headers.").toList
  | option .list => "Print the merged mailmap entries instead of resolving contacts.".toList
  | option .help => "Show this help message and exit.".toList
  | option .debug => "Report which sources were read and which lines were skipped.".toList
  | contacts => "A contact of the form 'Name <user@host>' or '<user@host>'.".toList

/-- The groups of the page: a title and what is explained under it. -/
def groups : List (Text × List Item) :=
  [("Mailmap sources".toList, [.option .repo, .option .mailmapFile, .option .mailmapBlob]),
    ("Input and output".toList,
      [.option .stdin, .option .signatures, .option .list, .contacts]),
    ("Miscellaneous options".toList, [.option .help, .option .debug])]

/-! ## Layout -/

/-- The width of the lines that explain an item. -/
def textWidth : Nat := 54

/-- The column in which explanations start. -/
def textColumn : Nat := 24

/-- The words of a text: what stands between its spaces. -/
def words (t : Text) : List Text := (t.splitOn ' ').filter (!·.isEmpty)

/-- The words set in lines: each takes as many as fit into the width. -/
def fill (width : Nat) : List Text → List Text
  | [] => []
  | word :: rest =>
    match fill.go width word rest with
    | (line, lines) => line :: lines
where
  /-- The line that starts with a text, and the lines after it. -/
  go (width : Nat) (line : Text) : List Text → Text × List Text
    | [] => (line, [])
    | word :: rest =>
      if line.length + 1 + word.length ≤ width then go width (line ++ ' ' :: word) rest
      else
        let (next, lines) := go width word rest
        (line, next :: lines)

/-- A number of spaces. -/
def spaces (n : Nat) : Text := List.replicate n ' '

/-- An item's lines: its usage, and its meaning in the column for explanations. -/
def itemLines (c : Catalogue) (item : Item) : List Text :=
  let usage := spaces 2 ++ item.usage
  let lines := fill textWidth (words (c.text item.meaning))
  let indented := lines.map (spaces textColumn ++ ·)
  if usage.length + 2 ≤ textColumn then
    match lines with
    | [] => [usage]
    | first :: _ => (usage.rightpad textColumn ' ' ++ first) :: indented.tail
  else usage :: indented

/-- A group's lines: its title and its items. -/
def groupLines (c : Catalogue) (group : Text × List Item) : List Text :=
  (c.text group.1 ++ [':']) :: group.2.flatMap (itemLines c)

/-- The page: the summary, the groups and the epilogue, with empty lines between them. -/
def render (c : Catalogue) : Text :=
  let sections := [c.text summary] ++ groups.map (Text.join ['\n'] ∘ groupLines c) ++
    [c.text epilogue]
  Text.join "\n\n".toList sections ++ ['\n']

end Attribution.Page
