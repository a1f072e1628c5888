import Attribution.Contact
import Attribution.Loader
import Attribution.Options.Read
import Attribution.Repository.Git
import Attribution.Signature.Read
import Attribution.Signature.Resolve

/-!
# Sessions

One run of the program: from the words of its command line and the text on its standard input to
what it writes and how it ends.

- `Session.load`: the sources that the options name.
- `Session.inputs`: the contacts on the command line and the lines of the standard input.
- `Session.answer`, `Session.answerAll`: what is written for one input and for all.
- `Session.run`: the whole run.
-/

namespace Attribution

/-- How a run ends: with a status for whoever started it, or by misuse of an operation. -/
inductive Ending
  | finished
  | exited (status : ExitStatus)
  | crashed (cause : Misuse)
deriving DecidableEq

/-- What a run leaves behind: what it wrote, the git commands it ran, and how it ended. -/
structure Outcome where
  stdout : Text
  stderr : Text
  runs : List (List Text)
  ending : Ending

namespace Session

/-! ## Sources -/

/-- The text of an option's value, which must not be lost. -/
def valueText {σ : Type} : OptionValue → Load σ Text
  | .text t => return t
  | .lost => throw (.misuse .wrongType)

/-- Forgets what is known of the repository and turns to the one at a path. -/
def turnTo (path : Text) : Load GitRepository Unit :=
  modify fun l =>
    { l with repository := { GitRepository.atPath path with runs := l.repository.runs } }

/-- Adds the configured sources of the repository that the options name, if they name one. -/
def loadRepository (h : Host) (o : Options) : Load GitRepository Unit :=
  match o.repo with
  | none => return ()
  | some v => do
    turnTo (← valueText v)
    Loading.addRepository h.catalogue (GitRepository.repository h)

/-- Adds the file that an option names. -/
def loadFile (h : Host) (v : OptionValue) : Load GitRepository Unit := do
  Loading.addPath h (.bytes (Utf8.encode (← valueText v)))

/-- Adds the blob that an option names, from the repository that the options name or else from the
one in the current directory. -/
def loadBlob (h : Host) (o : Options) (v : OptionValue) : Load GitRepository Unit := do
  if o.repo.isNone then turnTo ['.']
  Loading.addBlob h.catalogue (GitRepository.repository h) (← valueText v)

/-- Adds all sources that the options name: the repository's, then the files, then the blobs. -/
def load (h : Host) (o : Options) : Load GitRepository Unit := do
  loadRepository h o
  o.mailmapFiles.forM (loadFile h)
  o.mailmapBlobs.forM (loadBlob h o)

/-! ## Inputs -/

/-- The lines of a text in which a line feed, a carriage return or both in this order end a line.
What follows the last end is a line only if it is not empty. So is a stream read that takes each of
the three for a line end; one on which only line feeds end lines would keep a carriage return. -/
def inputLines : Text → List Text
  | [] => []
  | '\r' :: '\n' :: rest => [] :: inputLines rest
  | c :: rest =>
    if c = '\n' ∨ c = '\r' then [] :: inputLines rest
    else
      match inputLines rest with
      | [] => [[c]]
      | line :: lines => (c :: line) :: lines

/-- The inputs in order: the contacts on the command line, then the lines of the standard input
that are not blank, if it is to be read. -/
def inputs (o : Options) (stdin : Text) : List Text :=
  o.contacts ++ if o.stdin then (inputLines stdin).filter (!·.isBlankText) else []

/-! ## Answers -/

/-- What is written for a contact. -/
def answerContact (s : Store) (input : Text) : Except Failure Text := do
  return ((← Contact.read input).resolve s).write

/-- What is written for a signature. -/
def answerSignature (s : Store) (input : Text) : Except Failure Text := do
  (← s.resolveSignature (← Signature.readText input)).write

/-- What is written for an input: one line. -/
def answer (s : Store) (o : Options) (input : Text) : Except Failure Text := do
  return (← if o.signatures then answerSignature s input else answerContact s input) ++ ['\n']

/-- What is written for inputs up to the first that fails, and that failure if there is one. -/
def answerAll (s : Store) (o : Options) : List Text → Text × Except Failure Unit
  | [] => ([], .ok ())
  | input :: rest =>
    match answer s o input with
    | .error e => ([], .error e)
    | .ok line =>
      let (lines, outcome) := answerAll s o rest
      (line ++ lines, outcome)

/-- The rules of a store as a mailmap. -/
def listing (s : Store) : Text := s.toList.flatMap fun r => r.toLine ++ ['\n']

/-- What is written once the store is loaded. -/
def output (s : Store) (o : Options) (stdin : Text) : Text × Except Failure Unit :=
  if o.list then (listing s, .ok ()) else answerAll s o (inputs o stdin)

/-! ## Runs -/

/-- How a run ends after a failure. The conditions of the domain are the program's last word. -/
def endingOf (c : Catalogue) (f : Failure) : Ending :=
  match f.report c with
  | .misuse cause => .crashed cause
  | .condition _ message =>
    match c.render (.template "fatal: %s".toList [message]) with
    | some t => .exited (.text t)
    | none => .crashed .wrongType

/-- The log as it is written to the standard error, if it is asked for. -/
def logged (o : Options) (log : List LogLine) : Text :=
  if o.debug then log.flatMap fun l => l.render ++ ['\n'] else []

/-- The rest of a run once the options are known. -/
def runOptions (h : Host) (o : Options) (stdin : Text) : Outcome :=
  let (loaded, l) := (load h o).run.run (.start (.atPath ['.']))
  let (stdout, outcome) :=
    match loaded with
    | .ok () => output l.store o stdin
    | .error f => ([], .error f)
  { stdout
    stderr := logged o l.log
    runs := l.repository.runs
    ending :=
      match outcome with
      | .ok () => .finished
      | .error f => endingOf h.catalogue f }

/-- A run of the program. -/
def run (h : Host) (argv : List Text) (stdin : Text) : Outcome :=
  match Options.read h.catalogue argv with
  | .error e => ⟨e.stdout, e.stderr, [], .exited e.status⟩
  | .ok o => runOptions h o stdin

end Session

end Attribution
