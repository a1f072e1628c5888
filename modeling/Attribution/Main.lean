import Attribution.Session

/-!
# The command

Runs a session with the words of the command line. The files that the options name are read
beforehand, and the standard input if it is asked for. The command starts no other program, so to a
session git looks as if it were not installed.
-/

namespace Attribution.Main

/-- The number and the words that the operating system has for an error, if it comes from there. -/
def errno? : IO.Error → Option Errno
  | .alreadyExists _ code words | .otherError code words | .resourceBusy code words
  | .resourceVanished code words | .unsupportedOperation code words | .hardwareFault code words
  | .unsatisfiedConstraints code words | .illegalOperation code words | .protocolError code words
  | .timeExpired code words | .interrupted _ code words | .noFileOrDirectory _ code words
  | .invalidArgument _ code words | .permissionDenied _ code words
  | .resourceExhausted _ code words | .inappropriateType _ code words
  | .noSuchThing _ code words => some ⟨code.toNat, words.toList⟩
  | .unexpectedEof | .userError _ => none

/-- The contents of a file, or the error of opening it. -/
def readFile (path : Text) : IO (Except Errno Bytes) := do
  try
    let bytes ← IO.FS.readBinFile (String.ofList path)
    return .ok bytes.toList
  catch e => return .error ((errno? e).getD .inputOutput)

/-- The files that options name, with their contents. -/
def readFiles (o : Options) : IO (List (Text × Except Errno Bytes)) :=
  (o.mailmapFiles.filterMap fun
    | .text t => some t
    | .lost => none).mapM fun path => return (path, ← readFile path)

/-- The machine on which the command runs, with the files that have been read. -/
def host (files : List (Text × Except Errno Bytes)) : IO Host := do
  let masked := (← IO.getEnv (String.ofList Catalogue.maskVariable)).isSome
  return {
    git := fun _ => .unstartable ⟨.noEntry, some (.text "git".toList)⟩
    file := fun path => (files.lookup path).getD (.error .noEntry)
    home := ((← IO.getEnv "HOME").getD "").toList
    catalogue := if masked then .masked else .plain }

/-- What options need of the files and the standard input. -/
def surroundings (o : Options) : IO (List (Text × Except Errno Bytes) × Text) := do
  let files ← readFiles o
  let stdin ← if o.stdin then (← IO.getStdin).readBinToEnd else pure .empty
  return (files, Utf8.decodeLossy stdin.toList)

/-- The number that the command ends with, after its last word. -/
def finish : Ending → IO UInt32
  | .finished | .exited .success => return 0
  | .exited (.number n) => return n.toUInt32
  | .exited (.text t) => do
    IO.eprintln (String.ofList t)
    return 1
  | .crashed _ => do
    IO.eprintln "git-mailmap: cannot go on with these values"
    return 1

end Attribution.Main

open Attribution in
/-- Runs the command. -/
def main (arguments : List String) : IO UInt32 := do
  let argv := arguments.map String.toList
  let (files, stdin) ←
    match Options.ofWords argv with
    | .ok o => Main.surroundings o
    | .error _ => pure ([], [])
  let outcome := Session.run (← Main.host files) argv stdin
  IO.print (String.ofList outcome.stdout)
  IO.eprint (String.ofList outcome.stderr)
  Main.finish outcome.ending
