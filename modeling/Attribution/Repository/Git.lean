import Attribution.Host.Basic
import Attribution.Repository.Basic

/-!
# Git repositories

A repository that is asked by running git in its directory. What does not change is asked once:
whether the repository is bare, and where its working tree starts.

- `GitRepository`: the directory, what is known of it, and the commands run so far.
- `GitRepository.isBare`, `GitRepository.toplevel`: questions whose answer is kept.
- `GitRepository.repository`: the repository as the loader sees it.
-/

namespace Attribution

/-- A directory in which git is run, what is known of the repository there, and the commands run so
far, each after the directory it was run in. -/
structure GitRepository where
  path : Text
  bare : Option Bool
  top : Option Text
  runs : List (List Text)

namespace GitRepository

/-- A repository of which nothing is known yet. -/
def atPath (path : Text) : GitRepository := ⟨path, none, none, []⟩

/-- A call on a git repository. -/
abbrev Ask (α : Type) := Call GitRepository α

/-! ## Running git -/

/-- Runs git and gives its output, or its failure. -/
def run (h : Host) (arguments : List Text) : Ask (Except CommandFailure Bytes) := do
  modify fun r => { r with runs := r.runs ++ [r.path :: arguments] }
  match h.git arguments with
  | .finished output => return .ok output
  | .failed status errors => return .error ⟨.words ("git".toList :: arguments), status, errors⟩
  | .unstartable cause => throw (.access (.gitUnavailable cause))

/-- The failure of a command in its own words, if it said any. -/
def fatal (f : CommandFailure) : CallFailure :=
  .access (.fatal (if f.errors.isEmpty then f.message else (Utf8.decodeLossy f.errors).strip))

/-- Runs git; a failed command is fatal. -/
def runOrFail (h : Host) (arguments : List Text) : Ask Bytes := do
  match ← run h arguments with
  | .ok output => return output
  | .error f => throw (fatal f)

/-- Runs git; status one means that there is no answer, and any other failure is fatal. -/
def runIfAny (h : Host) (arguments : List Text) : Ask (Option Bytes) := do
  match ← run h arguments with
  | .ok output => return some output
  | .error f => if f.status = 1 then return none else throw (fatal f)

/-- The text of an output, which must be UTF-8. -/
def decodeOutput (output : Bytes) : Ask Text :=
  match Utf8.decode output with
  | .ok t => return t
  | .error _ => throw (.misuse .undecodable)

/-- The contents of a file, if it can be read. -/
def readFile (h : Host) (path : Text) : Option Datum :=
  (h.read (.text path)).toOption.map .bytes

/-- The path with a home directory in place of a leading `~` or `~user`. -/
def expandHome (h : Host) (path : Text) : Ask Text :=
  match Path.expandHome? h.home h.users path with
  | some path => return path
  | none => throw (.misuse .invalidValue)

/-! ## Questions -/

/-- Whether the repository is bare. A directory in which git cannot say so has no repository. -/
def isBare (h : Host) : Ask Bool := do
  match (← get).bare with
  | some bare => return bare
  | none =>
    match ← run h ["rev-parse".toList, "--is-bare-repository".toList] with
    | .error _ => throw (.access (.notRepository (← get).path))
    | .ok output =>
      let bare := output.strip == Utf8.encode "true".toList
      modify fun r => { r with bare := some bare }
      return bare

/-- Whether the repository has a working tree. -/
def hasWorktree (h : Host) : Ask Bool := return !(← isBare h)

/-- The directory in which the working tree starts, as text: bytes that are not UTF-8 are replaced,
as they are in `PathName.toText`. -/
def toplevel (h : Host) : Ask Text := do
  match (← get).top with
  | some top => return top
  | none =>
    let output ← runOrFail h ["rev-parse".toList, "--show-toplevel".toList]
    let top := Utf8.decodeLossy (trimEnd (· == 10) output)
    modify fun r => { r with top := some top }
    return top

/-- The mailmap at the top of the working tree. -/
def worktreeMailmap (h : Host) : Ask (Option Datum) := do
  if ← hasWorktree h then
    return readFile h (Path.join (← toplevel h) ".mailmap".toList)
  else return none

/-- The value of a configuration key. -/
def config (h : Host) (key : Text) : Ask (Option Text) := do
  match ← runIfAny h ["config".toList, "--get".toList, key] with
  | none => return none
  | some output => return some (trimEnd (· == '\n') (← decodeOutput output))

/-- The contents of the blob that a revision names. Objects of other kinds are not there. -/
def blob (h : Host) (spec : Text) : Ask (Option Datum) := do
  match ← runIfAny h ["rev-parse".toList, "--verify".toList, "--quiet".toList, spec] with
  | none => return none
  | some output =>
    let object ← decodeOutput output.strip
    let kind ← runOrFail h ["cat-file".toList, "-t".toList, object]
    if kind.strip == Utf8.encode "blob".toList then
      return some (.bytes (← runOrFail h ["cat-file".toList, "blob".toList, object]))
    else return none

/-- The contents of a file. A relative path starts at the top of the working tree, or in the
directory of a bare repository. -/
def file (h : Host) (path : Text) : Ask (Option Datum) := do
  let path ← expandHome h path
  if Path.isAbsolute path then return readFile h path
  else if ← hasWorktree h then return readFile h (Path.join (← toplevel h) path)
  else return readFile h (Path.join (← get).path path)

/-- The repository as the loader sees it. -/
def repository (h : Host) : Repository GitRepository where
  worktreeMailmap := worktreeMailmap h
  hasWorktree := hasWorktree h
  config := config h
  blob := blob h
  file := file h

end GitRepository

end Attribution
