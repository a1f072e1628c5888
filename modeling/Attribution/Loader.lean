import Attribution.Document
import Attribution.Host.Basic
import Attribution.Repository.Basic
import Attribution.Store.Add

/-!
# Loading mailmaps

A store is filled from sources one after the other, so that a later source replaces what an earlier
one says about the same identity.

- `Loading`: the store so far, the log, and the state of the repository.
- `Loading.addContents`, `Loading.addPath`, `Loading.addBlob`, `Loading.addFile`: single sources.
- `Loading.addRepository`: the sources configured for a repository.
-/

namespace Attribution

/-- The state of loading: the store so far, the reports made, and the repository's own state. -/
structure Loading (σ : Type) where
  store : Store
  log : List LogLine
  repository : σ

/-- A step of loading. What it did before it failed stays done. -/
abbrev Load (σ α : Type) := ExceptT Failure (StateM (Loading σ)) α

namespace Loading

variable {σ : Type}

/-! ## Steps -/

/-- Nothing loaded yet. -/
def start (repository : σ) : Loading σ := ⟨.empty, [], repository⟩

/-- A result or a failure that touches nothing. -/
def attempt {α : Type} (r : Except Failure α) : Load σ α := ExceptT.mk (pure r)

/-- Adds reports to the log. -/
def report (lines : List LogLine) : Load σ Unit :=
  modify fun l => { l with log := l.log ++ lines }

/-- Adds rules to the store, up to the first that fails. -/
def addRules (rs : List Rule) : Load σ Unit :=
  ExceptT.mk do
    let l ← get
    let (store, outcome) := l.store.addAll rs
    set { l with store := store }
    return outcome

/-- Makes a call to the repository. -/
def ask {α : Type} (c : Call σ α) : Load σ α :=
  ExceptT.mk do
    let l ← get
    let (outcome, repository) := c.run.run l.repository
    set { l with repository := repository }
    return outcome.mapError CallFailure.toFailure

/-- Adds the rule with the given fields. -/
def addFields (fields : List Datum) : Load σ Unit := do
  let r ← attempt (Rule.ofFields fields)
  modify fun l => { l with store := l.store.insert r }

/-- Takes a step with an empty store and gives the store that it fills; the present store stays as
it is. -/
def freshly (step : Load σ Unit) : Load σ Store :=
  ExceptT.mk do
    let l ← get
    let (outcome, after) := step.run.run { l with store := .empty }
    set { after with store := l.store }
    return outcome.map fun _ => after.store

/-! ## Single sources -/

/-- Adds the rules of a document and gives their number. -/
def addContents (contents : Datum) : Load σ Nat := do
  let t ← attempt (Document.decode contents)
  report (Document.complaints t)
  addRules (Document.rules t)
  return (Document.rules t).length

/-- Adds the rules of a document known by a name. -/
def addBuffer (contents : Datum) (source : Text) : Load σ Unit := do
  let count ← addContents contents
  report [.rulesRead count source]

/-- Adds a source of a repository. One that cannot be decoded is skipped with a report. -/
def addSource (c : Catalogue) (contents : Datum) (source : Text) : Load σ Unit :=
  tryCatch (addBuffer contents source) fun
    | .parse cause =>
      match c.render cause.message with
      | some complaint => report [.undecodableSource source complaint]
      | none => throw (.parse cause)
    | failure => throw failure

/-- Adds the file at a path. One that does not exist is skipped with a report. -/
def addPath (h : Host) (path : PathName) : Load σ Unit :=
  match h.read path with
  | .ok contents => addBuffer (.bytes contents) path.toText
  | .error e =>
    if e.errno.isNoEntry then report [.missingPath path.shown]
    else throw (.access (.unreadable path e))

/-- Adds the file at a path, which must exist. -/
def addRequiredPath (h : Host) (path : PathName) : Load σ Unit :=
  match h.read path with
  | .ok contents => do discard (addContents (.bytes contents))
  | .error e => throw (.access (.unreadable path e))

/-- Adds a blob of the repository. One that does not exist is skipped with a report. -/
def addBlob (c : Catalogue) (r : Repository σ) (spec : Text) : Load σ Unit := do
  match ← ask (r.blob spec) with
  | none => report [.missingBlob spec]
  | some contents => addSource c contents spec

/-- Adds a file by way of the repository. One that cannot be read is skipped with a report. -/
def addFile (c : Catalogue) (r : Repository σ) (path : Text) : Load σ Unit := do
  match ← ask (r.file path) with
  | none => report [.unreadableFile path]
  | some contents => addSource c contents path

/-! ## Repositories -/

/-- The name of the mailmap at the top of a working tree. -/
def worktreeSource : Text := ".mailmap".toList

/-- The key that names the blob to read. -/
def blobKey : Text := "mailmap.blob".toList

/-- The key that names the file to read. -/
def fileKey : Text := "mailmap.file".toList

/-- The blob that a bare repository is asked for when none is configured. -/
def defaultBlob : Text := "HEAD:.mailmap".toList

/-- The blob to read: the configured one, or in a bare repository the default. -/
def chosenBlob (r : Repository σ) : Load σ (Option Text) := do
  match ← ask (r.config blobKey) with
  | some spec => return some spec
  | none => return if ← ask r.hasWorktree then none else some defaultBlob

/-- Adds the mailmap at the top of the working tree, if there is one. -/
def addWorktree (c : Catalogue) (r : Repository σ) : Load σ Unit := do
  if let some contents ← ask r.worktreeMailmap then addSource c contents worktreeSource

/-- Adds the chosen blob, if there is one. An empty name is none. -/
def addChosenBlob (c : Catalogue) (r : Repository σ) : Load σ Unit := do
  if let some (first :: rest) ← chosenBlob r then addBlob c r (first :: rest)

/-- Adds the configured file, if there is one. An empty name is none. -/
def addConfiguredFile (c : Catalogue) (r : Repository σ) : Load σ Unit := do
  if let some (first :: rest) ← ask (r.config fileKey) then addFile c r (first :: rest)

/-- Adds the mailmap of the working tree, then the blob and then the file that are configured. -/
def addRepository (c : Catalogue) (r : Repository σ) : Load σ Unit := do
  addWorktree c r
  addChosenBlob c r
  addConfiguredFile c r

end Loading

end Attribution
