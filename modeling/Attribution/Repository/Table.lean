import Attribution.Repository.Basic

/-!
# Tabulated repositories

A repository whose answers stand in a table, and which keeps the calls made to it.

- `RepositoryCall`: a call by its name and argument.
- `RepositoryTable`: the answers, and the failures of calls that fail.
- `RepositoryTable.repository`: the repository of a table; its state is the list of calls.
-/

namespace Attribution

/-- A call to a repository. -/
inductive RepositoryCall
  | worktreeMailmap
  | hasWorktree
  | config (key : Text)
  | blob (spec : Text)
  | file (path : Text)
deriving DecidableEq

/-- The name of a call, with its argument. -/
def RepositoryCall.name : RepositoryCall → Text
  | worktreeMailmap => "read_worktree_mailmap".toList
  | hasWorktree => "has_worktree".toList
  | config key => "get_config:".toList ++ key
  | blob spec => "read_blob:".toList ++ spec
  | file path => "read_file:".toList ++ path

/-- The answers of a repository. A call whose name is among the failures fails. -/
structure RepositoryTable where
  worktree : Datum
  bare : Bool
  config : List (Text × Text)
  blobs : List (Text × Datum)
  files : List (Text × Datum)
  failures : List (Text × CallFailure)

namespace RepositoryTable

/-- Contents that may be absent. -/
def contents? : Datum → Option Datum
  | .null => none
  | d => some d

/-- Keeps a call and fails if it is to fail, else gives the answer. -/
def answer {α : Type} (t : RepositoryTable) (call : RepositoryCall) (a : α) :
    Call (List RepositoryCall) α := do
  modify (· ++ [call])
  match t.failures.lookup call.name with
  | some failure => throw failure
  | none => return a

/-- The repository that answers from a table. -/
def repository (t : RepositoryTable) : Repository (List RepositoryCall) where
  worktreeMailmap := t.answer .worktreeMailmap (contents? t.worktree)
  hasWorktree := t.answer .hasWorktree (!t.bare)
  config key := t.answer (.config key) (t.config.lookup key)
  blob spec := t.answer (.blob spec) ((t.blobs.lookup spec).bind contents?)
  file path := t.answer (.file path) ((t.files.lookup path).bind contents?)

end RepositoryTable

end Attribution
