import Attribution.Failure

/-!
# Repositories

What the loader asks of a repository. A repository may keep a state of its own, which survives a
failed call.

- `CallFailure`: why a call fails.
- `Call`: a call on a repository's state.
- `Repository`: the five questions a repository answers.
-/

namespace Attribution

/-- Why a call to a repository fails: the repository says so, something on the host goes wrong, or
the call is a misuse. -/
inductive CallFailure
  | access (cause : AccessFailure)
  | host (cause : HostFault)
  | misuse (cause : Misuse)
deriving DecidableEq

/-- What a failed call means to whoever made it: faults of the host make a repository unreadable. -/
def CallFailure.toFailure : CallFailure → Failure
  | access cause => .access cause
  | host cause => .access (.repository cause)
  | misuse cause => .misuse cause

/-- A call on a repository with states in `σ`. -/
abbrev Call (σ α : Type) := ExceptT CallFailure (StateM σ) α

/-- The questions a repository answers: the mailmap at the top of its working tree, whether it has
one, the value of a configuration key, the contents of a blob and those of a file. What is not
there is `none`. -/
structure Repository (σ : Type) where
  worktreeMailmap : Call σ (Option Datum)
  hasWorktree : Call σ Bool
  config : Text → Call σ (Option Text)
  blob : Text → Call σ (Option Datum)
  file : Text → Call σ (Option Datum)

end Attribution
