import Attribution.Host.Fault
import Attribution.Message

/-!
# The host

What the library needs from the machine it runs on, as pure answers: the outcome of a git command,
the contents of a file, the home directories and the catalogue of messages.

- `GitAnswer`: how a git command ends.
- `Host`: the answers.
- `Host.read`: the contents of a file, or the error of opening it.
-/

namespace Attribution

/-- How a git command ends. -/
inductive GitAnswer
  | finished (output : Bytes)
  | failed (status : Int) (errors : Bytes)
  | unstartable (cause : OsError)

/-- The answers of a machine: those of git depend on the words after `git`, those about files on
the path. `home` is the directory of whoever runs the program, and `users` knows those of the
users by their names.

A machine answers for every path and every word. That a path or a word with a zero character is
refused before the machine is asked is outside the library, but for names of users. -/
structure Host where
  git : List Text → GitAnswer
  file : Text → Except Errno Bytes
  home : Text
  users : Text → Option Text := fun _ => none
  catalogue : Catalogue

/-- The contents of a file, or the error of opening it. -/
def Host.read (h : Host) (path : PathName) : Except OsError Bytes :=
  (h.file path.toText).mapError fun errno => ⟨errno, some path⟩

end Attribution
