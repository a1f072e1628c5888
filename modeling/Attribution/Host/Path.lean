import Attribution.Text.Quoted
import Attribution.Text.Trim
import Attribution.Text.Utf8

/-!
# Paths

Names of files, given as text or as bytes, and the two ways to complete a relative one.

- `PathName`: a path as the caller gave it; messages show it in that form.
- `Path.join`: a path below a directory, unless it starts at the root.
- `Path.expandHome?`: a leading `~` or `~user` replaced by a home directory.
-/

namespace Attribution

/-- A path as text or as bytes. -/
inductive PathName
  | text (t : Text)
  | bytes (b : Bytes)
deriving DecidableEq

namespace PathName

/-- The path as text. Bytes that are not UTF-8 are replaced, so names that differ in such bytes only
are not told apart: files whose names are not UTF-8 are outside the library. -/
def toText : PathName → Text
  | text t => t
  | bytes b => Utf8.decodeLossy b

/-- The path inside a message. -/
def shown : PathName → Text
  | text t => t
  | bytes b => b.quoted

/-- The path between quotes. -/
def quoted : PathName → Text
  | text t => t.quoted
  | bytes b => b.quoted

end PathName

namespace Path

/-- Whether a path starts at the root. -/
def isAbsolute (path : Text) : Bool := path.startsWith ['/']

/-- The path `path` seen from the directory `base`. -/
def join (base path : Text) : Text :=
  if isAbsolute path then path
  else if base.isEmpty || base.getLast? == some '/' then base ++ path
  else base ++ '/' :: path

/-- What stands below a home directory, which is the root if nothing is left of it. -/
def inHome (home below : Text) : Text :=
  let whole := trimEnd (· == '/') home ++ below
  if whole.isEmpty then ['/'] else whole

/-- The path with a leading `~` replaced by the home directory, and a leading `~` and name by that
of the user with the name. If there is no such user the path stays as it is; but no user can have a
name that holds a zero character, and then there is no path. -/
def expandHome? (home : Text) (users : Text → Option Text) : Text → Option Text
  | '~' :: rest =>
    let user := rest.takeWhile (· != '/')
    let below := rest.dropWhile (· != '/')
    if user.isEmpty then some (inHome home below)
    else if '\x00' ∈ user then none
    else
      match users user with
      | some home => some (inHome home below)
      | none => some ('~' :: rest)
  | path => some path

end Path

end Attribution
