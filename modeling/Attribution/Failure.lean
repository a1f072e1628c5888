import Attribution.Datum
import Attribution.Host.Fault
import Attribution.Message

/-!
# Failures

Why an operation fails, as causes. The words for a cause are chosen here and nowhere else.

- `ParseFailure`: text that cannot be read.
- `FieldFailure`: a field that a rule cannot have.
- `IdentityFailure`: a name, email or time that a signature cannot have.
- `AccessFailure`: a file or repository that cannot be read.
- `Failure`: any of these, or misuse of an operation.
- `Failure.report`: what a user gets to see of a failure, given the catalogue.
-/

namespace Attribution

/-! ## Text that cannot be read -/

/-- The words for an ill-formed UTF-8 sequence. -/
def Utf8.Reason.words : Utf8.Reason → Text
  | startByte => "invalid start byte".toList
  | continuationByte => "invalid continuation byte".toList
  | truncated => "unexpected end of data".toList

/-- Which bytes cannot be decoded, where they stand, and why. -/
def Utf8.DecodeFailure.message (f : Utf8.DecodeFailure) : Text :=
  "'utf-8' codec can't decode ".toList ++
    (if f.others.isEmpty then
      "byte 0x".toList ++ Quoted.hex 2 f.first.toNat ++ " in position ".toList ++
        Numeral.digits f.position
    else
      "bytes in position ".toList ++ Numeral.digits f.position ++ ['-'] ++
        Numeral.digits (f.position + f.others.length)) ++
    ": ".toList ++ f.reason.words

/-- Why a text cannot be read. -/
inductive ParseFailure
  | undecodableMailmap (cause : Utf8.DecodeFailure)
  | undecodableSignature (cause : Utf8.DecodeFailure)
  | offset (t : Text)
  | signature (t : Text)
  | contact (t : Text)
deriving DecidableEq

/-- The message for a text that cannot be read. -/
def ParseFailure.message : ParseFailure → Message
  | undecodableMailmap cause =>
    .template "Mailmap is not valid UTF-8 text: %s".toList [cause.message]
  | undecodableSignature cause =>
    .template "Signature is not valid UTF-8: %s".toList [cause.message]
  | offset t => .template "Invalid timezone offset: %s".toList [t]
  | signature t => .template "Unparseable signature: %s".toList [t]
  | contact t => .template "unable to parse contact: %s".toList [t]

/-! ## Fields of a rule -/

/-- The fields of a rule. -/
inductive Field
  | properName
  | properEmail
  | commitName
  | commitEmail
deriving DecidableEq

/-- The name that messages use for a field. -/
def Field.name : Field → Text
  | properName => "real_name".toList
  | properEmail => "real_email".toList
  | commitName => "replace_name".toList
  | commitEmail => "replace_email".toList

/-- Why a rule cannot have a field's value. -/
inductive FieldFailure
  | required (field : Field)
  | notText (field : Field) (typeName : Text)
  | containsNul (field : Field)
  | emptyCommitEmail
deriving DecidableEq

/-- The message for a field that a rule cannot have. -/
def FieldFailure.message : FieldFailure → Message
  | required field => .template "%s is required".toList [field.name]
  | notText field typeName =>
    .template "%s must be a string, not %s".toList [field.name, typeName]
  | containsNul field => .template "%s contains a NUL character".toList [field.name]
  | emptyCommitEmail => .template "replace_email cannot be empty".toList []

/-! ## Parts of a signature -/

/-- The two parts of an identity. -/
inductive IdentityPart
  | name
  | email
deriving DecidableEq

/-- The word for a part of an identity. -/
def IdentityPart.word : IdentityPart → Text
  | name => "name".toList
  | email => "email".toList

/-- Why a signature cannot be assembled. -/
inductive IdentityFailure
  | notText (part : IdentityPart) (typeName : Text)
  | empty (part : IdentityPart)
  | forbidden (part : IdentityPart) (t : Text)
  | noTimeZone
deriving DecidableEq

/-- The message for a signature that cannot be assembled. -/
def IdentityFailure.message : IdentityFailure → Message
  | notText part typeName =>
    .template "Signature %s must be a string, not %s".toList [part.word, typeName]
  | empty part => .template "Signature cannot have an empty %s".toList [part.word]
  | forbidden part t =>
    .template "Signature %s contains a forbidden character: %s".toList [part.word, t.quoted]
  | noTimeZone => .template "Signature time must be timezone aware".toList []

/-! ## Files and repositories -/

/-- Why a file or a repository cannot be read. -/
inductive AccessFailure
  | unreadable (path : PathName) (cause : OsError)
  | repository (cause : HostFault)
  | gitUnavailable (cause : OsError)
  | notRepository (path : Text)
  | fatal (complaint : Text)
  | reported (message : Text)
deriving DecidableEq

/-- The message for a file or repository that cannot be read. What a repository reports in its own
words is passed on as it is. -/
def AccessFailure.message : AccessFailure → Message
  | unreadable path cause => .template "Cannot read %s: %s".toList [path.shown, cause.message]
  | repository cause => .template "Cannot read repository: %s".toList [cause.message]
  | gitUnavailable cause => .template "Cannot run git: %s".toList [cause.message]
  | notRepository path =>
    .template "%s does not appear to be a valid git repository".toList [path]
  | fatal complaint => .template "fatal: %s".toList [complaint]
  | reported message => .verbatim message

/-! ## All failures -/

/-- Why an operation fails: one of the conditions of the domain, or misuse. -/
inductive Failure
  | parse (cause : ParseFailure)
  | field (cause : FieldFailure)
  | identity (cause : IdentityFailure)
  | access (cause : AccessFailure)
  | misuse (cause : Misuse)
deriving DecidableEq

/-- The conditions of the domain. -/
inductive Condition
  | parse
  | field
  | identity
  | access
deriving DecidableEq

/-- What a user gets to see of a failure: a condition of the domain with its message, or misuse. -/
inductive Report
  | condition (kind : Condition) (message : Text)
  | misuse (cause : Misuse)
deriving DecidableEq

/-- The message of a failure, worded by the catalogue. A message that the catalogue's text cannot
take is itself a misuse. -/
def Report.ofMessage (c : Catalogue) (kind : Condition) (m : Message) : Report :=
  match c.render m with
  | some t => .condition kind t
  | none => .misuse .wrongType

/-- What a user gets to see of a failure. -/
def Failure.report (c : Catalogue) : Failure → Report
  | parse cause => .ofMessage c .parse cause.message
  | field cause => .ofMessage c .field cause.message
  | identity cause => .ofMessage c .identity cause.message
  | access cause => .ofMessage c .access cause.message
  | misuse cause => .misuse cause

end Attribution
