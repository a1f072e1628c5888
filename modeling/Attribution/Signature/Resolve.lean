import Attribution.Signature.Basic
import Attribution.Store.Resolve

/-!
# Resolving signatures

- `Store.resolveSignature`: the signature of whoever a recorded one belongs to, at the same moment.
-/

namespace Attribution.Store

/-- The signature with the proper name and email. They may be unfit for a signature. -/
def resolveSignature (s : Store) (sig : Signature) : Except Failure Signature :=
  let (name, email) := s.resolve (some sig.name.val) sig.email.val
  Signature.ofParts (.ofText? name) (.text email) sig.time sig.offset

end Attribution.Store
