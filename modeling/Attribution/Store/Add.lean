import Attribution.Store.Basic

/-!
# Adding checked rules

Rules come into a store only if their fields are ones a rule can have.

- `Store.addAll`: adds rules up to the first that fails.
-/

namespace Attribution.Store

/-- The store with the rules up to the first that fails, and that failure if there is one. -/
def addAll (s : Store) : List Rule → Store × Except Failure Unit
  | [] => (s, .ok ())
  | r :: rest =>
    match r.recheck with
    | .ok checked => (s.insert checked).addAll rest
    | .error e => (s, .error (.field e))

end Attribution.Store
