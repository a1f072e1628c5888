import Attribution.Proofs.Loading.FromText
import Attribution.Proofs.Store.Lookup

/-!
# Resolving what was resolved

An identity that a rule gave can be one that another rule is about. Nothing comes of this
where the rules agree.

- `Rule.destination`: the email that a rule leads to.
- `Rule.AgreesWith`: a rule that gives nothing else than another.
- `Rule.Consistent`: rules that agree with those that lead to their emails.
- `Store.agreesWith_of_find?`: among such rules, the one for what another gave agrees with it.
- `Store.resolve_resolve`: resolving again changes nothing.
-/

namespace Attribution

namespace Rule

/-- The email that a rule leads to: the proper one, or else the one it is about. -/
def destination (r : Rule) : Text := r.properEmail.getD r.commitEmail

/-- A rule agrees with another if it gives no name but the other's and no email but the
other's. It may give less. -/
def AgreesWith (q r : Rule) : Prop :=
  (q.properName = none ∨ q.properName = r.properName) ∧
    (q.properEmail = none ∨ q.properEmail = r.properEmail)

instance (q r : Rule) : Decidable (q.AgreesWith r) := inferInstanceAs (Decidable (_ ∧ _))

/-- Rules are consistent if each of them agrees with all those that lead to an email that it
is about, whatever the case of its letters. -/
def Consistent (rs : List Rule) : Prop :=
  ∀ r ∈ rs, ∀ q ∈ rs, q.commitEmail.lower = r.destination.lower → q.AgreesWith r

instance (rs : List Rule) : Decidable (Consistent rs) :=
  inferInstanceAs (Decidable (∀ r ∈ rs, ∀ q ∈ rs, _ → _))

section Agrees

variable {q r : Rule}

theorem AgreesWith.name_eq (h : q.AgreesWith r) (name : Option Text) :
    (q.properName <|> (r.properName <|> name)) = (r.properName <|> name) := by
  rcases h.1 with hq | hq
  · rw [hq]
    rfl
  · rw [hq]
    cases r.properName <;> rfl

theorem AgreesWith.email_eq (h : q.AgreesWith r) (email : Text) :
    q.properEmail.getD (r.properEmail.getD email) = r.properEmail.getD email := by
  rcases h.2 with hq | hq
  · rw [hq]
    rfl
  · rw [hq]
    cases r.properEmail <;> rfl

end Agrees

end Rule

namespace Store

variable {s : Store} {name : Option Text} {email : Text} {r : Rule}

/-- The rule that applies leads to the email that comes of it, but for the case of its
letters. -/
theorem lower_destination_of_find? (h : s.find? name email = some r) :
    r.destination.lower = (r.properEmail.getD email).lower := by
  rw [Rule.destination]
  cases r.properEmail with
  | none => exact lower_of_find? h
  | some _ => rfl

/-- **What consistent rules say of a resolved identity** is nothing else, whatever the name
with the email: the rule that applies to it agrees with the one it came of. -/
theorem agreesWith_of_find? (hs : Rule.Consistent s.toList) (h : s.find? name email = some r)
    {name' : Option Text} {q : Rule}
    (h' : s.find? name' (r.properEmail.getD email) = some q) : q.AgreesWith r := by
  have hlower : q.commitEmail.lower = r.destination.lower :=
    (lower_of_find? h').trans (lower_destination_of_find? h).symm
  exact hs r (mem_toList_of_find? h) q (mem_toList_of_find? h') hlower

/-- **Resolving again changes nothing** if the rules of a store are consistent. A rule may
apply to what came of another, be it about one name or any, but then it agrees with the
other. -/
theorem resolve_resolve (hs : Rule.Consistent s.toList) (name : Option Text) (email : Text) :
    s.resolve (s.resolve name email).1 (s.resolve name email).2 = s.resolve name email := by
  cases hfind : s.find? name email with
  | none => rw [resolve_of_find?_eq_none hfind, resolve_of_find?_eq_none hfind]
  | some r =>
    rw [resolve_of_find? hfind]
    cases hagain : s.find? (r.properName <|> name) (r.properEmail.getD email) with
    | none => exact resolve_of_find?_eq_none hagain
    | some q =>
      have hagrees := agreesWith_of_find? hs hfind hagain
      rw [resolve_of_find? hagain, hagrees.name_eq, hagrees.email_eq]

/-! ### A rule for what another gives -/

/-- A mailmap whose second rule is about the name and, in capitals, the email that the first
one gives. -/
def renamedTwice : Text :=
  "Jane Doe <jane@new> <jane@old>\n<jane@new> Jane Doe <JANE@NEW>".toList

/-- The second rule applies to what comes of the first, and leaves it as it is. -/
theorem resolve_resolve_renamedTwice :
    Rule.Consistent (ofDocument renamedTwice).toList ∧
      (ofDocument renamedTwice).resolve (some "jd".toList) "Jane@Old".toList =
        (some "Jane Doe".toList, "jane@new".toList) ∧
      (ofDocument renamedTwice).find? (some "Jane Doe".toList) "jane@new".toList =
        some ⟨none, some "jane@new".toList, some "Jane Doe".toList, "JANE@NEW".toList⟩ ∧
      (ofDocument renamedTwice).resolve (some "Jane Doe".toList) "jane@new".toList =
        (some "Jane Doe".toList, "jane@new".toList) := by
  have hlist := toList_ofDocument (t := renamedTwice) (by decide) (by decide)
  have hconsistent : Rule.Consistent (ofDocument renamedTwice).toList := by
    rw [hlist]
    decide
  have hfirst : (ofDocument renamedTwice).resolve (some "jd".toList) "Jane@Old".toList =
      (some "Jane Doe".toList, "jane@new".toList) := by
    rw [resolve_eq_search, hlist]
    decide
  refine ⟨hconsistent, hfirst, ?_, ?_⟩
  · rw [find?_eq_search, hlist]
    decide
  · have hagain := resolve_resolve hconsistent (some "jd".toList) "Jane@Old".toList
    rwa [hfirst] at hagain

end Store

end Attribution
