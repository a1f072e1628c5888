import Attribution.Proofs.Store.Lookup
import Attribution.Proofs.Text.Lowercase

/-!
# The letter case of emails

The case of ASCII letters in an email tells nothing, neither in a question nor in a rule.

- `Rule.respelled`: a rule with its email spelled in another way.
- `Rule.key_respelled`, `Rule.IsValid.respelled`: what such a rule has in common with the other.
- `Store.find?_of_lower_eq`: what applies to an email is told by its lower-case form.
- `Store.get?_insertAll_cons`, `Store.find?_of_get?`: all that another spelling in a rule changes.
- `Store.find?_letterCase`: emails match whatever the case of their letters.
-/

namespace Attribution

namespace Rule

/-- A rule with its email spelled in another way. -/
def respelled (r : Rule) (email : Text) : Rule := { r with commitEmail := email }

variable {r : Rule} {email : Text}

/-- The key of a rule stays the same if only the case of ASCII letters differs. -/
theorem key_respelled (h : email.AsciiAlike r.commitEmail) : (r.respelled email).key = r.key := by
  rw [key, key, ← h.lower_eq]
  rfl

theorem IsValid.respelled (hr : r.IsValid) (h : email.AsciiAlike r.commitEmail) :
    (r.respelled email).IsValid where
  commitEmail_ne := by
    rintro (rfl : email = [])
    exact hr.commitEmail_ne (List.map_eq_nil_iff.mp h.symm)
  commitEmail := fun hmem => hr.commitEmail (h.nul_mem_iff.mp hmem)
  properName := hr.properName
  properEmail := hr.properEmail
  commitName := hr.commitName

end Rule

namespace Store

variable {s t t' : Store} {name : Option Text} {email : Text} {r r' : Rule}

/-- **What applies to an email is told by its lower-case form.** -/
theorem find?_of_lower_eq {email' : Text} (h : email'.lower = email.lower) :
    s.find? name email' = s.find? name email := by
  cases name <;> simp only [find?, h]

/-- Of two rules with one key, each may come in before some others. If then the one is found
for a key, the other is found in its place; what is found for all other keys is the same. -/
theorem get?_insertAll_cons (hkey : r'.key = r.key) (rs : List Rule) (k : Key) :
    (s.insertAll (r' :: rs)).get? k = (s.insertAll (r :: rs)).get? k ∨
      (s.insertAll (r :: rs)).get? k = some r ∧ (s.insertAll (r' :: rs)).get? k = some r' := by
  by_cases hfound : k = r.key ∧ ∀ q ∈ rs, q.key ≠ r.key
  · obtain ⟨rfl, hrs⟩ := hfound
    have hlast : ∀ p : Rule, p.key = r.key → (s.insertAll (p :: rs)).get? r.key = some p := by
      intro p hp
      have hp' : p.IsLastIn (p :: rs) := Rule.isLastIn_cons.mpr (.inr ⟨rfl, hp ▸ hrs⟩)
      exact get?_eq_some_iff.mpr ⟨mem_toList_insertAll.mpr (.inl hp'), hp⟩
    exact .inr ⟨hlast r rfl, hlast r' hkey⟩
  -- neither rule is the last one for the key, and both put out the same rules
  · have hgone : ∀ p : Rule, p.key = r.key → ∀ q, (s.insertAll (p :: rs)).get? k = some q ↔
        (q.IsLastIn rs ∨ q ∈ s.toList ∧ r.key ≠ q.key ∧ ∀ q' ∈ rs, q'.key ≠ q.key) ∧
          q.key = k := by
      intro p hp q
      rw [get?_eq_some_iff, mem_toList_insertAll, Rule.isLastIn_cons, List.forall_mem_cons, hp]
      refine and_congr_left fun hq => or_congr_left (or_iff_left ?_)
      rintro ⟨rfl, hrs⟩
      exact hfound ⟨hq ▸ hp, hp ▸ hrs⟩
    exact .inl (Option.ext fun q => (hgone r' hkey q).trans (hgone r rfl q).symm)

/-- If for each key two stores have the same rule, or the one has a rule where the other has
another, then what they find is alike in the same way. -/
theorem find?_of_get?
    (h : ∀ k, t'.get? k = t.get? k ∨ t.get? k = some r ∧ t'.get? k = some r') :
    t'.find? name email = t.find? name email ∨
      t.find? name email = some r ∧ t'.find? name email = some r' := by
  cases name with
  | none => exact h ⟨email.lower, none⟩
  | some n =>
    simp only [find?]
    rcases h ⟨email.lower, some n⟩ with hsame | ⟨hfound, hfound'⟩
    · rw [hsame]
      cases t.get? ⟨email.lower, some n⟩ with
      | none => exact h ⟨email.lower, none⟩
      | some q => exact .inl rfl
    · rw [hfound, hfound']
      exact .inr ⟨rfl, rfl⟩

/-- **Emails match whatever the case of their ASCII letters** and whatever other characters they
hold. The same rule applies to an email that is spelled in other case, or altogether in lower
case. And if the email of a rule is spelled in other case before it is added, the rule comes in
just so, whatever comes in after it, and then it is the one that applies wherever it did;
nothing else changes. -/
theorem find?_letterCase (s : Store) (name : Option Text) (email : Text) :
    (∀ email' : Text, email'.AsciiAlike email → s.find? name email' = s.find? name email) ∧
    s.find? name email.lower = s.find? name email ∧
    ∀ (r : Rule) (spelled : Text) (later : List Rule), spelled.AsciiAlike r.commitEmail →
      (∀ q ∈ r :: later, q.IsValid) →
      ∃ t t', s.addAll (r :: later) = (t, .ok ()) ∧
        s.addAll (r.respelled spelled :: later) = (t', .ok ()) ∧
        (t'.find? name email = t.find? name email ∨
          t.find? name email = some r ∧ t'.find? name email = some (r.respelled spelled)) := by
  refine ⟨fun email' h => find?_of_lower_eq h.lower_eq, find?_of_lower_eq email.lower_lower, ?_⟩
  intro r spelled later h hvalid
  obtain ⟨hr, hlater⟩ := List.forall_mem_cons.mp hvalid
  exact ⟨_, _, addAll_of_forall hvalid,
    addAll_of_forall (List.forall_mem_cons.mpr ⟨hr.respelled h, hlater⟩),
    find?_of_get? (get?_insertAll_cons (Rule.key_respelled h) later)⟩

/-! ### A sigma in an email -/

/-- A rule for an email with a capital sigma at the end of a word. -/
def sigmaRule : Rule := ⟨some "Io".toList, none, none, "AΣ@Old.x".toList⟩

/-- A rule for one name with the email. -/
def sigmaNameRule : Rule := ⟨none, some "io@new.x".toList, some "io".toList, "aΣ@old.X".toList⟩

/-- Another spelling of the email. -/
def sigmaEmail : Text := "aΣ@OLD.x".toList

/-- The first rule applies to the email however the letters around the sigma are written, and so
it does if it is spelled differently itself. -/
theorem find?_letterCase_sigma :
    sigmaEmail.AsciiAlike sigmaRule.commitEmail ∧
      (∀ q ∈ [sigmaRule, sigmaNameRule], q.IsValid) ∧
      ∃ t t', empty.addAll [sigmaRule, sigmaNameRule] = (t, .ok ()) ∧
        empty.addAll [sigmaRule.respelled sigmaEmail, sigmaNameRule] = (t', .ok ()) ∧
        t.find? none "AΣ@oLD.X".toList = some sigmaRule ∧
        t.find? none sigmaEmail = some sigmaRule ∧
        t.find? none "aς@old.x".toList = some sigmaRule ∧
        t'.find? none "AΣ@oLD.X".toList = some (sigmaRule.respelled sigmaEmail) := by
  have halike : sigmaEmail.AsciiAlike sigmaRule.commitEmail := by decide
  have hvalid : ∀ q ∈ [sigmaRule, sigmaNameRule], q.IsValid := by decide
  obtain ⟨-, -, hrule⟩ := find?_letterCase empty none "AΣ@oLD.X".toList
  obtain ⟨t, t', ht, ht', hfound⟩ := hrule sigmaRule sigmaEmail [sigmaNameRule] halike hvalid
  have hlist : t.toList = [sigmaRule, sigmaNameRule] := by
    cases ht.symm.trans (addAll_of_forall hvalid)
    rw [toList_insertAll]
    decide +kernel
  have hfind : t.find? none "AΣ@oLD.X".toList = some sigmaRule := by
    rw [find?_eq_search, hlist]
    decide +kernel
  obtain ⟨hspelled, hlower, -⟩ := find?_letterCase t none "AΣ@oLD.X".toList
  refine ⟨halike, hvalid, t, t', ht, ht', hfind, ?_, ?_, ?_⟩
  · exact (hspelled sigmaEmail (by decide)).trans hfind
  · rw [show Text.lower "AΣ@oLD.X".toList = "aς@old.x".toList by decide +kernel] at hlower
    exact hlower.trans hfind
  -- the rule itself is not there in the spelling that it has in the other store
  · have hlist' : t'.toList = [sigmaRule.respelled sigmaEmail, sigmaNameRule] := by
      cases ht'.symm.trans (addAll_of_forall (by decide))
      rw [toList_insertAll]
      decide +kernel
    rcases hfound with hsame | ⟨-, hother⟩
    · have hmem := mem_toList_of_find? (hsame.trans hfind)
      rw [hlist'] at hmem
      exact absurd hmem (by decide)
    · exact hother

end Store

end Attribution
