import Attribution.Proofs.Loading.Sources

/-!
# Stores that can come about

- `Store.Reachable`: the stores that additions and sources of any kind make of an empty one.
- `Store.Reachable.isValid`: all of their rules are valid.
- `Store.Reachable.insertAll`: valid rules can always be added.
-/

namespace Attribution

theorem Addition.isValid_of_mem_added (a : Addition) : ∀ r ∈ a.added, r.IsValid := by
  cases a with
  | rule fields =>
    intro r hr
    rw [added] at hr
    cases hfields : Rule.ofFields fields with
    | ok q =>
      rw [hfields] at hr
      obtain rfl : r = q := List.mem_singleton.mp hr
      exact (Rule.ofFields_eq_ok_iff.mp hfields).2
    | error e =>
      rw [hfields] at hr
      exact absurd hr List.not_mem_nil
  | document contents => exact (takeWhile_isValid _).1

namespace Store

/-- A store that can come about: an empty one, one to which a rule was added by its fields
or a document as a whole, one to which a source of any kind was added, and one to which a run
added the sources that its options name. Any of this may fail, and what was added before it
did stays. -/
inductive Reachable : Store → Prop
  | empty : Reachable empty
  | addition {σ : Type} {l : Loading σ} (h : l.store.Reachable) (a : Addition) :
      (l.perform a.step).2.store.Reachable
  | source {σ : Type} {l : Loading σ} (h : l.store.Reachable) (source : Loading.Source σ) :
      (l.perform source.step).2.store.Reachable
  | run {l : Loading GitRepository} (hl : l.store.Reachable) (h : Host) (o : Options) :
      (l.perform (Session.load h o)).2.store.Reachable

/-- **The rules of a store that can come about** are valid, whatever failed on the way. -/
theorem Reachable.isValid {s : Store} (h : s.Reachable) : ∀ r ∈ s.toList, r.IsValid := by
  induction h with
  | empty => exact forall_toList_empty
  | @addition _ l _ a ih =>
    have hextends : l.store.ExtendsTo Rule.IsValid (l.perform a.step).2.store :=
      ⟨a.added, a.isValid_of_mem_added, (Addition.perform_step a l).2⟩
    exact hextends.forall_toList ih
  | source _ source ih =>
    exact ((source.addsOnly_step _).mono fun _ hr => hr.1).forall_toList ih
  | run _ h o ih =>
    exact ((Session.addsOnly_load h o _).mono fun _ hr => hr.1).forall_toList ih

/-- Valid rules can be added by their fields, one after the other. -/
theorem Reachable.insertAll {s : Store} (h : s.Reachable) {rs : List Rule}
    (hrs : ∀ r ∈ rs, r.IsValid) : (s.insertAll rs).Reachable := by
  induction rs generalizing s with
  | nil => exact h
  | cons r rest ih =>
    obtain ⟨hr, hrest⟩ := List.forall_mem_cons.mp hrs
    have hstep := h.addition (l := ⟨s, [], ()⟩) (.rule r.fields)
    have hadded : (Addition.rule r.fields).added = [r] := by
      rw [Addition.added, Rule.ofFields_eq_ok_iff.mpr ⟨rfl, hr⟩]
      rfl
    rw [(Addition.perform_step _ _).2, hadded] at hstep
    exact ih hstep hrest

end Store

end Attribution
