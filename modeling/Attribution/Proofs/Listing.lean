import Attribution.Proofs.Concatenation
import Attribution.Proofs.Loading.Sources
import Attribution.Proofs.Rule.RoundTrip
import Attribution.Proofs.Store.Lookup

/-!
# Reading a listing again

What a store lists is a mailmap that makes the same store.

- `Session.rules_listing`: the rules of a listing are those of the store.
- `Session.perform_addContents_listing`: adding a listing to an empty store.
- `Session.ListsFaithfully`: what a listing keeps of a store.
- `Session.listing_faithful`: all of it for the stores that are filled from sources.
-/

namespace Attribution

namespace Document

/-- The lines of well-formed rules bring back the rules, in order. -/
theorem rules_flatMap_toLine {rs : List Rule} (h : ∀ r ∈ rs, r.WellFormed) :
    rules (rs.flatMap fun r => r.toLine ++ ['\n']) = rs := by
  induction rs with
  | nil => rfl
  | cons r rest ih =>
    obtain ⟨hr, hrest⟩ := List.forall_mem_cons.mp h
    rw [List.flatMap_cons, List.append_assoc, List.singleton_append, rules_append,
      rules_toLine_iff.mpr hr, ih hrest]
    rfl

end Document

namespace Store

variable {s s' : Store}

theorem resolve_congr (h : s'.toList = s.toList) (name : Option Text) (email : Text) :
    s'.resolve name email = s.resolve name email := by
  rw [resolve_eq_search, resolve_eq_search, h]

end Store

namespace Session

variable {σ : Type} {s : Store}

theorem rules_listing (h : ∀ r ∈ s.toList, r.FromLine) :
    Document.rules (listing s) = s.toList :=
  Document.rules_flatMap_toLine fun r hr => (h r hr).2

/-- **A listing is read without failure**, and an empty store that it is added to
lists the same rules in the same order. -/
theorem perform_addContents_listing (h : ∀ r ∈ s.toList, r.FromLine) {contents : Datum}
    (hspells : contents.Spells (listing s)) (ρ : σ) :
    ∃ l', (Loading.start ρ).perform (Loading.addContents contents) = (.ok s.size, l') ∧
      l'.store.toList = s.toList := by
  have hadd : Store.empty.addAll s.toList = (Store.empty.insertAll s.toList, .ok ()) :=
    Store.addAll_of_forall fun r hr => (h r hr).1
  rw [Loading.perform_addContents_ok (Document.decode_eq_ok_iff.mpr hspells),
    rules_listing h]
  show ∃ l', ((Store.empty.addAll s.toList).2.map _, _) = _ ∧ _
  rw [hadd, Store.length_toList]
  exact ⟨_, rfl, (congrArg (fun added => Store.toList added.1) hadd).trans
    s.toList_insertAll_toList⟩

/-- What is written of a store when its rules are asked for is a faithful mailmap:
as text or as bytes, it is read without failure, and an empty store that it is added
to lists the same rules in the same order, resolves all identities to the same, and
has the same written of it. -/
def ListsFaithfully (s : Store) : Prop :=
  ∀ (o : Options) (stdin : Text), o.list = true →
    ∀ contents : Datum, contents.Spells (output s o stdin).1 →
      ∀ (σ : Type) (ρ : σ), ∃ l',
        (Loading.start ρ).perform (Loading.addContents contents) = (.ok s.size, l') ∧
        l'.store.toList = s.toList ∧
        (∀ name email, l'.store.resolve name email = s.resolve name email) ∧
        output l'.store o stdin = output s o stdin

/-- The listing of rules that can have come from lines is faithful. -/
theorem listsFaithfully_of_forall (h : ∀ r ∈ s.toList, r.FromLine) : ListsFaithfully s := by
  intro o stdin ho contents hspells σ ρ
  have houtput : ∀ s' : Store, output s' o stdin = (listing s', .ok ()) := fun s' =>
    if_pos ho
  rw [houtput] at hspells
  obtain ⟨l', hperform, hlist⟩ := perform_addContents_listing h hspells ρ
  refine ⟨l', hperform, hlist, Store.resolve_congr hlist, ?_⟩
  rw [houtput, houtput, listing, listing, hlist]

/-- **Listings are faithful** for every store that is filled from sources of any
kind, one after the other, whichever of them fail, and for every store that a run
fills from the sources its options name, also if it fails on the way. -/
theorem listing_faithful :
    (∀ (σ : Type) (ρ : σ) (sources : List (Loading.Source σ)),
      ListsFaithfully ((Loading.start ρ).performAll (sources.map (·.step))).store) ∧
    ∀ (h : Host) (o : Options),
      ListsFaithfully ((Loading.start (.atPath ['.'])).perform (load h o)).2.store := by
  constructor
  · intro σ ρ sources
    have hsteps : ∀ step ∈ sources.map (·.step), Loading.AddsOnly Rule.FromLine step :=
      fun step hstep => by
        obtain ⟨source, -, rfl⟩ := List.mem_map.mp hstep
        exact source.addsOnly_step
    -- whatever was replaced on the way, what is listed came from lines
    have hextends := Loading.extendsTo_performAll hsteps (Loading.start ρ)
    exact listsFaithfully_of_forall (hextends.forall_toList Store.forall_toList_empty)
  · intro h o
    have hextends := addsOnly_load h o (Loading.start (.atPath ['.']))
    exact listsFaithfully_of_forall (hextends.forall_toList Store.forall_toList_empty)

end Session

end Attribution
