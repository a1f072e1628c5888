import Attribution.Proofs.Loading.FromText
import Attribution.Proofs.Signature.Grammar
import Attribution.Proofs.Store.Lookup

/-!
# Resolving signatures

A store can resolve a signature to a name that no signature can have. Where it is filled
from text there is one way to such a name.

- `Identity.isFit_of_isName`, `Identity.isFit_of_isEmail`: the names and emails of lines
  that are fit for a signature.
- `Store.Misnames`: the rule for a signature gives a name with a closing bracket.
- `Store.resolve_eq_identities`: the name and email that a signature is resolved to.
- `Store.resolve_of_resolveSignature`: what a signature that is resolved is made of.
- `Store.resolveSignature_of_fromText`: when resolving a signature fails, and what comes of
  it otherwise.
-/

namespace Attribution

/-! ## Names and emails of lines -/

namespace Identity

variable {t : Text} {part : IdentityPart}

/-- A name of a line is fit for a signature if it has no closing bracket and no NUL
character. -/
theorem isFit_of_isName (h : t.IsName) (hclose : '>' ∉ t) (hnul : '\x00' ∉ t) : IsFit t :=
  ⟨h.nonempty, h.stripped,
    any_isForbidden_eq_false_iff.mpr ⟨h.noOpen, hclose, h.oneLine, hnul⟩⟩

/-- An email of a line is fit for a signature if it has no NUL character. -/
theorem isFit_of_isEmail (h : t.IsEmail) (hnul : '\x00' ∉ t) : IsFit t :=
  ⟨h.nonempty, h.stripped,
    any_isForbidden_eq_false_iff.mpr ⟨h.noOpen, h.noClose, h.oneLine, hnul⟩⟩

theorem ofDatum_of_isFit (h : IsFit t) : ofDatum part (.text t) = .ok ⟨t, h⟩ :=
  ofDatum_text_eq_ok_iff.mpr h.2.1

/-- A text without blanks at its ends that has a closing bracket is refused. -/
theorem ofDatum_of_mem_close (hstripped : t.strip = t) (hclose : '>' ∈ t) :
    ofDatum part (.text t) = .error (.forbidden part t) := by
  have hne : t ≠ [] := List.ne_nil_of_mem hclose
  have hany : t.any isForbidden = true := List.any_eq_true.mpr ⟨'>', hclose, rfl⟩
  simp [ofDatum, hstripped, hne, hany]

end Identity

namespace Store

section Resolve

variable {st : Store} {s : Signature} {n : Text}

/-! ## What a signature is resolved to -/

/-- The rule that applies to a signature gives this name, which has a closing bracket. -/
def Misnames (st : Store) (s : Signature) (n : Text) : Prop :=
  ∃ r, st.find? (some s.name.val) s.email.val = some r ∧ r.properName = some n ∧ '>' ∈ n

/-- **The name and email that a signature is resolved to** are fit for a signature, unless
the rule gives a name with a closing bracket. -/
theorem resolve_eq_identities (h : st.FromText) (hno : ∀ n, ¬ st.Misnames s n) :
    ∃ n e : Identity, st.resolve (some s.name.val) s.email.val = (some n.val, e.val) := by
  cases hfind : st.find? (some s.name.val) s.email.val with
  | none => exact ⟨s.name, s.email, resolve_of_find?_eq_none hfind⟩
  | some r =>
    obtain ⟨hvalid, hwell⟩ := h.fromLine r (mem_toList_of_find? hfind)
    have hname : ∃ n : Identity, (r.properName <|> some s.name.val) = some n.val := by
      cases hr : r.properName with
      | none => exact ⟨s.name, rfl⟩
      | some n =>
        have hclose : '>' ∉ n := fun hc => hno n ⟨r, hfind, hr, hc⟩
        have hfit := Identity.isFit_of_isName (hwell.properName n hr) hclose
          (hvalid.properName n hr)
        exact ⟨⟨n, hfit⟩, rfl⟩
    have hemail : ∃ e : Identity, r.properEmail.getD s.email.val = e.val := by
      cases hr : r.properEmail with
      | none => exact ⟨s.email, rfl⟩
      | some e =>
        have hfit := Identity.isFit_of_isEmail (hwell.properEmail e hr)
          (hvalid.properEmail e hr)
        exact ⟨⟨e, hfit⟩, rfl⟩
    obtain ⟨n, hn⟩ := hname
    obtain ⟨e, he⟩ := hemail
    exact ⟨n, e, by rw [resolve_of_find? hfind, hn, he]⟩

/-! ## When it fails -/

/-- A signature is not resolved to a name with a closing bracket. -/
theorem resolveSignature_of_misnames (h : st.FromText) (hn : st.Misnames s n) :
    st.resolveSignature s = .error (.identity (.forbidden .name n)) := by
  obtain ⟨r, hfind, hname, hclose⟩ := hn
  obtain ⟨-, hwell⟩ := h.fromLine r (mem_toList_of_find? hfind)
  rw [resolveSignature, resolve_of_find? hfind, hname]
  show Signature.ofParts (.text n) _ _ _ = _
  rw [Signature.ofParts,
    Identity.ofDatum_of_mem_close (hwell.properName n hname).stripped hclose]
  rfl

/-- A signature is resolved to a name and an email that are fit for one. -/
theorem resolveSignature_of_resolve {n e : Identity}
    (h : st.resolve (some s.name.val) s.email.val = (some n.val, e.val)) :
    st.resolveSignature s = .ok ⟨n, e, s.time, s.offset⟩ := by
  rw [resolveSignature, h]
  show Signature.ofParts (.text n.val) (.text e.val) _ _ = _
  rw [Signature.ofParts, Identity.ofDatum_of_isFit n.property,
    Identity.ofDatum_of_isFit e.property]
  rfl

/-- A signature that is resolved has the resolved name and email as they are, and the
timestamp and offset that were there. -/
theorem resolve_of_resolveSignature {s' : Signature} (h : st.FromText)
    (hok : st.resolveSignature s = .ok s') :
    st.resolve (some s.name.val) s.email.val = (some s'.name.val, s'.email.val) ∧
      s'.time = s.time ∧ s'.offset = s.offset := by
  have hno : ∀ n, ¬ st.Misnames s n := fun n hn => by
    rw [resolveSignature_of_misnames h hn] at hok
    cases hok
  obtain ⟨n, e, hresolve⟩ := resolve_eq_identities h hno
  rw [resolveSignature_of_resolve hresolve] at hok
  cases hok
  exact ⟨hresolve, rfl, rfl⟩

/-- **When resolving a signature fails**, in a store that is filled from text: exactly if
the rule that applies gives a name with a closing bracket, and the failure shows this name.
Otherwise the signature that comes of it has the resolved name and email as they are, and
the timestamp and offset that were there. One that no rule applies to stays as it is. -/
theorem resolveSignature_of_fromText (h : st.FromText) (s : Signature) :
    (∀ e, st.resolveSignature s = .error e ↔
      ∃ n, st.Misnames s n ∧ e = .identity (.forbidden .name n)) ∧
    (∀ s', st.resolveSignature s = .ok s' ↔
      (∀ n, ¬ st.Misnames s n) ∧
        (some s'.name.val, s'.email.val) = st.resolve (some s.name.val) s.email.val ∧
        s'.time = s.time ∧ s'.offset = s.offset) ∧
    (st.find? (some s.name.val) s.email.val = none → st.resolveSignature s = .ok s) := by
  have hnone : st.find? (some s.name.val) s.email.val = none →
      st.resolveSignature s = .ok s := fun hfind =>
    resolveSignature_of_resolve (resolve_of_find?_eq_none hfind)
  by_cases hmis : ∃ n, st.Misnames s n
  · obtain ⟨n, hn⟩ := hmis
    have herror := resolveSignature_of_misnames h hn
    refine ⟨fun e => ⟨fun he => ?_, ?_⟩, fun s' => ?_, hnone⟩
    · rw [herror] at he
      exact ⟨n, hn, (Except.error.inj he).symm⟩
    · rintro ⟨m, hm, rfl⟩
      exact resolveSignature_of_misnames h hm
    · rw [herror]
      exact iff_of_false nofun fun hno => hno.1 n hn
  · have hno : ∀ n, ¬ st.Misnames s n := fun n hn => hmis ⟨n, hn⟩
    obtain ⟨n, e, hresolve⟩ := resolve_eq_identities h hno
    have hok := resolveSignature_of_resolve hresolve
    refine ⟨fun e' => ?_, fun s' => ?_, hnone⟩
    · rw [hok]
      exact iff_of_false nofun fun ⟨m, hm, _⟩ => hno m hm
    · obtain ⟨n', e', time, offset⟩ := s'
      rw [hok, hresolve, Except.ok.injEq, Signature.mk.injEq]
      simp only [Prod.mk.injEq, Option.some.injEq, Subtype.ext_iff]
      constructor
      · rintro ⟨hn, he, ht, ho⟩
        exact ⟨hno, ⟨hn.symm, he.symm⟩, ht.symm, ho.symm⟩
      · rintro ⟨-, ⟨hn, he⟩, ht, ho⟩
        exact ⟨hn.symm, he.symm, ht.symm, ho.symm⟩

end Resolve

/-! ### A name with a closing bracket -/

/-- A line whose name has a closing bracket. -/
def bracketed : Loading.Source Unit := .document (.text "Jane > Doe <jane@x>".toList)

theorem toList_bracketed :
    ((Loading.start ()).perform bracketed.step).2.store.toList =
      [⟨some "Jane > Doe".toList, none, none, "jane@x".toList⟩] :=
  (toList_ofDocument (by decide) (by decide)).trans (by decide)

/-- A signature that this rule applies to is not resolved. -/
theorem resolveSignature_of_fromText_bracketed :
    ((Loading.start ()).perform bracketed.step).2.store.FromText ∧
      ((Loading.start ()).perform bracketed.step).2.store.resolveSignature
          ⟨⟨"Jane".toList, by decide⟩, ⟨"Jane@X".toList, by decide⟩, 1, 60⟩ =
        .error (.identity (.forbidden .name "Jane > Doe".toList)) := by
  have hfrom := FromText.empty.source (l := Loading.start ()) bracketed
  have hfind : ((Loading.start ()).perform bracketed.step).2.store.find? (some "Jane".toList)
      "Jane@X".toList = some ⟨some "Jane > Doe".toList, none, none, "jane@x".toList⟩ := by
    rw [find?_eq_search, toList_bracketed]
    decide
  exact ⟨hfrom, ((resolveSignature_of_fromText hfrom _).1 _).mpr
    ⟨"Jane > Doe".toList, ⟨_, hfind, rfl, by decide⟩, rfl⟩⟩

end Store

end Attribution
