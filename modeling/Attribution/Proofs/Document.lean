import Attribution.Document
import Attribution.Proofs.Rule.Fields
import Attribution.Proofs.Text.Utf8

/-!
# Contents and their text

- `Datum.IsContents`: what the contents of a file are.
- `Datum.Spells`: the text that contents are, as text or as its UTF-8 bytes.
- `Document.decode_eq_ok_iff`: decoding finds exactly the text that is spelled.
-/

namespace Attribution

/-- What the contents of a file are: text or bytes. -/
inductive Datum.IsContents : Datum → Prop
  | text (t : Text) : IsContents (.text t)
  | bytes (b : Bytes) : IsContents (.bytes b)

/-- What contents spell: text spells itself, and what can be taken as bytes spells
the text that these bytes encode. -/
inductive Datum.Spells : Datum → Text → Prop
  | text (t : Text) : Spells (.text t) t
  | bytes {d : Datum} {t : Text} (h : d.toBytes = .ok (Utf8.encode t)) : Spells d t

theorem Datum.spells_text_iff {t u : Text} : (Datum.text t).Spells u ↔ u = t := by
  constructor
  · intro h
    cases h with
    | text => rfl
    | bytes h => cases h
  · rintro rfl
    exact .text u

theorem Datum.spells_bytes_iff {b : Bytes} {t : Text} :
    (Datum.bytes b).Spells t ↔ b = Utf8.encode t := by
  constructor
  · intro h
    cases h with
    | bytes h => exact Except.ok.inj h
  · rintro rfl
    exact .bytes rfl

namespace Document

theorem decode_bytes {d : Datum} (h : ∀ t, d ≠ .text t) :
    decode d = (d.toBytes.mapError .misuse >>= fun bytes =>
      (Utf8.decode bytes).mapError fun cause => .parse (.undecodableMailmap cause)) := by
  cases d with
  | text t => exact absurd rfl (h t)
  | _ => rfl

/-- **Decoding finds exactly the text that contents spell.** -/
theorem decode_eq_ok_iff {d : Datum} {t : Text} : decode d = .ok t ↔ d.Spells t := by
  constructor
  · intro h
    by_cases htext : ∃ t', d = .text t'
    · obtain ⟨t', rfl⟩ := htext
      cases h
      exact .text t
    · rw [decode_bytes fun t' ht => htext ⟨t', ht⟩, Except.bind_eq_ok_iff] at h
      obtain ⟨bytes, hbytes, h⟩ := h
      rw [Except.mapError_eq_ok_iff] at hbytes h
      exact .bytes (Utf8.decode_eq_ok_iff.mp h ▸ hbytes)
  · intro h
    cases h with
    | text => rfl
    | bytes h =>
      have hne : ∀ t', d ≠ .text t' := by
        rintro t' rfl
        cases h
      rw [decode_bytes hne, Except.bind_eq_ok_iff]
      exact ⟨_, Except.mapError_eq_ok_iff.mpr h,
        Except.mapError_eq_ok_iff.mpr (Utf8.decode_eq_ok_iff.mpr rfl)⟩

theorem decode_of_error {b : Bytes} {f : Utf8.DecodeFailure} (h : Utf8.decode b = .error f) :
    decode (.bytes b) = .error (.parse (.undecodableMailmap f)) := by
  show (Utf8.decode b).mapError _ = _
  rw [h]
  rfl

end Document

theorem Datum.IsContents.decode {d : Datum} (h : d.IsContents) :
    (∃ t, Document.decode d = .ok t) ∨
      ∃ cause, Document.decode d = .error (.parse (.undecodableMailmap cause)) := by
  cases h with
  | text t => exact .inl ⟨t, rfl⟩
  | bytes b =>
    cases hdecode : Utf8.decode b with
    | ok t =>
      have hspells : (Datum.bytes b).Spells t :=
        Datum.spells_bytes_iff.mpr (Utf8.decode_eq_ok_iff.mp hdecode)
      exact .inl ⟨t, Document.decode_eq_ok_iff.mpr hspells⟩
    | error f => exact .inr ⟨f, Document.decode_of_error hdecode⟩

end Attribution
