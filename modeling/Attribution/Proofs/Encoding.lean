import Attribution.Proofs.Concatenation
import Attribution.Proofs.Signature.Grammar

/-!
# Text and its bytes

Documents and signatures come as text or as bytes. Bytes are decoded before anything else is done
with them, so it makes no difference in which form a text comes, and bytes of no text are refused.

- `Document.read_encode`, `Loading.addContents_encode`: documents in bytes.
- `Document.read_of_decode`, `Signature.read_of_decode`: the first error in bytes is what both
  complain of.
- `Utf8.text_and_bytes_read_alike`: documents and signatures in either form.
-/

namespace Attribution

variable {b : Bytes} {f : Utf8.DecodeFailure}

/-! ## Bytes of a text -/

theorem Document.read_encode (t : Text) : read (.bytes (Utf8.encode t)) = .ok (.ofText t) :=
  read_eq_ok_iff.mpr ⟨t, Datum.spells_bytes_iff.mpr rfl, rfl⟩

theorem Loading.addContents_encode {σ : Type} (t : Text) :
    (addContents (.bytes (Utf8.encode t)) : Load σ Nat) = addContents (.text t) := by
  rw [Document.addContents_eq_read, Document.read_encode, Document.addContents_eq_read]
  rfl

/-! ## Bytes of no text -/

/-- A document in which an error is found is refused with this error. -/
theorem Document.read_of_decode (h : Utf8.decode b = .error f) :
    read (.bytes b) = .error (.parse (.undecodableMailmap f)) := by
  rw [read, decode_of_error h]
  rfl

theorem Signature.read_of_decode (h : Utf8.decode b = .error f) :
    read (.bytes b) = .error (.parse (.undecodableSignature f)) := by
  simp only [read, h]

/-- Bytes are decoded unless the standard library does not take them for UTF-8. -/
theorem Utf8.exists_error_iff_not_isValidUTF8 :
    (∃ f, decode b = .error f) ↔ ¬ b.toByteArray.IsValidUTF8 := by
  rw [exists_error_iff, isValidUTF8_iff, not_exists]

/-- **It makes no difference whether a text comes as such or in UTF-8.** A document has the same
rules and reports, whether it is read or added by a loader, and a signature is the same or fails in
the same way. Documents in bytes are refused exactly if these are not UTF-8, and then a signature is
refused as well, both for the first error in the bytes. -/
theorem Utf8.text_and_bytes_read_alike :
    (∀ t : Text, (encode t).toByteArray = t.utf8Encode ∧
      Document.read (.text t) = .ok ⟨Document.rules t, Document.complaints t, t.lines.length⟩ ∧
      Document.read (.bytes (encode t)) = Document.read (.text t) ∧
      (∀ {σ : Type}, (Loading.addContents (.bytes (encode t)) : Load σ Nat) =
        Loading.addContents (.text t)) ∧
      Signature.read (.bytes (encode t)) = Signature.read (.text t)) ∧
    ∀ b : Bytes,
      ((∃ e, Document.read (.bytes b) = .error e) ↔ ¬ b.toByteArray.IsValidUTF8) ∧
      ((∃ f : DecodeFailure, f.IsFoundIn b ∧
          Document.read (.bytes b) = .error (.parse (.undecodableMailmap f)) ∧
          Signature.read (.bytes b) = .error (.parse (.undecodableSignature f))) ↔
        ¬ b.toByteArray.IsValidUTF8) := by
  refine ⟨fun t => ⟨toByteArray_encode t, rfl, Document.read_encode t,
    Loading.addContents_encode t, Signature.read_encode t⟩, fun b => ?_⟩
  have hrefused : ¬ b.toByteArray.IsValidUTF8 → ∃ f : DecodeFailure, f.IsFoundIn b ∧
      Document.read (.bytes b) = .error (.parse (.undecodableMailmap f)) ∧
      Signature.read (.bytes b) = .error (.parse (.undecodableSignature f)) := by
    intro hbad
    obtain ⟨f, hf⟩ := exists_error_iff_not_isValidUTF8.mpr hbad
    exact ⟨f, isFoundIn_of_decode hf, Document.read_of_decode hf, Signature.read_of_decode hf⟩
  have hread : ∀ e, Document.read (.bytes b) = .error e → ¬ b.toByteArray.IsValidUTF8 := by
    intro e he hvalid
    obtain ⟨t, rfl⟩ := isValidUTF8_iff.mp hvalid
    rw [Document.read_encode] at he
    cases he
  constructor
  · refine ⟨fun ⟨e, he⟩ => hread e he, fun hbad => ?_⟩
    obtain ⟨f, -, hdocument, -⟩ := hrefused hbad
    exact ⟨_, hdocument⟩
  · exact ⟨fun ⟨f, _, hdocument, _⟩ => hread _ hdocument, hrefused⟩

-- half of a surrogate pair, on the second line
example : Document.read (.bytes [0x61, 10, 0xED, 0xA0, 0x80]) =
    .error (.parse (.undecodableMailmap ⟨2, 0xED, [], .continuationByte⟩)) := by cbv

end Attribution
