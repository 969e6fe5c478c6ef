import BartonCore.Construction.Sbmd.Base64Tlv
import BartonCore.Proof.Tlv.Text

namespace Barton.Base64Tlv
open Tlv
open Tlv.Base64 (encodeBlock)

section Texts

/-- Three bytes take four characters. -/
theorem length_encode (bytes : List UInt8) : (Base64.encode bytes).length = 4 * ((bytes.length + 2) / 3) := by
  fun_induction Base64.encode bytes with
  | case1 => rfl
  | case2 b0 => simp [encodeBlock]
  | case3 b0 b1 => simp [encodeBlock]
  | case4 b0 b1 b2 rest ih =>
      rw [List.length_append, ih]
      change 4 + _ = 4 * ((rest.length + 3 + 2) / 3)
      omega

/-- The front of a text in groups of four characters encodes the front of the bytes. -/
theorem take_encode (bytes : List UInt8) (groups : Nat) :
    (Base64.encode bytes).take (4 * groups) = Base64.encode (bytes.take (3 * groups)) := by
  fun_induction Base64.encode bytes generalizing groups with
  | case1 => rw [List.take_nil, List.take_nil, Base64.encode]
  | case2 b0 =>
      cases groups with
      | zero => rfl
      | succ groups =>
          rw [List.take_of_length_le (show (encodeBlock b0 none none).length ≤ _ by change 4 ≤ _; omega),
            List.take_of_length_le (by simp; omega), Base64.encode]
  | case3 b0 b1 =>
      cases groups with
      | zero => rfl
      | succ groups =>
          rw [List.take_of_length_le (show (encodeBlock b0 (some b1) none).length ≤ _ by change 4 ≤ _; omega),
            List.take_of_length_le (by simp; omega), Base64.encode]
  | case4 b0 b1 b2 rest ih =>
      cases groups with
      | zero => rfl
      | succ groups =>
          have four : (encodeBlock b0 (some b1) (some b2)).length = 4 := rfl
          rw [show 4 * (groups + 1) = (encodeBlock b0 (some b1) (some b2)).length + 4 * groups by omega,
            List.take_length_add_append, ih, show 3 * (groups + 1) = 3 * groups + 3 by omega]
          rfl

end Texts

section Buffers
variable {Value : Type}

/-- A container that is resized to the written values holds exactly them. -/
theorem resize_overwrite (fill : Value) (written buffer : List Value) :
    resize written.length fill (overwrite written buffer) = written := by
  rw [resize, overwrite, List.append_assoc, List.take_left]

end Buffers

variable {Element : Type} {sdk : MatterSdk Element} {encoding : Element → List UInt8}

/-- The conversions are correct on lengths of 16 bits, and the copy of an element fails for want of room exactly when
its encoding does not fit. -/
structure MatterSdk.Correct (sdk : MatterSdk Element) (encoding : Element → List UInt8) : Prop where
  decodes : ∀ bytes, (Base64.encode bytes).length < 2 ^ 16 →
    sdk.base64Decode (Base64.encode bytes) = (UInt16.ofNat bytes.length, bytes)
  encodes : ∀ bytes, (Base64.encode bytes).length < 2 ^ 16 →
    sdk.base64Encode bytes = (UInt16.ofNat (Base64.encode bytes).length, Base64.encode bytes)
  copies : ∀ size reader, size < 2 ^ 32 → (encoding reader).length ≤ size →
    sdk.copyElement size reader = .ok (encoding reader)
  refuses : ∀ size reader, size < 2 ^ 32 → size < (encoding reader).length →
    sdk.copyElement size reader = .error .bufferTooSmall ∨ sdk.copyElement size reader = .error .noMemory

section Decoding
variable (correct : sdk.Correct encoding)
include correct

/-- The text of a payload is decoded as far as 16 bits of its length reach. -/
theorem decodeBase64Tlv_encode (bytes : List UInt8) : decodeBase64Tlv sdk (Base64.encode bytes) =
    some (bytes.take (3 * ((Base64.encode bytes).length % 2 ^ 16 / 4))) := by
  have length := length_encode bytes
  unfold decodeBase64Tlv
  split
  · next empty =>
      have none : bytes = [] := List.length_eq_zero_iff.mp (by omega)
      subst none
      rfl
  · have groups : (UInt16.ofNat (Base64.encode bytes).length).toNat =
        4 * ((Base64.encode bytes).length % 2 ^ 16 / 4) := by
      rw [UInt16.toNat_ofNat']
      omega
    rw [groups, take_encode]
    generalize front : bytes.take (3 * ((Base64.encode bytes).length % 2 ^ 16 / 4)) = payload
    have short : payload.length ≤ 3 * ((Base64.encode bytes).length % 2 ^ 16 / 4) := by
      rw [← front]
      exact List.length_take_le _ _
    have small := length_encode payload
    rw [correct.decodes payload (by omega)]
    dsimp only
    have count : (UInt16.ofNat payload.length).toNat = payload.length := by
      rw [UInt16.toNat_ofNat']
      omega
    rw [if_neg, count, resize_overwrite]
    intro failed
    rw [failed] at count
    change 65535 = payload.length at count
    omega

/-- The decoder returns nothing or the complete payload exactly for texts of fewer than 65536 characters. -/
theorem decodeBase64Tlv_complete_iff (bytes : List UInt8) :
    (decodeBase64Tlv sdk (Base64.encode bytes) = none ∨ decodeBase64Tlv sdk (Base64.encode bytes) = some bytes) ↔
      (Base64.encode bytes).length < 2 ^ 16 := by
  have length := length_encode bytes
  rw [decodeBase64Tlv_encode correct]
  constructor
  · rintro (failed | complete)
    · cases failed
    · injection complete with complete
      have taken := congrArg List.length complete
      rw [List.length_take] at taken
      omega
  · intro short
    right
    rw [List.take_of_length_le (by omega)]

end Decoding

section Encoding
variable (correct : sdk.Correct encoding)
include correct

/-- An encoding of at most 32768 bytes has a text within the lengths of 16 bits. -/
theorem encodeCopied_eq {tlv : List UInt8} (small : tlv.length ≤ 32768) :
    encodeCopied sdk tlv = Base64.encode tlv := by
  have length := length_encode tlv
  unfold encodeCopied
  extract_lets tlvLen
  have count : tlvLen.toNat = tlv.length := by
    rw [UInt32.toNat_ofNat']
    omega
  split
  · next zero =>
      rw [zero] at count
      have none : tlv = [] := List.length_eq_zero_iff.mp count.symm
      subst none
      rfl
  · have narrow : tlvLen.toUInt16.toNat = tlv.length := by
      rw [UInt32.toNat_toUInt16, count]
      omega
    rw [narrow, List.take_length, correct.encodes tlv (by omega)]
    dsimp only
    have written : (UInt16.ofNat (Base64.encode tlv).length).toNat = (Base64.encode tlv).length := by
      rw [UInt16.toNat_ofNat']
      omega
    rw [written, resize_overwrite]

/-- The loop ends, and it succeeds exactly when the encoding fits into the largest buffer. -/
theorem encodeLoop_eq (reader : Element) {maxBufSize : Nat} (capped : maxBufSize ≤ 32768) (fuel bufSize : Nat)
    (positive : 0 < bufSize) (bound : bufSize ≤ maxBufSize) (enough : maxBufSize - bufSize < fuel) :
    encodeLoop sdk reader maxBufSize fuel bufSize =
      some (if (encoding reader).length ≤ maxBufSize then some (Base64.encode (encoding reader)) else none) := by
  induction fuel generalizing bufSize with
  | zero => omega
  | succ fuel ih =>
      have size : (UInt32.ofNat bufSize).toNat = bufSize := by
        rw [UInt32.toNat_ofNat']
        omega
      rw [encodeLoop, size]
      by_cases fits : (encoding reader).length ≤ bufSize
      · rw [correct.copies bufSize reader (by omega) fits]
        dsimp only
        rw [if_pos (by omega), encodeCopied_eq correct (by omega)]
      · have refused : ∃ error, (error = ChipError.bufferTooSmall ∨ error = .noMemory) ∧
            sdk.copyElement bufSize reader = .error error := by
          rcases correct.refuses bufSize reader (by omega) (by omega) with refused | refused
          · exact ⟨_, .inl rfl, refused⟩
          · exact ⟨_, .inr rfl, refused⟩
        obtain ⟨error, retryable, refused⟩ := refused
        rw [refused]
        dsimp only
        by_cases room : bufSize < maxBufSize
        · rw [if_pos ⟨retryable, room⟩]
          apply ih
          · split <;> omega
          · split <;> omega
          · split <;> omega
        · rw [if_neg (fun again => room again.2), if_neg (by omega)]

end Encoding

/-- The decoder is complete exactly for texts of fewer than 65536 characters. The encoder ends, succeeds exactly when
the encoding of the element fits, and returns a text that is decoded to the encoding. -/
theorem base64Tlv_bridge (correct : sdk.Correct encoding) :
    (∀ bytes, (decodeBase64Tlv sdk (Base64.encode bytes) = none ∨
        decodeBase64Tlv sdk (Base64.encode bytes) = some bytes) ↔
      (Base64.encode bytes).length < 2 ^ 16) ∧
    ∀ reader initialBufSize maxBufSize, 1 ≤ initialBufSize → initialBufSize ≤ maxBufSize → maxBufSize ≤ 32768 →
      ∃ result, encodeTlvElementToBase64 sdk reader initialBufSize maxBufSize = some result ∧
        (result.isSome = true ↔ (encoding reader).length ≤ maxBufSize) ∧
        ∀ text ∈ result, Base64.decode text = .ok (encoding reader) ∧
          decodeBase64Tlv sdk text = some (encoding reader) := by
  refine ⟨decodeBase64Tlv_complete_iff correct, ?_⟩
  intro reader initialBufSize maxBufSize positive bound capped
  refine ⟨_, encodeLoop_eq correct reader capped _ _ positive bound (by omega), ?_, ?_⟩
  · split
    · next fits => exact iff_of_true rfl fits
    · next large => exact iff_of_false Bool.false_ne_true large
  · intro text returned
    split at returned
    · next fits =>
        have same : Base64.encode (encoding reader) = text := Option.some.inj returned
        subst same
        have length := length_encode (encoding reader)
        refine ⟨Base64.decode_encode _, ?_⟩
        rw [decodeBase64Tlv_encode correct, List.take_of_length_le (by omega)]
    · cases returned

section Samples

/-- The sample SDK encodes an element by itself. -/
def sampleSdk : MatterSdk (List UInt8) where
  base64MaxDecodedLen length := length * 3 / 4
  base64EncodedLen length := (length + 2) / 3 * 4
  base64Decode text :=
    match Base64.decode text with
    | .ok bytes => (UInt16.ofNat bytes.length, bytes)
    | .error _ => (0xffff, [])
  base64Encode bytes := (UInt16.ofNat (Base64.encode bytes).length, Base64.encode bytes)
  copyElement size reader := if reader.length ≤ size then .ok reader else .error .bufferTooSmall

theorem sampleSdk_correct : sampleSdk.Correct id where
  decodes bytes _ := by
    change (match Base64.decode (Base64.encode bytes) with | .ok bytes => _ | .error _ => _) = _
    rw [Base64.decode_encode]
  encodes bytes _ := rfl
  copies size reader _ fits := if_pos fits
  refuses size reader _ large := .inl (if_neg (Nat.not_le_of_lt large))

theorem base64Tlv_bridge_sample : ∃ result,
    encodeTlvElementToBase64 sampleSdk [0x04, 0x2a] 1 256 = some result ∧
      (result.isSome = true ↔ (id [0x04, 0x2a] : List UInt8).length ≤ 256) ∧
      ∀ text ∈ result, Base64.decode text = .ok [0x04, 0x2a] ∧ decodeBase64Tlv sampleSdk text = some [0x04, 0x2a] :=
  (base64Tlv_bridge sampleSdk_correct).2 [0x04, 0x2a] 1 256 (by decide) (by decide) (by decide)

/-- The text of 49152 zero bytes has 65536 characters and is decoded to nothing left. -/
theorem not_base64Tlv_bridge : ¬∀ (sdk : MatterSdk (List UInt8)) (encoding : List UInt8 → List UInt8),
    sdk.Correct encoding → ∀ bytes,
      decodeBase64Tlv sdk (Base64.encode bytes) = none ∨ decodeBase64Tlv sdk (Base64.encode bytes) = some bytes := by
  intro claim
  have short := (decodeBase64Tlv_complete_iff sampleSdk_correct (List.replicate 49152 0)).mp
    (claim sampleSdk id sampleSdk_correct (List.replicate 49152 0))
  rw [length_encode, List.length_replicate] at short
  omega

end Samples
end Barton.Base64Tlv
