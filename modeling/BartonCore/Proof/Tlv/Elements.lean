import BartonCore.Proof.Tlv.Numbers
import BartonCore.Proof.Tlv.Text

namespace Barton.Tlv
open Parsing
open Rounding (toDoubleInt toDoubleInt_eq toDoubleInt_nonneg)

section Heads

/-- The element type is in the low five bits of the control byte and the tag form is in the others. -/
theorem control_bits : ∀ elementType < 32,
    (tagAnonymous ||| UInt8.ofNat elementType) &&& 0x1f = UInt8.ofNat elementType ∧
    (tagAnonymous ||| UInt8.ofNat elementType) &&& 0xe0 = 0 ∧
    (tagContext ||| UInt8.ofNat elementType) &&& 0x1f = UInt8.ofNat elementType ∧
    (tagContext ||| UInt8.ofNat elementType) &&& 0xe0 = 0x20 := by
  decide

theorem control_split (tag : Option ℤ) {elementType : UInt8} (small : elementType.toNat < 32) :
    control tag elementType &&& 0x1f = elementType ∧
      control tag elementType &&& 0xe0 = if tag.isNone then 0 else 0x20 := by
  have bits := control_bits elementType.toNat small
  rw [UInt8.ofNat_toNat] at bits
  cases tag with
  | none => exact ⟨bits.1, bits.2.1⟩
  | some number => exact ⟨bits.2.2.1, bits.2.2.2⟩

/-- A context tag is one byte. -/
def ByteTag (tag : Option ℤ) : Prop := ∀ number ∈ tag, 0 ≤ number ∧ number < 256

theorem byteTag_none : ByteTag none := by
  intro number member
  simp at member

theorem byteTag_some {number : ℤ} (above : 0 ≤ number) (below : number < 256) : ByteTag (some number) := by
  intro other member
  rw [Option.mem_some_iff] at member
  subst member
  exact ⟨above, below⟩

theorem writeByte_eq {number : ℤ} (above : 0 ≤ number) (below : number < 256) :
    ∃ byte : UInt8, writeByte number = [byte] ∧ (byte.toNat : ℤ) = number := by
  refine ⟨⟨(BitVec.ofInt 32 number).setWidth 8⟩, rfl, ?_⟩
  change (((BitVec.ofInt 32 number).setWidth 8).toNat : ℤ) = number
  rw [BitVec.toNat_setWidth, BitVec.toNat_ofInt]
  omega

theorem reads_readTag {tag : Option ℤ} (valid : ByteTag tag) :
    Reads (readTag (if tag.isNone then 0 else 0x20)) ((tag.map writeByte).getD []) tag := by
  cases tag with
  | none => exact Reads.pure none
  | some number =>
      obtain ⟨above, below⟩ := valid number rfl
      obtain ⟨byte, written, same⟩ := writeByte_eq above below
      have tagged := (reads_readByte byte).map fun byte => some (byte.toNat : ℤ)
      rw [same, ← written] at tagged
      exact tagged

/-- The reader takes the control byte and the tag, then the body of the element. -/
theorem reads_head {tag : Option ℤ} {elementType : UInt8} {fuel : Nat} {body : List UInt8}
    {element : Element} (valid : ByteTag tag) (small : elementType.toNat < 32)
    (reads : Reads (readBody (readContainer fuel) tag elementType) body element) :
    Reads (readElement (fuel + 1)) (writeHead tag elementType ++ body) element := by
  have byte := reads_readByte (control tag elementType)
  rw [writeHead, List.cons_append, ← List.singleton_append, readElement]
  apply byte.bind
  obtain ⟨type, form⟩ := control_split tag small
  rw [type, form]
  exact (reads_readTag valid).bind reads

end Heads

section Bodies
variable (container : Read (List Element)) (tag : Option ℤ)

/-- The unsigned number that the reader returns for a size class. -/
def unsignedResult (size : Nat) (value : ℤ) : ℤ :=
  if size = 3 then toDoubleInt (value % 2 ^ 64) else value % 2 ^ (8 * 2 ^ size)

theorem reads_unsigned {size : Nat} (bound : size ≤ 3) (value : ℤ) :
    Reads (readBody container tag (typeUnsignedInt + UInt8.ofNat size))
      (writeUint (.finite value) (2 ^ size))
      (.item tag (.whole (unsignedResult size value)) (typeUnsignedInt + UInt8.ofNat size)) := by
  interval_cases size
  · exact (reads_readUint value (by decide)).map fun value => Element.item tag (.whole value) 4
  · exact (reads_readUint value (by decide)).map fun value => Element.item tag (.whole value) 5
  · exact (reads_readUint value (by decide)).map fun value => Element.item tag (.whole value) 6
  · exact (reads_readUint_wide value).map fun value => Element.item tag (.whole value) 7

theorem reads_signed {size : Nat} (bound : size ≤ 3) {value : ℤ}
    (fits : size < 3 → -2 ^ (2 ^ size * 8 - 1) ≤ value ∧ value < 2 ^ (2 ^ size * 8 - 1))
    (above : -2 ^ 53 < value) (below : value < 2 ^ 53) :
    Reads (readBody container tag (typeSignedInt + UInt8.ofNat size))
      (writeUint (.finite value) (2 ^ size))
      (.item tag (.whole value) (typeSignedInt + UInt8.ofNat size)) := by
  have small (narrow : size < 3) : Reads (readInt (2 ^ size)) (writeUint (.finite value) (2 ^ size)) value := by
    apply reads_readInt value (Nat.pow_pos (by decide))
    · interval_cases size <;> decide
    · exact (fits narrow).1
    · exact (fits narrow).2
  interval_cases size
  · exact (small (by decide)).map fun value => Element.item tag (.whole value) 0
  · exact (small (by decide)).map fun value => Element.item tag (.whole value) 1
  · exact (small (by decide)).map fun value => Element.item tag (.whole value) 2
  · exact (reads_readInt_wide value above below).map fun value => Element.item tag (.whole value) 3

/-- The length bytes of a string return its length. -/
def lengthBytes (length : Nat) : List UInt8 :=
  if lengthClass length = 0 then writeByte length
  else if lengthClass length = 1 then writeUint (.finite length) 2
  else writeUint (.finite length) 4

theorem lengthClass_le (length : Nat) : lengthClass length ≤ 2 := by
  unfold lengthClass
  split
  · decide
  · split <;> decide

theorem reads_readLength {length : Nat} (short : length < 2 ^ 32) :
    Reads (readLength (lengthClass length)) (lengthBytes length) length := by
  by_cases byte : length ≤ 0xff
  · have size : lengthClass length = 0 := if_pos byte
    obtain ⟨first, written, same⟩ := writeByte_eq (Int.natCast_nonneg length) (by omega)
    have read := (reads_readByte first).map UInt8.toNat
    rw [lengthBytes, size, if_pos rfl, written, ← Int.ofNat.inj same]
    exact read
  · by_cases word : length ≤ 0xffff
    · have size : lengthClass length = 1 := by rw [lengthClass, if_neg byte, if_pos word]
      have read := (reads_readUint (length : ℤ) (show 2 ≤ 4 by decide)).map Int.toNat
      have same : Int.toNat ((length : ℤ) % 2 ^ (8 * 2)) = length := by omega
      rw [same] at read
      rw [lengthBytes, size, if_neg (by decide), if_pos rfl]
      exact read
    · have size : lengthClass length = 2 := by rw [lengthClass, if_neg byte, if_neg word]
      have read := (reads_readUint (length : ℤ) (show 4 ≤ 4 by decide)).map Int.toNat
      have same : Int.toNat ((length : ℤ) % 2 ^ (8 * 4)) = length := by omega
      rw [same] at read
      rw [lengthBytes, size, if_neg (by decide), if_neg (by decide)]
      exact read

/-- The reader takes the length of a string, then its bytes. -/
theorem reads_counted {content : List UInt8} (short : content.length < 2 ^ 32)
    (convert : List UInt8 → JsValue) (elementType : UInt8) :
    Reads (do
      let length ← readLength (lengthClass content.length)
      let bytes ← readBytes length
      return Element.item tag (convert bytes) elementType)
      (lengthBytes content.length ++ content) (.item tag (convert content) elementType) := by
  apply (reads_readLength short).bind
  exact (reads_readBytes content).map fun bytes => Element.item tag (convert bytes) elementType

theorem reads_text {content : List UInt8} (short : content.length < 2 ^ 32) :
    Reads (readBody container tag (typeUtf8String + UInt8.ofNat (lengthClass content.length)))
      (lengthBytes content.length ++ content)
      (.item tag (.string (Utf8.decode content))
        (typeUtf8String + UInt8.ofNat (lengthClass content.length))) := by
  have read := reads_counted tag short (fun bytes => .string (Utf8.decode bytes))
    (typeUtf8String + UInt8.ofNat (lengthClass content.length))
  have bound := lengthClass_le content.length
  generalize lengthClass content.length = size at *
  interval_cases size <;> exact read

theorem reads_octets {content : List UInt8} (short : content.length < 2 ^ 32) :
    Reads (readBody container tag (typeOctetString + UInt8.ofNat (lengthClass content.length)))
      (lengthBytes content.length ++ content)
      (.item tag (.bytes content) (typeOctetString + UInt8.ofNat (lengthClass content.length))) := by
  have read := reads_counted tag short JsValue.bytes
    (typeOctetString + UInt8.ofNat (lengthClass content.length))
  have bound := lengthClass_le content.length
  generalize lengthClass content.length = size at *
  interval_cases size <;> exact read

end Bodies
end Barton.Tlv
