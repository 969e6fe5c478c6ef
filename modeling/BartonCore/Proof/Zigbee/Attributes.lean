import BartonCore.Construction.Zigbee.Attributes

namespace Barton.Attributes
open LittleEndian

section Numbers

theorem pow_bytes (index : Nat) : 2 ^ (index * 8) = 256 ^ index := by rw [Nat.mul_comm, Nat.pow_mul]

/-- A byte that is added above the bytes before it does not carry. -/
theorem toNat_addByte {value : UInt64} (byte : UInt8) {index : Nat} (small : index < 8)
    (bounded : value.toNat < 256 ^ index) :
    (value + (byte.toUInt64 <<< UInt64.ofNat (index * 8))).toNat = value.toNat + 256 ^ index * byte.toNat ∧
      value.toNat + 256 ^ index * byte.toNat < 256 ^ (index + 1) := by
  have place : (UInt64.ofNat (index * 8)).toNat % 64 = index * 8 := by
    rw [UInt64.toNat_ofNat']
    omega
  have carried : value.toNat + 256 ^ index * byte.toNat < 256 ^ (index + 1) := by
    have wide : 256 ^ index * (byte.toNat + 1) ≤ 256 ^ index * 256 := Nat.mul_le_mul_left _ byte.toNat_lt
    rw [Nat.mul_add, Nat.mul_one] at wide
    rw [Nat.pow_succ]
    omega
  have limit : 256 ^ (index + 1) ≤ 2 ^ 64 :=
    (Nat.pow_le_pow_right (by decide) (show index + 1 ≤ 8 from small)).trans_eq (by norm_num)
  refine ⟨?_, carried⟩
  rw [UInt64.toNat_add, UInt64.toNat_shiftLeft, UInt8.toNat_toUInt64, place, Nat.shiftLeft_eq, pow_bytes,
    Nat.mul_comm byte.toNat, Nat.add_mod_mod, Nat.mod_eq_of_lt (carried.trans_le limit)]

theorem addBytes_decode {data : List UInt8} {value : UInt64} {index count : Nat}
    (inside : index + count ≤ data.length) (small : index + count ≤ 8) (bounded : value.toNat < 256 ^ index) :
    ∃ sum, addBytes data value index count = some sum ∧
      sum.toNat = value.toNat + 256 ^ index * decode ((data.drop index).take count) := by
  induction count generalizing value index with
  | zero => exact ⟨value, rfl, by rw [List.take_zero]; rfl⟩
  | succ count ih =>
      have present : index < data.length := by omega
      obtain ⟨added, carried⟩ := toNat_addByte data[index] (show index < 8 by omega) bounded
      rw [← added] at carried
      obtain ⟨sum, looped, value⟩ := ih (by omega) (by omega) carried
      refine ⟨sum, ?_, ?_⟩
      · rw [addBytes, List.getElem?_eq_getElem present, Option.bind_some, looped]
      · rw [value, added, List.drop_eq_getElem_cons present, List.take_succ_cons, decode_cons, Nat.pow_succ]
        ring

theorem decode_lt_limit {data : List UInt8} (small : data.length ≤ 8) : decode data < 2 ^ 64 := calc
  decode data < 256 ^ data.length := decode_lt data
  _ ≤ 256 ^ 8 := Nat.pow_le_pow_right (by decide) small
  _ = 2 ^ 64 := by norm_num

/-- The value of an attribute with 1 to 8 bytes is read from them. -/
theorem readNumberData_eq {entry : ZhalAttributeData} (received : entry.dataLen.toNat = entry.data.length) :
    readNumberData entry = some (if 1 ≤ entry.data.length ∧ entry.data.length ≤ 8 then
      (UInt64.ofNat (decode entry.data), true) else (0, false)) := by
  have size : (0 < entry.dataLen ∧ entry.dataLen ≤ 8) ↔ 1 ≤ entry.data.length ∧ entry.data.length ≤ 8 := by
    rw [← received]
    exact Iff.rfl
  rw [readNumberData]
  by_cases fits : 0 < entry.dataLen ∧ entry.dataLen ≤ 8
  · have inside : 0 + entry.dataLen.toNat ≤ entry.data.length := by rw [Nat.zero_add, received]
    have small : 0 + entry.dataLen.toNat ≤ 8 := by
      rw [Nat.zero_add, received]
      exact (size.mp fits).2
    have bounded : (0 : UInt64).toNat < 256 ^ 0 := by decide
    obtain ⟨sum, looped, value⟩ := addBytes_decode inside small bounded
    have whole : sum = UInt64.ofNat (decode entry.data) := by
      rw [List.drop_zero, received, List.take_length] at value
      rw [← UInt64.ofNat_toNat (x := sum), value]
      congr 1
      simp
    rw [if_pos fits, if_pos (size.mp fits), looped, whole, Option.map_some]
  · rw [if_neg fits, if_neg fun other => fits (size.mpr other)]

theorem mapM_of_forall {Item Value : Type} {read : Item → Option Value} {value : Item → Value} {items : List Item}
    (each : ∀ item ∈ items, read item = some (value item)) : items.mapM read = some (items.map value) := by
  induction items with
  | nil => rfl
  | cons item items ih =>
      rw [List.mapM_cons, each item List.mem_cons_self,
        ih fun other member => each other (List.mem_cons_of_mem _ member)]
      rfl

end Numbers

section Writes

theorem byte_at {value : UInt64} {index : Nat} (small : index < 8) :
    ((value >>> UInt64.ofNat (8 * index)) &&& 0xff).toUInt8 = UInt8.ofNat (value.toNat / 256 ^ index) := by
  have place : (UInt64.ofNat (8 * index)).toNat % 64 = 8 * index := by
    rw [UInt64.toNat_ofNat']
    omega
  have mask : (0xff : UInt64).toNat = 2 ^ 8 - 1 := rfl
  rw [← UInt8.toNat_inj, UInt64.toNat_toUInt8, UInt64.toNat_and, UInt64.toNat_shiftRight, place, mask,
    Nat.and_two_pow_sub_one_eq_mod, Nat.shiftRight_eq_div_pow, Nat.pow_mul, Nat.mod_mod, UInt8.toNat_ofNat']

theorem numberBytes_eq {value : UInt64} {index count : Nat} (small : index + count ≤ 8) :
    numberBytes value index count = some (encode count (value.toNat / 256 ^ index)) := by
  induction count generalizing index with
  | zero => rfl
  | succ count ih =>
      have inside : index < 8 := by omega
      rw [numberBytes, if_pos (by omega), ih (by omega), Option.map_some, byte_at inside, encode,
        Nat.div_div_eq_div_mul, Nat.pow_succ]

theorem writeNumberData_eq (attributeId : UInt16) (attributeType : UInt8) (value : UInt64) {numBytes : UInt8}
    (small : numBytes.toNat ≤ 8) :
    writeNumberData attributeId attributeType value numBytes =
      some ⟨attributeId, attributeType, encode numBytes.toNat value.toNat, numBytes.toUInt16⟩ := by
  rw [writeNumberData, numberBytes_eq (by omega), Nat.pow_zero, Nat.div_one, Option.map_some]

end Writes

section Claims

/-- The number that is read for an attribute is the value of its 1 to 8 bytes. -/
def NumberRead (entry : ZhalAttributeData) (value : UInt64) (success : Bool) : Prop :=
  (success = true ↔ 1 ≤ entry.data.length ∧ entry.data.length ≤ 8) ∧
    (success = true → value.toNat = decode entry.data)

variable (zhal : Zhal) (target : Target)

/-- Only received bytes are read, and every attribute is read on its own unless the whole read fails. -/
def NumbersRead (attributeIds : List UInt16) (readSuccesses : List Bool) : Prop :=
  ∃ numbers, readNumbers zhal target attributeIds readSuccesses = some numbers ∧
    numbers.result = (attributesRead zhal target attributeIds).result ∧
    (numbers.result = 0 → numbers.values.length = attributeIds.length ∧
      numbers.readSuccesses.length = attributeIds.length ∧
      ∀ (index : Nat) entry value success,
        (attributesRead zhal target attributeIds).attributeData[index]? = some entry →
        numbers.values[index]? = some value → numbers.readSuccesses[index]? = some success →
        NumberRead entry value success)

/-- The read of one number does not depend on the flag before the call. -/
def SingleRead (attributeId : UInt16) (readSuccess : Bool) : Prop :=
  let response := attributesRead zhal target [attributeId]
  let data := (getElem response.attributeData 0 Nat.one_pos).data
  ∃ result value, zigbeeSubsystemReadNumber zhal target attributeId readSuccess = some (result, [value]) ∧
    (result = 0 ↔ response.result = 0 ∧ 1 ≤ data.length ∧ data.length ≤ 8) ∧ (result = 0 → value.toNat = decode data)

/-- Only received bytes are read, and the announced bytes are the value if the read succeeds. -/
def StringRead (attributeId : UInt16) : Prop :=
  ∃ text, readString zhal target attributeId = some text ∧
    (text.result = 0 → ∃ length rest,
      (getElem (attributesRead zhal target [attributeId]).attributeData 0 Nat.one_pos).data = length :: rest ∧
        length.toNat ≤ rest.length ∧ text.value = some (rest.take length.toNat ++ [0]))

/-- A read that gets some data gets at least as many bytes as the data announces. -/
def Announced (attributeId : UInt16) : Prop :=
  target.toServer = true → (attributesRead zhal target [attributeId]).result = 0 → ∀ length rest,
    (getElem (attributesRead zhal target [attributeId]).attributeData 0 Nat.one_pos).data = length :: rest →
      length.toNat ≤ rest.length

/-- What is written is read back as the low bytes of the value, and what is read is written as it was received. -/
structure Inverse (attributeId : UInt16) (attributeType : UInt8) : Prop where
  read_written : ∀ (value : UInt64) (numBytes : UInt8), 1 ≤ numBytes.toNat → numBytes.toNat ≤ 8 →
    ((writeNumberData attributeId attributeType value numBytes).bind readNumberData) =
      some (UInt64.ofNat (value.toNat % 256 ^ numBytes.toNat), true)
  written_read : ∀ (entry : ZhalAttributeData) (value : UInt64), entry.dataLen.toNat = entry.data.length →
    readNumberData entry = some (value, true) →
    (writeNumberData attributeId attributeType value entry.dataLen.toUInt8).map ZhalAttributeData.data =
      some entry.data

theorem numbersRead (attributeIds : List UInt16) (readSuccesses : List Bool) :
    NumbersRead zhal target attributeIds readSuccesses := by
  rw [NumbersRead, readNumbers]
  generalize attributesRead zhal target attributeIds = response
  by_cases served : response.result = 0
  · have each := mapM_of_forall fun entry member => readNumberData_eq (response.received entry member)
    rw [if_pos served, each, Option.map_some]
    refine ⟨_, rfl, rfl, fun _ => ⟨?_, ?_, ?_⟩⟩
    · rw [List.length_map, List.length_map, Vector.length_toList]
    · rw [List.length_map, List.length_map, Vector.length_toList]
    · intro index entry value success received valued flagged
      rw [← Vector.getElem?_toList] at received
      rw [List.getElem?_map, List.getElem?_map, received, Option.map_some, Option.map_some, Option.some_inj] at valued
      rw [List.getElem?_map, List.getElem?_map, received, Option.map_some, Option.map_some, Option.some_inj] at flagged
      subst valued flagged
      by_cases fits : 1 ≤ entry.data.length ∧ entry.data.length ≤ 8
      · rw [if_pos fits]
        refine ⟨iff_of_true rfl fits, fun _ => ?_⟩
        exact UInt64.toNat_ofNat_of_lt' (decode_lt_limit fits.2)
      · rw [if_neg fits]
        exact ⟨iff_of_false Bool.false_ne_true fits, fun read => absurd read Bool.false_ne_true⟩
  · rw [if_neg served]
    exact ⟨_, rfl, rfl, fun same => absurd same served⟩

theorem toList_single {Item : Type} (items : Vector Item 1) : items.toList = [items[0]] := by
  match items with
  | ⟨⟨[item]⟩, _⟩ => rfl

theorem singleRead (attributeId : UInt16) (readSuccess : Bool) : SingleRead zhal target attributeId readSuccess := by
  rw [SingleRead, zigbeeSubsystemReadNumber, readNumbers]
  have received := (attributesRead zhal target [attributeId]).received
    (attributesRead zhal target [attributeId]).attributeData[0] (Vector.mem_toList_iff.mpr (Vector.getElem_mem _))
  generalize attributesRead zhal target [attributeId] = response at received
  by_cases served : response.result = 0
  · rw [if_pos served, toList_single response.attributeData, List.mapM_cons, List.mapM_nil,
      readNumberData_eq received]
    by_cases fits : 1 ≤ response.attributeData[0].data.length ∧ response.attributeData[0].data.length ≤ 8
    · rw [if_pos fits]
      refine ⟨0, _, congrArg some (Prod.ext (if_pos ⟨served, rfl⟩) rfl), iff_of_true rfl ⟨served, fits⟩, fun _ => ?_⟩
      exact UInt64.toNat_ofNat_of_lt' (decode_lt_limit fits.2)
    · rw [if_neg fits]
      refine ⟨1, 0, congrArg some (Prod.ext (if_neg ?_) rfl), iff_of_false (by decide) fun both => fits both.2, ?_⟩
      · rintro ⟨_, flagged⟩
        cases flagged
      · exact fun same => absurd same (by decide)
  · rw [if_neg served]
    refine ⟨1, 0, congrArg some (Prod.ext (if_neg fun both => served both.1) rfl), ?_, fun same => ?_⟩
    · exact iff_of_false (by decide) fun both => served both.1
    · exact absurd same (by decide)

theorem StringResult.failed (wanted : StringResult → Prop) :
    ∃ text : StringResult, some ⟨-1, none⟩ = some text ∧ (text.result = 0 → wanted text) :=
  ⟨_, rfl, fun same => absurd same (by decide)⟩

theorem stringRead_iff (attributeId : UInt16) :
    StringRead zhal target attributeId ↔ Announced zhal target attributeId := by
  rw [StringRead, Announced, readString]
  have received := (attributesRead zhal target [attributeId]).received
    (attributesRead zhal target [attributeId]).attributeData[0] (Vector.mem_toList_iff.mpr (Vector.getElem_mem _))
  generalize attributesRead zhal target [attributeId] = response at received
  cases server : target.toServer with
  | false => exact iff_of_true (StringResult.failed _) fun same => absurd same Bool.false_ne_true
  | true =>
      rw [if_pos rfl]
      dsimp only
      by_cases served : response.result = 0
      · cases content : response.attributeData[0].data with
        | nil =>
            rw [content] at received
            rw [if_neg fun both => absurd (UInt16.lt_iff_toNat_lt.mp both.2) (by rw [received]; decide)]
            exact iff_of_true (StringResult.failed _) fun _ _ length rest same => by cases same
        | cons length rest =>
            rw [content] at received
            have some_data : (0 : UInt16) < response.attributeData[0].dataLen := by
              rw [UInt16.lt_iff_toNat_lt, received]
              exact Nat.succ_pos _
            rw [if_pos ⟨served, some_data⟩, List.getElem?_cons_zero, Option.bind_some, copied]
            by_cases fits : length.toNat ≤ rest.length
            · rw [if_pos (by rw [List.length_cons]; omega), Option.map_some, List.drop_one, List.tail_cons]
              refine iff_of_true ⟨_, rfl, fun _ => ⟨length, rest, rfl, fits, rfl⟩⟩ ?_
              intro _ _ first others same
              cases same
              exact fits
            · rw [if_neg (by rw [List.length_cons]; omega), Option.map_none]
              refine iff_of_false ?_ fun announced => fits (announced rfl served length rest rfl)
              rintro ⟨text, same, _⟩
              cases same
      · rw [if_neg fun both => served both.1]
        exact iff_of_true (StringResult.failed _) fun _ same => absurd same served

theorem inverse (attributeId : UInt16) (attributeType : UInt8) : Inverse attributeId attributeType := by
  constructor
  · intro value numBytes some_byte small
    have length : (encode numBytes.toNat value.toNat).length = numBytes.toNat := encode_length _ _
    rw [writeNumberData_eq attributeId attributeType value small, Option.bind_some, readNumberData_eq (by
      rw [length, UInt8.toNat_toUInt16])]
    dsimp only
    rw [length, if_pos ⟨some_byte, small⟩, decode_encode]
  · intro entry value received read
    rw [readNumberData_eq received] at read
    by_cases fits : 1 ≤ entry.data.length ∧ entry.data.length ≤ 8
    · rw [if_pos fits, Option.some_inj, Prod.mk.injEq] at read
      have size : entry.dataLen.toUInt8.toNat = entry.data.length := by
        rw [UInt16.toNat_toUInt8, received, Nat.mod_eq_of_lt (by omega)]
      rw [writeNumberData_eq attributeId attributeType value (by rw [size]; exact fits.2), ← read.1, size,
        UInt64.toNat_ofNat_of_lt' (decode_lt_limit fits.2), encode_decode, Option.map_some]
    · rw [if_neg fits] at read
      cases read

/-- Numbers are read as they were written, and the read of a string stays within the received data exactly if the data
is as long as it announces. -/
theorem attributeReads_iff :
    (∀ attributeId, StringRead zhal target attributeId ↔ Announced zhal target attributeId) ∧
      (∀ attributeIds readSuccesses, NumbersRead zhal target attributeIds readSuccesses) ∧
      (∀ attributeId readSuccess, SingleRead zhal target attributeId readSuccess) ∧
      ∀ attributeId attributeType, Inverse attributeId attributeType :=
  ⟨stringRead_iff zhal target, numbersRead zhal target, singleRead zhal target, inverse⟩

end Claims

section Counterexample

/-- This device sends a text of three bytes for every attribute. -/
def textResponse (count : Nat) : Response count where
  result := 0
  attributeData := Vector.replicate count ⟨0, 66, [3, 97, 98, 99], 4⟩
  received entry member := by
    rw [Vector.toList_replicate] at member
    rw [List.eq_of_mem_replicate member]
    rfl

def textZhal : Zhal where
  zhalAttributesRead _ _ _ _ attributeIds := textResponse attributeIds.length
  zhalAttributesReadMfgSpecific _ _ _ _ _ attributeIds := textResponse attributeIds.length
  zhalAttributesWrite _ _ _ _ _ := 0
  zhalAttributesWriteMfgSpecific _ _ _ _ _ _ := 0

/-- The text is read, and as a number it has four bytes. -/
theorem attributeReads_iff_text : StringRead textZhal ⟨0, 1, 0, false, 0xFFFF, true⟩ 5 ∧
    SingleRead textZhal ⟨0, 1, 0, false, 0xFFFF, true⟩ 5 false := by
  obtain ⟨texts, _, single, _⟩ := attributeReads_iff textZhal ⟨0, 1, 0, false, 0xFFFF, true⟩
  refine ⟨(texts 5).mpr ?_, single 5 false⟩
  intro _ _ length rest same
  cases same
  decide

/-- This device announces five bytes for every attribute and sends none of them. -/
def shortResponse (count : Nat) : Response count where
  result := 0
  attributeData := Vector.replicate count ⟨0, 66, [5], 1⟩
  received entry member := by
    rw [Vector.toList_replicate] at member
    rw [List.eq_of_mem_replicate member]
    rfl

def shortZhal : Zhal where
  zhalAttributesRead _ _ _ _ attributeIds := shortResponse attributeIds.length
  zhalAttributesReadMfgSpecific _ _ _ _ _ attributeIds := shortResponse attributeIds.length
  zhalAttributesWrite _ _ _ _ _ := 0
  zhalAttributesWriteMfgSpecific _ _ _ _ _ _ := 0

theorem not_attributeReads :
    ¬ ∀ (zhal : Zhal) (target : Target), (∀ attributeId, StringRead zhal target attributeId) ∧
      (∀ attributeIds readSuccesses, NumbersRead zhal target attributeIds readSuccesses) ∧
      (∀ attributeId readSuccess, SingleRead zhal target attributeId readSuccess) ∧
      ∀ attributeId attributeType, Inverse attributeId attributeType := by
  intro always
  obtain ⟨text, read, _⟩ := (always shortZhal ⟨0, 1, 0, false, 0xFFFF, true⟩).1 5
  have undefined : readString shortZhal ⟨0, 1, 0, false, 0xFFFF, true⟩ 5 = none := rfl
  rw [undefined] at read
  cases read

end Counterexample
end Barton.Attributes
