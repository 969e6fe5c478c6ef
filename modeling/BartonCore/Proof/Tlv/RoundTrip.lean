import BartonCore.Proof.Tlv.Elements

namespace Barton.Tlv
open Parsing
open Rounding (toDoubleInt toDoubleInt_eq toDoubleInt_nonneg)

/-- These values have a TLV encoding. The numbers are restricted by the parameter, and the keys are
the numerals below 256 in enumeration order. -/
inductive Encodable (allowed : ℤ → Prop) : JsValue → Prop where
  | null : Encodable allowed .null
  | boolean (value : Bool) : Encodable allowed (.boolean value)
  | whole {value : ℤ} (number : allowed value) : Encodable allowed (.whole value)
  | string {text : JsString} (short : (Utf8.encode text).length < 2 ^ 32) : Encodable allowed (.string text)
  | bytes {content : List UInt8} (short : content.length < 2 ^ 32) : Encodable allowed (.bytes content)
  | array {items : List JsValue} (each : ∀ item ∈ items, Encodable allowed item) :
      Encodable allowed (.array items)
  | object {properties : Properties} {tags : List Nat}
      (keys : properties.map Prod.fst = tags.map PropertyKey.index) (ascending : tags.Pairwise (· < ·))
      (small : ∀ tag ∈ tags, tag < 256) (each : ∀ property ∈ properties, Encodable allowed property.2) :
      Encodable allowed (.object properties)

/-- A number is natural and exact. -/
def Natural (value : ℤ) : Prop := 0 ≤ value ∧ value < 2 ^ 53

/-- A number of either sign is exact. -/
def Exact (value : ℤ) : Prop := -2 ^ 53 < value ∧ value < 2 ^ 53

section ReadBack

/-- The reader returns a number without a type as an unsigned number. -/
def readBackNumber (value : ℤ) : ℤ := if 0 ≤ value then value else toDoubleInt (value % 2 ^ 64)

mutual

/-- The reader returns this value for an encoded value. -/
def readBack : JsValue → JsValue
  | .number (.integral (.finite value)) => .whole (readBackNumber value)
  | .array items => .array (readBackItems items)
  | .object properties => .object (readBackProperties properties)
  | value => value

def readBackItems : List JsValue → List JsValue
  | [] => []
  | item :: rest => readBack item :: readBackItems rest

def readBackProperties : Properties → Properties
  | [] => []
  | (key, value) :: rest => (key, readBack value) :: readBackProperties rest

end

end ReadBack

section Objects

theorem parseInt_index : ∀ tag < 256, parseInt (PropertyKey.index tag).text = some (tag : ℤ) := by
  decide +kernel

theorem ofNumber_small {tag : Nat} (small : tag < 256) : PropertyKey.ofNumber tag = .index tag := by
  rw [PropertyKey.ofNumber, if_pos (by omega)]

/-- A larger index goes to the end of the properties. -/
theorem setProperty_last (properties : Properties) {tag : Nat} (value : JsValue)
    (smaller : ∀ property ∈ properties, ∃ other, property.1 = .index other ∧ other < tag) :
    setProperty (.index tag) value properties = properties ++ [(.index tag, value)] := by
  induction properties with
  | nil => rfl
  | cons property rest ih =>
      obtain ⟨key, held⟩ := property
      obtain ⟨other, same, below⟩ := smaller (key, held) List.mem_cons_self
      change key = .index other at same
      subst same
      have different : PropertyKey.index other ≠ .index tag := by
        intro equal
        injection equal
        omega
      have later : PropertyKey.before (.index tag) (.index other) = false := by
        simp only [PropertyKey.before, decide_eq_false_iff_not]
        omega
      rw [setProperty, if_neg different, later, if_neg (by decide),
        ih fun property member => smaller property (List.mem_cons_of_mem _ member)]
      rfl

end Objects

section
variable (toNumber : JsValue → JsNumber) {tag : Option ℤ} {type : Option String}

/-- An encoded value returns from the reader with its tag. -/
def Returns (tag : Option ℤ) (type : Option String) (value result : JsValue) : Prop :=
  ∃ bytes elementType, writeElement toNumber tag type value = .ok bytes ∧ bytes ≠ [] ∧
    ∀ fuel, bytes.length < fuel → Reads (readElement fuel) bytes (.item tag result elementType)

/-- An element with a body returns the value of its body. -/
theorem Returns.of_body {value result : JsValue}
    {elementType : UInt8} {body : List UInt8} (valid : ByteTag tag) (small : elementType.toNat < 32)
    (written : writeElement toNumber tag type value = .ok (writeHead tag elementType ++ body))
    (reads : ∀ fuel, body.length < fuel → Reads (readBody (readContainer fuel) tag elementType) body
      (.item tag result elementType)) : Returns toNumber tag type value result := by
  refine ⟨_, elementType, written, by simp [writeHead], ?_⟩
  intro fuel enough
  cases fuel with
  | zero => omega
  | succ fuel =>
      apply reads_head valid small
      apply reads
      rw [List.length_append] at enough
      have head : 0 < (writeHead tag elementType).length := by simp [writeHead]
      omega

/-- A container with these contents returns these elements. -/
def Contains (content : List UInt8) (elements : List Element) : Prop :=
  ∀ fuel, content.length + 1 < fuel →
    Reads (readContainer fuel) (content ++ [typeEndContainer]) elements

theorem reads_hasMore {Value : Type} {next : Bool → Read Value} {input : List UInt8} {value : Value}
    (nonempty : input ≠ []) (reads : Reads (next true) input value) :
    Reads (hasMore >>= next) input value := by
  intro reader rest inside starts
  obtain ⟨first, later, rfl⟩ := List.exists_cons_of_ne_nil nonempty
  have more := Cursor.offset_lt_of_remaining (starts.trans List.cons_append)
  change next (decide (reader.offset < reader.tokens.length)) reader = _
  rw [decide_eq_true more]
  exact reads reader rest inside starts

theorem reads_end (fuel : Nat) : Reads (readElement (fuel + 1)) [typeEndContainer] Element.finish := by
  have body : Reads (readBody (readContainer fuel) none typeEndContainer) [] Element.finish :=
    Reads.pure Element.finish
  exact reads_head byteTag_none (by decide) body

theorem Contains.nil : Contains [] [] := by
  intro fuel enough
  obtain ⟨rest, rfl⟩ : ∃ rest, fuel = rest + 2 := ⟨fuel - 2, by
    change 1 < fuel at enough
    omega⟩
  rw [readContainer]
  apply reads_hasMore (by simp)
  exact (reads_end rest).bind (Reads.pure ([] : List Element))

theorem Contains.cons {bytes content : List UInt8} {tag : Option ℤ} {value : JsValue}
    {elementType : UInt8} {elements : List Element} (nonempty : bytes ≠ [])
    (reads : ∀ fuel, bytes.length < fuel → Reads (readElement fuel) bytes (.item tag value elementType))
    (contains : Contains content elements) :
    Contains (bytes ++ content) (.item tag value elementType :: elements) := by
  intro fuel enough
  have size := List.length_pos_iff.mpr nonempty
  rw [List.length_append] at enough
  obtain ⟨rest, rfl⟩ : ∃ rest, fuel = rest + 1 := ⟨fuel - 1, by omega⟩
  rw [readContainer, List.append_assoc]
  apply reads_hasMore (by simp [nonempty])
  apply (reads rest (by omega)).bind
  exact (contains rest (by omega)).map fun elements => Element.item tag value elementType :: elements

theorem writeElements_return (items : List JsValue)
    (each : ∀ item ∈ items, Returns toNumber none none item (readBack item)) :
    ∃ content elements, writeElements toNumber items = .ok content ∧ Contains content elements ∧
      arrayItems elements = readBackItems items := by
  induction items with
  | nil => exact ⟨[], [], rfl, Contains.nil, rfl⟩
  | cons item rest ih =>
      obtain ⟨content, elements, written, contains, same⟩ := ih fun item member =>
        each item (List.mem_cons_of_mem _ member)
      obtain ⟨bytes, elementType, first, nonempty, reads⟩ := each item List.mem_cons_self
      refine ⟨bytes ++ content, _, ?_, contains.cons nonempty reads, ?_⟩
      · rw [writeElements, first, written]
        rfl
      · rw [readBackItems, ← same]
        rfl

theorem writeProperties_return (properties : Properties) (tags : List Nat)
    (keys : properties.map Prod.fst = tags.map PropertyKey.index) (ascending : tags.Pairwise (· < ·))
    (small : ∀ tag ∈ tags, tag < 256)
    (each : ∀ property ∈ properties, ∀ tag, ByteTag tag →
      Returns toNumber tag none property.2 (readBack property.2)) :
    ∃ content elements, writeProperties toNumber properties = .ok content ∧ Contains content elements ∧
      ∀ start : Properties, (∀ property ∈ start, ∃ other, property.1 = .index other ∧ ∀ tag ∈ tags, other < tag) →
        elements.foldl addElement start = start ++ readBackProperties properties := by
  induction properties generalizing tags with
  | nil => exact ⟨[], [], rfl, Contains.nil, fun start _ => (List.append_nil start).symm⟩
  | cons property rest ih =>
      obtain ⟨key, value⟩ := property
      cases tags with
      | nil => simp at keys
      | cons tag tags =>
          rw [List.map_cons, List.map_cons, List.cons.injEq] at keys
          obtain ⟨same, keys⟩ := keys
          change key = .index tag at same
          subst same
          rw [List.pairwise_cons] at ascending
          have byte := small tag List.mem_cons_self
          obtain ⟨content, elements, written, contains, folded⟩ := ih tags keys ascending.2
            (fun tag member => small tag (List.mem_cons_of_mem _ member))
            (fun property member => each property (List.mem_cons_of_mem _ member))
          obtain ⟨bytes, elementType, first, nonempty, reads⟩ := each _ List.mem_cons_self
            (some (tag : ℤ)) (byteTag_some (Int.natCast_nonneg tag) (by omega))
          refine ⟨bytes ++ content, _, ?_, contains.cons nonempty reads, ?_⟩
          · rw [writeProperties, parseInt_index tag byte]
            change (writeElement toNumber (some (tag : ℤ)) none value >>= _) = _
            rw [first, written]
            rfl
          · intro start smaller
            rw [List.foldl_cons, addElement, Int.toNat_natCast, ofNumber_small byte,
              setProperty_last start _ fun property member => by
                obtain ⟨other, same, below⟩ := smaller property member
                exact ⟨other, same, below tag List.mem_cons_self⟩]
            rw [folded, readBackProperties, List.append_assoc]
            · rfl
            · intro property member
              rcases List.mem_append.mp member with earlier | last
              · obtain ⟨other, same, below⟩ := smaller property earlier
                exact ⟨other, same, fun later inside => below later (List.mem_cons_of_mem _ inside)⟩
              · rw [List.mem_singleton] at last
                exact ⟨tag, by rw [last], ascending.1⟩

theorem unsignedClass_untyped (value : ℤ) : unsignedClass (.finite value) none =
    if 0 ≤ value ∧ value ≤ 0xff then 0
    else if 0 ≤ value ∧ value ≤ 0xffff then 1
    else if 0 ≤ value ∧ value ≤ 0xffffffff then 2
    else 3 := by
  simp [unsignedClass, JsInteger.between, typed]

/-- The size class of a number without a type fits the number. -/
theorem unsignedResult_untyped {value : ℤ} (exact : Exact value) :
    unsignedResult (unsignedClass (.finite value) none) value = readBackNumber value := by
  obtain ⟨above, below⟩ := exact
  rw [unsignedClass_untyped, readBackNumber]
  by_cases natural : 0 ≤ value
  · rw [if_pos natural]
    split
    · change value % 2 ^ 8 = value
      omega
    · split
      · change value % 2 ^ 16 = value
        omega
      · split
        · change value % 2 ^ 32 = value
          omega
        · change toDoubleInt (value % 2 ^ 64) = value
          rw [show value % 2 ^ 64 = value by omega, toDoubleInt_eq above below]
  · rw [if_neg natural, if_neg (by omega), if_neg (by omega), if_neg (by omega)]
    rfl

theorem unsignedClass_le (value : JsInteger) (type : Option String) : unsignedClass value type ≤ 3 := by
  unfold unsignedClass
  split
  · decide
  · split
    · decide
    · split <;> decide

theorem toNat_class {start : UInt8} {size : Nat} (room : start.toNat + size < 32) :
    (start + UInt8.ofNat size).toNat < 32 := by
  rw [UInt8.toNat_add, UInt8.toNat_ofNat']
  omega

theorem unsigned_returns (valid : ByteTag tag) (value : ℤ)
    (unsigned : signedType type = false) : Returns toNumber tag type (.whole value)
      (.whole (unsignedResult (unsignedClass (.finite value) type) value)) := by
  have bound := unsignedClass_le (.finite value) type
  have small : (typeUnsignedInt + UInt8.ofNat (unsignedClass (.finite value) type)).toNat < 32 := by
    apply toNat_class
    change 4 + _ < 32
    omega
  apply Returns.of_body toNumber valid small
  · rw [JsValue.whole, writeElement, unsigned]
    rfl
  · intro fuel _
    exact reads_unsigned (readContainer fuel) tag bound value

/-- The length class keeps the element type of a string small. -/
theorem toNat_counted {start : UInt8} (below : start.toNat < 30) (length : Nat) :
    (start + UInt8.ofNat (lengthClass length)).toNat < 32 := by
  have bound := lengthClass_le length
  apply toNat_class
  omega

theorem text_returns (valid : ByteTag tag) {text : JsString} (type : Option String)
    (short : (Utf8.encode text).length < 2 ^ 32) :
    Returns toNumber tag type (.string text) (.string text) := by
  have small := toNat_counted (show typeUtf8String.toNat < 30 by decide) (Utf8.encode text).length
  apply Returns.of_body toNumber valid small
  · rw [writeElement, writeCounted, List.append_assoc]
  · intro fuel _
    have read := reads_text (readContainer fuel) tag short
    rw [Utf8.decode_encode] at read
    exact read

theorem octets_return (valid : ByteTag tag) {content : List UInt8} (type : Option String)
    (short : content.length < 2 ^ 32) : Returns toNumber tag type (.bytes content) (.bytes content) := by
  have small := toNat_counted (show typeOctetString.toNat < 30 by decide) content.length
  apply Returns.of_body toNumber valid small
  · rw [writeElement, writeCounted, List.append_assoc]
  · intro fuel _
    exact reads_octets (readContainer fuel) tag short

theorem boolean_returns (valid : ByteTag tag) (value : Bool) (type : Option String) :
    Returns toNumber tag type (.boolean value) (.boolean value) := by
  cases value with
  | false =>
      apply Returns.of_body toNumber valid (show typeBoolFalse.toNat < 32 by decide)
      · exact congrArg Except.ok (List.append_nil _).symm
      · intro fuel _
        exact Reads.pure _
  | true =>
      apply Returns.of_body toNumber valid (show typeBoolTrue.toNat < 32 by decide)
      · exact congrArg Except.ok (List.append_nil _).symm
      · intro fuel _
        exact Reads.pure _

theorem null_returns (valid : ByteTag tag) (type : Option String) : Returns toNumber tag type .null .null := by
  apply Returns.of_body toNumber valid (show typeNull.toNat < 32 by decide)
  · exact congrArg Except.ok (List.append_nil _).symm
  · intro fuel _
    exact Reads.pure _

theorem array_returns (valid : ByteTag tag) {items : List JsValue} (notOctets : type ≠ some "octstr")
    (each : ∀ item ∈ items, Returns toNumber none none item (readBack item)) :
    Returns toNumber tag type (.array items) (readBack (.array items)) := by
  obtain ⟨content, elements, written, contains, same⟩ := writeElements_return toNumber items each
  apply Returns.of_body toNumber valid (show typeArray.toNat < 32 by decide)
  · rw [writeElement, if_neg notOctets, written, ← List.append_assoc]
    rfl
  · intro fuel enough
    rw [readBack, ← same]
    exact (contains fuel (by
      rw [List.length_append] at enough
      exact enough)).map fun elements => Element.item tag (.array (arrayItems elements)) typeArray

theorem object_returns (valid : ByteTag tag) {properties : Properties} {tags : List Nat} (type : Option String)
    (keys : properties.map Prod.fst = tags.map PropertyKey.index) (ascending : tags.Pairwise (· < ·))
    (small : ∀ tag ∈ tags, tag < 256)
    (each : ∀ property ∈ properties, ∀ tag, ByteTag tag →
      Returns toNumber tag none property.2 (readBack property.2)) :
    Returns toNumber tag type (.object properties) (readBack (.object properties)) := by
  obtain ⟨content, elements, written, contains, folded⟩ :=
    writeProperties_return toNumber properties tags keys ascending small each
  have same := folded [] (by simp)
  rw [List.nil_append] at same
  apply Returns.of_body toNumber valid (show typeStruct.toNat < 32 by decide)
  · rw [writeElement, written, ← List.append_assoc]
    rfl
  · intro fuel enough
    rw [readBack, ← same]
    exact (contains fuel (by
      rw [List.length_append] at enough
      exact enough)).map fun elements => Element.item tag (.object (structProperties elements)) typeStruct

/-- Every encodable value returns as its unsigned reading, by induction on the value. -/
theorem encodable_returns {allowed : ℤ → Prop} (exact : ∀ number, allowed number → Exact number)
    {value : JsValue} (encodable : Encodable allowed value) :
    ∀ tag, ByteTag tag → Returns toNumber tag none value (readBack value) := by
  induction encodable with
  | null => exact fun tag valid => null_returns toNumber valid none
  | boolean value => exact fun tag valid => boolean_returns toNumber valid value none
  | @whole value number =>
      intro tag valid
      have unsigned := unsigned_returns toNumber valid value (show signedType none = false from rfl)
      rw [unsignedResult_untyped (exact _ number)] at unsigned
      exact unsigned
  | string short => exact fun tag valid => text_returns toNumber valid none short
  | bytes short => exact fun tag valid => octets_return toNumber valid none short
  | array _ ih =>
      intro tag valid
      exact array_returns toNumber valid (by simp) fun item member => ih item member none byteTag_none
  | object keys ascending small _ ih =>
      intro tag valid
      exact object_returns toNumber valid none keys ascending small ih

end

theorem readBackNumber_eq_iff {value : ℤ} (exact : Exact value) : readBackNumber value = value ↔ Natural value := by
  unfold readBackNumber
  by_cases natural : 0 ≤ value
  · rw [if_pos natural]
    exact ⟨fun _ => ⟨natural, exact.2⟩, fun _ => rfl⟩
  · rw [if_neg natural]
    have wrapped := toDoubleInt_nonneg (show 0 ≤ value % 2 ^ 64 by omega)
    constructor
    · intro same
      omega
    · intro contradiction
      exact absurd contradiction.1 natural

theorem readBackItems_eq_iff (items : List JsValue) :
    readBackItems items = items ↔ ∀ item ∈ items, readBack item = item := by
  induction items with
  | nil => simp [readBackItems]
  | cons item rest ih => simp [readBackItems, ih]

theorem readBackProperties_eq_iff (properties : Properties) :
    readBackProperties properties = properties ↔
      ∀ property ∈ properties, readBack property.2 = property.2 := by
  induction properties with
  | nil => simp [readBackProperties]
  | cons property rest ih =>
      obtain ⟨key, value⟩ := property
      simp only [readBackProperties, List.cons.injEq, Prod.mk.injEq, true_and, ih, List.forall_mem_cons]

/-- A nested value returns unchanged exactly when its numbers are natural. -/
theorem readBack_eq_iff {value : JsValue} (encodable : Encodable Exact value) :
    readBack value = value ↔ Encodable Natural value := by
  induction encodable with
  | null => exact ⟨fun _ => .null, fun _ => rfl⟩
  | boolean value => exact ⟨fun _ => .boolean value, fun _ => rfl⟩
  | @whole value number =>
      have equal : readBack (.whole value) = .whole value ↔ readBackNumber value = value := by
        constructor
        · intro same
          injection same with same
          injection same with same
          injection same
        · intro same
          exact congrArg JsValue.whole same
      rw [equal, readBackNumber_eq_iff number]
      constructor
      · exact fun natural => .whole natural
      · intro natural
        cases natural with
        | whole natural => exact natural
  | string short => exact ⟨fun _ => .string short, fun _ => rfl⟩
  | bytes short => exact ⟨fun _ => .bytes short, fun _ => rfl⟩
  | array each ih =>
      rw [readBack, JsValue.array.injEq, readBackItems_eq_iff]
      constructor
      · exact fun same => .array fun item member => (ih item member).mp (same item member)
      · intro natural item member
        cases natural with
        | array each => exact (ih item member).mpr (each item member)
  | object keys ascending small each ih =>
      rw [readBack, JsValue.object.injEq, readBackProperties_eq_iff]
      constructor
      · exact fun same => .object keys ascending small fun property member =>
          (ih property member).mp (same property member)
      · intro natural property member
        cases natural with
        | object _ _ _ each => exact (ih property member).mpr (each property member)

theorem Encodable.imp {allowed permitted : ℤ → Prop} (wider : ∀ number, allowed number → permitted number)
    {value : JsValue} (encodable : Encodable allowed value) : Encodable permitted value := by
  induction encodable with
  | null => exact .null
  | boolean value => exact .boolean value
  | whole number => exact .whole (wider _ number)
  | string short => exact .string short
  | bytes short => exact .bytes short
  | array _ ih => exact .array ih
  | object keys ascending small _ ih => exact .object keys ascending small ih

theorem Natural.exact {value : ℤ} (natural : Natural value) : Exact value := by
  obtain ⟨above, below⟩ := natural
  exact ⟨by omega, below⟩

/-- The reader returns every natural value from its encoding and stops at the last byte. -/
theorem readElement_writeElement (toNumber : JsValue → JsNumber) {value : JsValue}
    (encodable : Encodable Natural value) :
    ∃ bytes elementType, writeElement toNumber none none value = .ok bytes ∧
      readFresh bytes = .ok (.item none value elementType, ⟨bytes, bytes.length⟩) := by
  have exactValue := encodable.imp fun number => Natural.exact
  obtain ⟨bytes, elementType, written, _, reads⟩ :=
    encodable_returns toNumber (fun number exact => exact) exactValue none byteTag_none
  rw [(readBack_eq_iff exactValue).mpr encodable] at reads
  refine ⟨bytes, elementType, written, ?_⟩
  exact (reads (enoughFuel bytes) (by
    unfold enoughFuel
    omega)).complete

/-- A sample value nests an array and a text inside an object. -/
def sampleValue : JsValue :=
  .object [(.index 0, .array [.whole 300, .string [0x68, 0xe9], .whole 9007199254740991]),
    (.index 255, .bytes [1, 2, 3])]

theorem sampleValue_encodable : Encodable Natural sampleValue := by
  apply @Encodable.object _ _ [0, 255] rfl (by decide) (by decide)
  intro property member
  rcases List.mem_pair.mp member with rfl | rfl
  · apply Encodable.array
    intro item inside
    simp only [List.mem_cons, List.not_mem_nil, or_false] at inside
    rcases inside with rfl | rfl | rfl
    · exact .whole ⟨by decide, by decide⟩
    · exact .string (by decide)
    · exact .whole ⟨by decide, by decide⟩
  · exact .bytes (by decide)

theorem readElement_writeElement_sample :
    ∃ bytes elementType, writeElement (fun _ => .integral (.finite 0)) none none sampleValue = .ok bytes ∧
      readFresh bytes = .ok (.item none sampleValue elementType, ⟨bytes, bytes.length⟩) :=
  readElement_writeElement _ sampleValue_encodable

end Barton.Tlv
