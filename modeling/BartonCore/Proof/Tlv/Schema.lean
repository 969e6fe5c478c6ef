import BartonCore.Proof.Tlv.RoundTrip

namespace Barton.Tlv
open Parsing
open Rounding (toDoubleInt toDoubleInt_eq)

/-- The Matter types that a schema can declare. -/
inductive MatterType where
  | int8 | int16 | int24 | int32 | int40 | int48 | int56 | int64
  | uint8 | uint16 | uint24 | uint32 | uint40 | uint48 | uint56 | uint64
  | enum8 | enum16 | percent | percent100ths | bitmap8 | bitmap16 | bitmap32
  | bool | string | octstr | array | struct
  deriving DecidableEq

def MatterType.name : MatterType → String
  | .int8 => "int8"
  | .int16 => "int16"
  | .int24 => "int24"
  | .int32 => "int32"
  | .int40 => "int40"
  | .int48 => "int48"
  | .int56 => "int56"
  | .int64 => "int64"
  | .uint8 => "uint8"
  | .uint16 => "uint16"
  | .uint24 => "uint24"
  | .uint32 => "uint32"
  | .uint40 => "uint40"
  | .uint48 => "uint48"
  | .uint56 => "uint56"
  | .uint64 => "uint64"
  | .enum8 => "enum8"
  | .enum16 => "enum16"
  | .percent => "percent"
  | .percent100ths => "percent100ths"
  | .bitmap8 => "bitmap8"
  | .bitmap16 => "bitmap16"
  | .bitmap32 => "bitmap32"
  | .bool => "bool"
  | .string => "string"
  | .octstr => "octstr"
  | .array => "array"
  | .struct => "struct"

/-- The width of a signed type in bits. -/
def MatterType.signedWidth : MatterType → Option Nat
  | .int8 => some 8
  | .int16 => some 16
  | .int24 => some 24
  | .int32 => some 32
  | .int40 => some 40
  | .int48 => some 48
  | .int56 => some 56
  | .int64 => some 64
  | _ => none

/-- The width of an unsigned type in bits. -/
def MatterType.unsignedWidth : MatterType → Option Nat
  | .uint8 | .enum8 | .percent | .bitmap8 => some 8
  | .uint16 | .enum16 | .percent100ths | .bitmap16 => some 16
  | .uint24 => some 24
  | .uint32 | .bitmap32 => some 32
  | .uint40 => some 40
  | .uint48 => some 48
  | .uint56 => some 56
  | .uint64 => some 64
  | _ => none

/-- A value has a declared type. -/
inductive Declared : MatterType → JsValue → Prop where
  | signed {type : MatterType} {width : Nat} {value : ℤ} (signed : type.signedWidth = some width)
      (above : -2 ^ (width - 1) ≤ value) (below : value < 2 ^ (width - 1)) (exact : Exact value) :
      Declared type (.whole value)
  | unsigned {type : MatterType} {width : Nat} {value : ℤ} (unsigned : type.unsignedWidth = some width)
      (above : 0 ≤ value) (below : value < 2 ^ width) (exact : Exact value) : Declared type (.whole value)
  | bool (value : Bool) : Declared .bool (.boolean value)
  | string {text : JsString} (short : (Utf8.encode text).length < 2 ^ 32) :
      Declared .string (.string text)
  | octstr {content : List UInt8} (short : content.length < 2 ^ 32) : Declared .octstr (.bytes content)
  | array {items : List JsValue} (encodable : Encodable Exact (.array items)) :
      Declared .array (.array items)
  | struct {properties : Properties} (encodable : Encodable Exact (.object properties)) :
      Declared .struct (.object properties)

/-- The values of these types contain other values. -/
def MatterType.nested (type : MatterType) : Bool := type = .array || type = .struct

/-- The reader returns this value for a field of a declared type. -/
def fieldResult (type : MatterType) (held : JsValue) : JsValue :=
  if type.nested then readBack held else held

section Fields
variable (toNumber : JsValue → JsNumber) {type : MatterType} {width : Nat}

/-- The names in the size tests of the signed writer are the names of types with these widths. -/
theorem signedWidth_of_name (signed : type.signedWidth = some width) :
    signedType (some type.name) = true ∧ (type.name = "int8" → width = 8) ∧
      (type.name = "int16" → width = 16) ∧ (type.name = "int32" → width = 32) := by
  cases type <;> simp [MatterType.signedWidth] at signed <;> subst signed <;> decide

/-- The names in the size tests of the unsigned writer are the names of types with these widths. -/
theorem unsignedWidth_of_name (unsigned : type.unsignedWidth = some width) :
    signedType (some type.name) = false ∧ typed (some type.name) = true ∧
      (type.name = "uint8" ∨ type.name = "enum8" ∨ type.name = "percent" → width = 8) ∧
      (type.name = "uint16" ∨ type.name = "enum16" ∨ type.name = "percent100ths" → width = 16) ∧
      (type.name = "uint32" → width = 32) := by
  cases type <;> simp [MatterType.unsignedWidth] at unsigned <;> subst unsigned <;> decide

/-- The size class of a signed number is at most 3, and a smaller class fits the number. -/
def SignedFits (size : Nat) (value : ℤ) : Prop :=
  size ≤ 3 ∧ (size < 3 → -2 ^ (2 ^ size * 8 - 1) ≤ value ∧ value < 2 ^ (2 ^ size * 8 - 1))

theorem signedClass_fits {value : ℤ} (signed : type.signedWidth = some width) (above : -2 ^ (width - 1) ≤ value)
    (below : value < 2 ^ (width - 1)) :
    SignedFits (signedClass (.finite value) (some type.name)) value := by
  obtain ⟨-, byte, word, double⟩ := signedWidth_of_name signed
  simp only [signedClass, JsInteger.between, Option.some.injEq, Bool.and_eq_true, decide_eq_true_eq]
  split
  · next inByte =>
      refine ⟨by decide, fun _ => ?_⟩
      rcases inByte with named | inside
      · rw [byte named] at above below
        exact ⟨above, below⟩
      · change -2 ^ 7 ≤ value ∧ value < 2 ^ 7
        omega
  · split
    · next inWord =>
        refine ⟨by decide, fun _ => ?_⟩
        rcases inWord with named | inside
        · rw [word named] at above below
          exact ⟨above, below⟩
        · change -2 ^ 15 ≤ value ∧ value < 2 ^ 15
          omega
    · split
      · next inDouble =>
          refine ⟨by decide, fun _ => ?_⟩
          rcases inDouble with named | inside
          · rw [double named] at above below
            exact ⟨above, below⟩
          · change -2 ^ 31 ≤ value ∧ value < 2 ^ 31
            omega
      · exact ⟨by decide, fun small => absurd small (by decide)⟩

theorem signed_returns {tag : Option ℤ} (valid : ByteTag tag) {value : ℤ} {type : Option String}
    (signed : signedType type = true) (fits : SignedFits (signedClass (.finite value) type) value)
    (exact : Exact value) : Returns toNumber tag type (.whole value) (.whole value) := by
  have bound := fits.1
  have small : (typeSignedInt + UInt8.ofNat (signedClass (.finite value) type)).toNat < 32 := by
    apply toNat_class
    change 0 + _ < 32
    omega
  apply Returns.of_body toNumber valid small
  · rw [JsValue.whole, writeElement, signed]
    rfl
  · intro fuel _
    exact reads_signed (readContainer fuel) tag bound fits.2 exact.1 exact.2

/-- A declared unsigned number fits the size class that its type selects. -/
theorem unsignedResult_declared {value : ℤ}
    (unsigned : type.unsignedWidth = some width) (above : 0 ≤ value) (below : value < 2 ^ width)
    (exact : Exact value) :
    unsignedResult (unsignedClass (.finite value) (some type.name)) value = value := by
  obtain ⟨-, isTyped, byte, word, double⟩ := unsignedWidth_of_name unsigned
  simp only [unsignedClass, isTyped, Option.some.injEq, not_true_eq_false, and_false, or_false]
  split
  · next named =>
      rw [byte named] at below
      change value % 2 ^ 8 = value
      omega
  · split
    · next named =>
        rw [word named] at below
        change value % 2 ^ 16 = value
        omega
    · split
      · next named =>
          rw [double named] at below
          change value % 2 ^ 32 = value
          omega
      · change toDoubleInt (value % 2 ^ 64) = value
        have top := exact.2
        rw [show value % 2 ^ 64 = value by omega, toDoubleInt_eq exact.1 exact.2]

theorem fieldResult_scalar (scalar : type.nested = false) (held : JsValue) : fieldResult type held = held := by
  rw [fieldResult, scalar]
  rfl

theorem scalar_of_width
    (wide : type.signedWidth = some width ∨ type.unsignedWidth = some width) : type.nested = false := by
  cases type <;> simp [MatterType.signedWidth, MatterType.unsignedWidth, MatterType.nested] at wide ⊢

/-- A field of a declared type returns. -/
theorem declared_returns {tag : Option ℤ} (valid : ByteTag tag) {held : JsValue} (declared : Declared type held) :
    Returns toNumber tag (some type.name) held (fieldResult type held) := by
  cases declared with
  | signed signed above below exact =>
      rw [fieldResult_scalar (scalar_of_width (.inl signed))]
      exact signed_returns toNumber valid (signedWidth_of_name signed).1
        (signedClass_fits signed above below) exact
  | @unsigned _ _ value unsigned above below exact =>
      rw [fieldResult_scalar (scalar_of_width (.inr unsigned))]
      have returns := unsigned_returns toNumber valid value (unsignedWidth_of_name unsigned).1
      rw [unsignedResult_declared unsigned above below exact] at returns
      exact returns
  | bool value => exact boolean_returns toNumber valid value _
  | string short => exact text_returns toNumber valid _ short
  | octstr short => exact octets_return toNumber valid _ short
  | array encodable =>
      cases encodable with
      | array each =>
          exact array_returns toNumber valid (by decide) fun item member =>
            encodable_returns toNumber (fun _ exact => exact) (each item member) none byteTag_none
  | struct encodable =>
      cases encodable with
      | object keys ascending small each =>
          exact object_returns toNumber valid _ keys ascending small fun property member =>
            encodable_returns toNumber (fun _ exact => exact) (each property member)

end Fields

section Properties

/-- A new key is added once. -/
theorem setProperty_perm {key : PropertyKey} (value : JsValue) {properties : Properties}
    (fresh : key ∉ properties.map Prod.fst) :
    (setProperty key value properties).Perm ((key, value) :: properties) := by
  induction properties with
  | nil => exact List.Perm.refl _
  | cons property rest ih =>
      obtain ⟨other, held⟩ := property
      rw [List.map_cons, List.mem_cons, not_or] at fresh
      have different : other ≠ key := fun same => fresh.1 same.symm
      rw [setProperty, if_neg different]
      by_cases earlier : key.before other
      · rw [if_pos earlier]
      · rw [if_neg earlier]
        exact ((ih fresh.2).cons (other, held)).trans (List.Perm.swap _ _ _)

/-- Distinct tags are added once each. -/
theorem foldl_setProperty_perm (entries start : Properties) (distinct : ((start ++ entries).map Prod.fst).Nodup) :
    (entries.foldl (fun properties entry => setProperty entry.1 entry.2 properties) start).Perm
      (start ++ entries) := by
  induction entries generalizing start with
  | nil =>
      rw [List.append_nil]
      exact List.Perm.refl _
  | cons entry rest ih =>
      have moved : (start ++ entry :: rest).Perm (entry :: start ++ rest) := List.perm_middle
      have spread := (moved.map Prod.fst).nodup_iff.mp distinct
      rw [List.cons_append, List.map_cons, List.nodup_cons, List.map_append, List.mem_append, not_or] at spread
      have added := setProperty_perm entry.2 spread.1.1
      rw [List.foldl_cons]
      have folded := ih (setProperty entry.1 entry.2 start) (by
        have same := (added.append_right rest).map Prod.fst
        apply same.nodup_iff.mpr
        exact (moved.map Prod.fst).nodup_iff.mp distinct)
      exact folded.trans ((added.append_right rest).trans moved.symm)

end Properties

/-- A field of a schema. -/
structure Field where
  name : PropertyKey
  tag : Nat
  type : MatterType

/-- A schema gives distinct names distinct tags of one byte. -/
structure Schema where
  fields : List Field
  names_distinct : (fields.map Field.name).Nodup
  tags_distinct : (fields.map Field.tag).Nodup
  tags_small : ∀ field ∈ fields, field.tag < 256

/-- The script sees a schema as an object. -/
def Field.entry (field : Field) : PropertyKey × FieldInfo :=
  (field.name, { tag := field.tag, type := some field.type.name })

def Schema.entries (schema : Schema) : List (PropertyKey × FieldInfo) := schema.fields.map Field.entry

section Structs
variable (toNumber : JsValue → JsNumber) (inherited : PropertyKey → Inherited) (value : Properties)
  {fields : List Field} {schema : Schema} {held : JsValue}

/-- A field is present when the object itself has it and it is not undefined. -/
def Present (field : Field) (held : JsValue) : Prop :=
  ownProperty field.name value = some held ∧ held.isUndefined = false

/-- Every present field has a value of its declared type. -/
def Typed (fields : List Field) : Prop :=
  ∀ field ∈ fields, ∀ held, Present value field held → Declared field.type held

/-- The object maps the tag of each present field to its value and has no other key. -/
def Maps (fields : List Field) (result : Properties) : Prop :=
  (result.map Prod.fst).Nodup ∧ ∀ key held, (key, held) ∈ result ↔
    ∃ field ∈ fields, key = .index field.tag ∧ Present value field held

/-- The entry that the reader returns for a field. -/
def writtenEntry (field : Field) : Option (PropertyKey × JsValue) :=
  let held := member inherited value field.name
  if held.isUndefined then none else some (.index field.tag, fieldResult field.type held)

/-- A field whose value is not a function returns, or it is left out. -/
theorem member_returns {field : Field} (small : field.tag < 256)
    (typed : ∀ held, Present value field held → Declared field.type held)
    (written : inherited field.name ≠ .method ∨ (ownProperty field.name value).isSome)
    (defined : (member inherited value field.name).isUndefined = false) :
    Returns toNumber (some (field.tag : ℤ)) (some field.type.name) (member inherited value field.name)
      (fieldResult field.type (member inherited value field.name)) := by
  have valid := byteTag_some (Int.natCast_nonneg field.tag) (show (field.tag : ℤ) < 256 by omega)
  cases own : ownProperty field.name value with
  | some held =>
      have same : member inherited value field.name = held := by rw [member, own, Option.getD_some]
      rw [same] at defined ⊢
      exact declared_returns toNumber valid (typed held ⟨own, defined⟩)
  | none =>
      rw [own] at written
      have same : member inherited value field.name = (inherited field.name).value := by
        rw [member, own, Option.getD_none]
      rw [same] at defined ⊢
      cases kind : inherited field.name with
      | nothing =>
          rw [kind] at defined
          contradiction
      | method => simp [kind] at written
      | prototype =>
          have empty := object_returns toNumber valid (some field.type.name)
            (show ([] : Properties).map Prod.fst = ([] : List Nat).map PropertyKey.index from rfl)
            List.Pairwise.nil (by simp) (by simp)
          have result : fieldResult field.type (.object []) = .object [] := by
            unfold fieldResult
            split <;> rfl
          change Returns toNumber _ _ (.object []) (fieldResult field.type (.object []))
          rw [result]
          exact empty

/-- No absent field takes a method of `Object.prototype`. -/
def NoMethods (fields : List Field) : Prop :=
  ∀ field ∈ fields, inherited field.name ≠ .method ∨ (ownProperty field.name value).isSome

/-- Without such methods the writer encodes every field, and the reader returns the entries in order. -/
theorem writeFields_return (small : ∀ field ∈ fields, field.tag < 256)
    (typed : Typed value fields) (writable : NoMethods inherited value fields) :
    ∃ content elements, writeFields toNumber inherited value (fields.map Field.entry) = .ok content ∧
      Contains content elements ∧ ∀ start, elements.foldl addElement start =
        (fields.filterMap (writtenEntry inherited value)).foldl
          (fun properties entry => setProperty entry.1 entry.2 properties) start := by
  induction fields with
  | nil => exact ⟨[], [], rfl, Contains.nil, fun start => rfl⟩
  | cons field rest ih =>
      obtain ⟨content, elements, written, contains, folded⟩ := ih
        (fun field inside => small field (List.mem_cons_of_mem _ inside))
        (fun field inside => typed field (List.mem_cons_of_mem _ inside))
        (fun field inside => writable field (List.mem_cons_of_mem _ inside))
      have byte := small field List.mem_cons_self
      cases defined : (member inherited value field.name).isUndefined with
      | true =>
          refine ⟨content, elements, ?_, contains, ?_⟩
          · rw [List.map_cons, Field.entry, writeFields, writeField]
            simp only [defined, if_true]
            rw [written]
            rfl
          · intro start
            rw [folded, List.filterMap_cons, writtenEntry]
            simp only [defined, if_true]
      | false =>
          obtain ⟨bytes, elementType, first, nonempty, reads⟩ := member_returns toNumber inherited value byte
            (typed field List.mem_cons_self) (writable field List.mem_cons_self) defined
          refine ⟨bytes ++ content, _, ?_, contains.cons nonempty reads, ?_⟩
          · rw [List.map_cons, Field.entry, writeFields, writeField]
            simp only [defined, Bool.false_eq_true, if_false]
            rw [first, written]
            rfl
          · intro start
            rw [List.foldl_cons, folded, List.filterMap_cons, writtenEntry]
            simp only [defined, Bool.false_eq_true, if_false]
            rw [List.foldl_cons, addElement, Int.toNat_natCast, ofNumber_small byte]

/-- A method of `Object.prototype` stops the writer. -/
theorem noMethods_of_written {content : List UInt8}
    (written : writeFields toNumber inherited value (fields.map Field.entry) = .ok content) :
    NoMethods inherited value fields := by
  induction fields generalizing content with
  | nil => simp [NoMethods]
  | cons field rest ih =>
      rw [List.map_cons, Field.entry, writeFields] at written
      obtain ⟨first, wroteFirst, continued⟩ := ok_of_bind written
      obtain ⟨later, wroteLater, -⟩ := ok_of_bind continued
      intro other inside
      rcases List.mem_cons.mp inside with same | inRest
      · subst same
        by_contra blocked
        rw [not_or, not_not, Option.not_isSome_iff_eq_none] at blocked
        have function : member inherited value other.name = .function := by
          rw [member, blocked.2, Option.getD_none, blocked.1]
          rfl
        rw [writeField, function] at wroteFirst
        contradiction
      · exact ih wroteLater other inRest

/-- A struct with these contents decodes to the properties of its elements. -/
theorem decode_struct {content : List UInt8} {elements : List Element} (contains : Contains content elements) :
    decode (some (Base64.encode ([typeStruct] ++ content ++ [typeEndContainer]))) =
      .ok (.object (structProperties elements)) := by
  have bytes := Base64.decode_encode ([typeStruct] ++ content ++ [typeEndContainer])
  have reads (fuel : Nat) (enough : content.length + 1 < fuel) :
      Reads (readElement (fuel + 1)) ([typeStruct] ++ content ++ [typeEndContainer])
        (.item none (.object (structProperties elements)) typeStruct) := by
    have body : Reads (readBody (readContainer fuel) none typeStruct) (content ++ [typeEndContainer])
        (.item none (.object (structProperties elements)) typeStruct) :=
      (contains fuel enough).map fun elements =>
        Element.item none (.object (structProperties elements)) typeStruct
    rw [List.append_assoc]
    exact reads_head byteTag_none (by decide) body
  have read := (reads (2 * ([typeStruct] ++ content ++ [typeEndContainer]).length) (by
    simp only [List.length_append, List.length_singleton]
    omega)).complete
  cases text : Base64.encode ([typeStruct] ++ content ++ [typeEndContainer]) with
  | nil =>
      rw [text] at bytes
      injection bytes with contradiction
      simp at contradiction
  | cons unit rest =>
      rw [text] at bytes
      change (Base64.decode (unit :: rest) >>= _) = _
      rw [bytes]
      change (readFresh ([typeStruct] ++ content ++ [typeEndContainer]) >>= _) = _
      rw [readFresh, enoughFuel, read]
      rfl

theorem writtenEntry_keys (fields : List Field) :
    ((fields.filterMap (writtenEntry inherited value)).map Prod.fst).Sublist
      ((fields.map Field.tag).map PropertyKey.index) := by
  induction fields with
  | nil => exact List.Sublist.refl _
  | cons field rest ih =>
      cases defined : (member inherited value field.name).isUndefined with
      | true =>
          have omitted : writtenEntry inherited value field = none := by simp [writtenEntry, defined]
          rw [List.filterMap_cons_none omitted]
          exact ih.cons _
      | false =>
          have entry : writtenEntry inherited value field =
              some (.index field.tag, fieldResult field.type (member inherited value field.name)) := by
            simp [writtenEntry, defined]
          rw [List.filterMap_cons_some entry]
          exact ih.cons_cons _

/-- The decoded struct has the entries of its fields. -/
theorem struct_returns (typed : Typed value schema.fields) (writable : NoMethods inherited value schema.fields) :
    ∃ text result, encodeStruct toNumber inherited value schema.entries = .ok text ∧
      decode (some text) = .ok (.object result) ∧ (result.map Prod.fst).Nodup ∧
      ∀ entry, entry ∈ result ↔ entry ∈ schema.fields.filterMap (writtenEntry inherited value) := by
  obtain ⟨content, elements, written, contains, folded⟩ :=
    writeFields_return toNumber inherited value schema.tags_small typed writable
  have distinct : ((schema.fields.filterMap (writtenEntry inherited value)).map Prod.fst).Nodup := by
    apply (writtenEntry_keys inherited value schema.fields).nodup
    apply schema.tags_distinct.map
    intro left right same
    injection same
  have perm := foldl_setProperty_perm (schema.fields.filterMap (writtenEntry inherited value)) [] distinct
  rw [List.nil_append, ← folded] at perm
  refine ⟨_, structProperties elements, ?_, decode_struct contains, ?_, fun entry => perm.mem_iff⟩
  · rw [encodeStruct, Schema.entries, written]
    rfl
  · exact (perm.map Prod.fst).nodup_iff.mpr distinct

/-- The schema gives each tag to one field. -/
theorem Schema.field_unique {left right : Field} (first : left ∈ schema.fields)
    (second : right ∈ schema.fields) (same : left.tag = right.tag) : left = right :=
  List.inj_on_of_nodup_map schema.tags_distinct first second same

/-- The fields that the struct encoding gets right hold no negative number below the outermost
element, and an absent field takes nothing from `Object.prototype`. -/
def Faithful (fields : List Field) : Prop :=
  ∀ field ∈ fields,
    (∀ held, Present value field held → field.type.nested = true → Encodable Natural held) ∧
    (ownProperty field.name value = none → inherited field.name = .nothing)

theorem mem_writtenEntries {key : PropertyKey} : (key, held) ∈ fields.filterMap (writtenEntry inherited value) ↔
      ∃ field ∈ fields, (member inherited value field.name).isUndefined = false ∧
        key = .index field.tag ∧ held = fieldResult field.type (member inherited value field.name) := by
  rw [List.mem_filterMap]
  constructor
  · rintro ⟨field, inside, entry⟩
    cases defined : (member inherited value field.name).isUndefined with
    | true => simp [writtenEntry, defined] at entry
    | false =>
        simp only [writtenEntry, defined, Bool.false_eq_true, if_false, Option.some.injEq,
          Prod.mk.injEq] at entry
        exact ⟨field, inside, defined, entry.1.symm, entry.2.symm⟩
  · rintro ⟨field, inside, defined, rfl, rfl⟩
    exact ⟨field, inside, by simp [writtenEntry, defined]⟩

theorem member_of_present {field : Field} (present : Present value field held) :
    member inherited value field.name = held := by
  rw [member, present.1, Option.getD_some]

/-- A present field returns its value exactly when its nested numbers are natural. -/
theorem fieldResult_eq_iff {type : MatterType} (declared : Declared type held) :
    fieldResult type held = held ↔ (type.nested = true → Encodable Natural held) := by
  by_cases nested : type.nested = true
  · rw [fieldResult, if_pos nested]
    have encodable : Encodable Exact held := by
      cases declared with
      | signed signed _ _ _ =>
          rw [scalar_of_width (.inl signed)] at nested
          contradiction
      | unsigned unsigned _ _ _ =>
          rw [scalar_of_width (.inr unsigned)] at nested
          contradiction
      | bool | string | octstr => contradiction
      | array encodable | struct encodable => exact encodable
    rw [readBack_eq_iff encodable]
    simp [nested]
  · rw [Bool.not_eq_true] at nested
    rw [fieldResult_scalar nested]
    simp [nested]

/-- The entries of the fields are the present fields exactly when the struct is faithful. -/
theorem entries_iff_faithful (typed : Typed value schema.fields) :
    (∀ key held, (key, held) ∈ schema.fields.filterMap (writtenEntry inherited value) ↔
      ∃ field ∈ schema.fields, key = .index field.tag ∧ Present value field held) ↔
    Faithful inherited value schema.fields := by
  constructor
  · intro exactly field inside
    constructor
    · intro held present nested
      have same := member_of_present inherited value present
      obtain ⟨other, otherInside, _, tag, result⟩ := (mem_writtenEntries inherited value).mp
        ((exactly (.index field.tag) held).mpr ⟨field, inside, rfl, present⟩)
      injection tag with tag
      have unique := Schema.field_unique inside otherInside tag
      subst unique
      rw [same] at result
      exact (fieldResult_eq_iff (typed field inside held present)).mp result.symm nested
    · intro absent
      by_contra taken
      have defined : (member inherited value field.name).isUndefined = false := by
        rw [member, absent, Option.getD_none]
        cases kind : inherited field.name with
        | nothing => exact absurd kind taken
        | method => rfl
        | prototype => rfl
      obtain ⟨other, otherInside, tag, present⟩ := (exactly (.index field.tag) _).mp
        ((mem_writtenEntries inherited value).mpr ⟨field, inside, defined, rfl, rfl⟩)
      injection tag with tag
      have unique := Schema.field_unique inside otherInside tag
      subst unique
      have found := present.1
      rw [absent] at found
      contradiction
  · intro faithful key held
    rw [mem_writtenEntries]
    constructor
    · rintro ⟨field, inside, defined, tag, result⟩
      cases own : ownProperty field.name value with
      | none =>
          rw [member, own, Option.getD_none, (faithful field inside).2 own] at defined
          contradiction
      | some found =>
          have same : member inherited value field.name = found := by rw [member, own, Option.getD_some]
          rw [same] at defined result
          have present : Present value field found := ⟨own, defined⟩
          rw [(fieldResult_eq_iff (typed field inside found present)).mpr
            ((faithful field inside).1 found present)] at result
          subst result
          exact ⟨field, inside, tag, present⟩
    · rintro ⟨field, inside, tag, present⟩
      have same := member_of_present inherited value present
      rw [← same] at present
      refine ⟨field, inside, present.2, tag, ?_⟩
      rw [(fieldResult_eq_iff (typed field inside _ present)).mpr ((faithful field inside).1 _ present)]
      exact same.symm

theorem Faithful.noMethods (faithful : Faithful inherited value fields) : NoMethods inherited value fields := by
  intro field inside
  by_cases own : (ownProperty field.name value).isSome
  · exact .inr own
  · rw [Option.not_isSome_iff_eq_none] at own
    left
    rw [(faithful field inside).2 own]
    decide

/-- A struct that returns from its schema encoding is faithful. -/
theorem faithful_of_maps (typed : Typed value schema.fields) {text : JsString}
    {result : Properties} (encoded : encodeStruct toNumber inherited value schema.entries = .ok text)
    (decoded : decode (some text) = .ok (.object result)) (maps : Maps value schema.fields result) :
    Faithful inherited value schema.fields := by
  obtain ⟨content, written, -⟩ := ok_of_bind encoded
  have writable := noMethods_of_written toNumber inherited value written
  obtain ⟨otherText, other, otherEncoded, otherDecoded, -, entries⟩ :=
    struct_returns toNumber inherited value typed writable
  rw [encoded] at otherEncoded
  injection otherEncoded with sameText
  subst sameText
  rw [decoded] at otherDecoded
  injection otherDecoded with sameValue
  injection sameValue with sameResult
  subst sameResult
  rw [← entries_iff_faithful inherited value typed]
  intro key held
  rw [← entries]
  exact maps.2 key held

/-- A struct returns from its schema encoding exactly when no number below the outermost element is
negative and no absent field takes a property of `Object.prototype`. -/
theorem encodeStruct_decode_iff (schema : Schema) (typed : Typed value schema.fields) :
    (∃ text result, encodeStruct toNumber inherited value schema.entries = .ok text ∧
      decode (some text) = .ok (.object result) ∧ Maps value schema.fields result) ↔
    Faithful inherited value schema.fields := by
  constructor
  · rintro ⟨text, result, encoded, decoded, maps⟩
    exact faithful_of_maps toNumber inherited value typed encoded decoded maps
  · intro faithful
    have writable := faithful.noMethods
    obtain ⟨text, result, encoded, decoded, distinct, entries⟩ :=
      struct_returns toNumber inherited value typed writable
    refine ⟨text, result, encoded, decoded, distinct, ?_⟩
    intro key held
    rw [entries]
    exact (entries_iff_faithful inherited value typed).mpr faithful key held

end Structs

section Samples

/-- An object takes these properties from `Object.prototype`. -/
def objectPrototype (key : PropertyKey) : Inherited :=
  if key = .name (units "__proto__") then .prototype
  else if ["constructor", "hasOwnProperty", "isPrototypeOf", "propertyIsEnumerable", "toLocaleString",
    "toString", "valueOf"].any fun method => key = .name (units method) then .method
  else .nothing

/-- The conversion of a number is the number. -/
def sampleConversion : JsValue → JsNumber
  | .number value => value
  | _ => .integral (.finite 0)

/-- A sample schema has a signed field and an array. -/
def sampleSchema : Schema where
  fields := [⟨.name (units "level"), 1, .int16⟩, ⟨.name (units "steps"), 0, .array⟩]
  names_distinct := by decide +kernel
  tags_distinct := by decide
  tags_small := by decide

def sampleStruct (step : ℤ) : Properties :=
  [(.name (units "level"), .whole (-5)), (.name (units "steps"), .array [.whole step])]

theorem sampleStruct_level (step : ℤ) :
    ownProperty (.name (units "level")) (sampleStruct step) = some (.whole (-5)) := by
  simp [ownProperty, sampleStruct]

theorem sampleStruct_steps (step : ℤ) :
    ownProperty (.name (units "steps")) (sampleStruct step) = some (.array [.whole step]) := by
  have different : PropertyKey.name (units "level") ≠ .name (units "steps") := by decide +kernel
  simp [ownProperty, sampleStruct, different]

theorem sampleStruct_array {allowed : ℤ → Prop} {step : ℤ} (number : allowed step) :
    Encodable allowed (.array [.whole step]) := by
  apply Encodable.array
  intro item inside
  rw [List.mem_singleton] at inside
  subst inside
  exact .whole number

theorem sampleStruct_typed {step : ℤ} (exact : Exact step) : Typed (sampleStruct step) sampleSchema.fields := by
  intro field inside held present
  rcases List.mem_pair.mp inside with rfl | rfl
  · have same := present.1.symm.trans (sampleStruct_level step)
    injection same with same
    subst same
    exact .signed (show MatterType.signedWidth .int16 = some 16 from rfl) (by decide) (by decide)
      ⟨by decide, by decide⟩
  · have same := present.1.symm.trans (sampleStruct_steps step)
    injection same with same
    subst same
    exact .array (sampleStruct_array exact)

theorem encodeStruct_decode_iff_sample :
    Typed (sampleStruct 7) sampleSchema.fields ∧ ∃ text result,
      encodeStruct sampleConversion objectPrototype (sampleStruct 7) sampleSchema.entries = .ok text ∧
        decode (some text) = .ok (.object result) ∧ Maps (sampleStruct 7) sampleSchema.fields result := by
  have typed := sampleStruct_typed (show Exact 7 from ⟨by decide, by decide⟩)
  refine ⟨typed, (encodeStruct_decode_iff sampleConversion objectPrototype _ sampleSchema typed).mpr ?_⟩
  intro field inside
  rcases List.mem_pair.mp inside with rfl | rfl
  · constructor
    · intro held _ nested
      contradiction
    · intro absent
      rw [sampleStruct_level] at absent
      contradiction
  · constructor
    · intro held present _
      have same := present.1.symm.trans (sampleStruct_steps 7)
      injection same with same
      subst same
      exact sampleStruct_array ⟨by decide, by decide⟩
    · intro absent
      rw [sampleStruct_steps] at absent
      contradiction

/-- A negative number inside an array does not return. -/
theorem not_encodeStruct_decode :
    Typed (sampleStruct (-1)) sampleSchema.fields ∧ ¬∃ text result,
      encodeStruct sampleConversion objectPrototype (sampleStruct (-1)) sampleSchema.entries = .ok text ∧
        decode (some text) = .ok (.object result) ∧ Maps (sampleStruct (-1)) sampleSchema.fields result := by
  have typed := sampleStruct_typed (show Exact (-1) from ⟨by decide, by decide⟩)
  refine ⟨typed, ?_⟩
  rintro ⟨text, result, encoded, decoded, maps⟩
  have faithful := faithful_of_maps sampleConversion objectPrototype _ typed encoded decoded maps
  have natural := (faithful ⟨.name (units "steps"), 0, .array⟩ (by simp [sampleSchema])).1
    (.array [.whole (-1)]) ⟨sampleStruct_steps (-1), rfl⟩ rfl
  cases natural with
  | array each =>
      have element := each (.whole (-1)) (List.mem_singleton.mpr rfl)
      cases element with
      | whole number => exact absurd number.1 (by decide)

end Samples
end Barton.Tlv
