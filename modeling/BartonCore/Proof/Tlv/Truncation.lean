import BartonCore.Proof.Tlv.RoundTrip

namespace Barton.Tlv
open Parsing

/-- The reader throws this error at the end of the bytes. -/
def truncated : Failure := .thrown unexpectedEnd

section Cuts
variable (toNumber : JsValue → JsNumber)

/-- The bytes of an element without a type. -/
def encoded (tag : Option ℤ) (value : JsValue) : List UInt8 :=
  match writeElement toNumber tag none value with
  | .ok bytes => bytes
  | .error _ => []

/-- An open container can be cut before a member, inside a member that is a container, and after its last member. -/
def contentCuts : List (List UInt8 × List (List UInt8)) → List (List UInt8)
  | [] => [[]]
  | (bytes, cuts) :: rest => [] :: cuts ++ (contentCuts rest).map (bytes ++ ·)

mutual

/-- These prefixes of an encoding end right after the head of a container or after a complete member of a container,
and every container around the end is still open. -/
def cuts (tag : Option ℤ) (type : Option String) : JsValue → List (List UInt8)
  | .array items =>
      if type = some "octstr" then [] else (contentCuts (itemMembers items)).map (writeHead tag typeArray ++ ·)
  | .object properties => (contentCuts (propertyMembers properties)).map (writeHead tag typeStruct ++ ·)
  | _ => []

/-- The members of an array with their cuts. -/
def itemMembers : List JsValue → List (List UInt8 × List (List UInt8))
  | [] => []
  | item :: rest => (encoded toNumber none item, cuts none none item) :: itemMembers rest

/-- The members of an object are its properties whose keys start with a number. -/
def propertyMembers : Properties → List (List UInt8 × List (List UInt8))
  | [] => []
  | (key, value) :: rest =>
      match parseInt key.text with
      | some fieldTag => (encoded toNumber (some fieldTag) value, cuts (some fieldTag) none value) :: propertyMembers rest
      | none => propertyMembers rest

end

/-- The texts and byte arrays of a value fit into the four length bytes of the writer. -/
inductive Short : JsValue → Prop
  | undefined : Short .undefined
  | null : Short .null
  | boolean (value : Bool) : Short (.boolean value)
  | number (value : JsNumber) : Short (.number value)
  | string {text : JsString} (short : (Utf8.encode text).length < 2 ^ 32) : Short (.string text)
  | bytes {content : List UInt8} (short : content.length < 2 ^ 32) : Short (.bytes content)
  | array {items : List JsValue} (short : items.length < 2 ^ 32) (each : ∀ item ∈ items, Short item) :
      Short (.array items)
  | object {properties : Properties} (each : ∀ property ∈ properties, Short property.2) : Short (.object properties)
  | function : Short .function

end Cuts

section Numbers

theorem takes_readByte (byte : UInt8) : Takes truncated readByte [byte] fun _ => True where
  reads := ⟨byte, trivial, reads_readByte byte⟩
  demands := by
    intro start rest split nonempty cursor inside starts
    have empty : start = [] := by
      cases start with
      | nil => rfl
      | cons first later => simp at split; exact absurd split.2.2 nonempty
    subst empty
    have missing : cursor.tokens[cursor.offset]? = none := by
      rw [← List.head?_drop]
      exact congrArg List.head? starts
    rw [readByte, missing]
    rfl

theorem takes_readBytes (content : List UInt8) :
    Takes truncated (readBytes content.length) content fun _ => True where
  reads := ⟨content, trivial, reads_readBytes content⟩
  demands := by
    intro start rest split nonempty cursor inside starts
    have size := congrArg List.length starts
    have shorter := congrArg List.length split
    have cut := List.length_pos_iff.mpr nonempty
    rw [Cursor.remaining, List.length_drop] at size
    rw [List.length_append] at shorter
    rw [readBytes, if_pos (by omega)]
    rfl

theorem takes_readShifted (value : BitVec 32) (i : Nat) (bytes : List UInt8) :
    Takes truncated (readShifted value i bytes.length) bytes fun _ => True := by
  induction bytes generalizing value i with
  | nil => exact Takes.pure trivial
  | cons byte rest ih =>
      rw [← List.singleton_append]
      exact (takes_readByte byte).bind fun read _ => ih _ (i + 1)

theorem takes_readWord (bytes : List UInt8) : Takes truncated (readWord bytes.length) bytes fun _ => True :=
  (takes_readShifted 0 0 bytes).map fun _ _ => trivial

/-- The reader takes all bytes of a number. -/
theorem takes_readUint {size : Nat} {bytes : List UInt8} (width : bytes.length = size) (bound : size ≤ 4 ∨ size = 8) :
    Takes truncated (readUint size) bytes fun _ => True := by
  subst width
  unfold readUint
  split
  · exact takes_readWord bytes
  · rename_i wide
    have low : (bytes.take 4).length = 4 := by
      rw [List.length_take]
      omega
    have high : (bytes.drop 4).length = 4 := by
      rw [List.length_drop]
      omega
    have first := takes_readWord (bytes.take 4)
    have second := takes_readWord (bytes.drop 4)
    rw [low] at first
    rw [high] at second
    rw [← List.take_append_drop 4 bytes]
    exact first.bind fun _ _ => second.map fun _ _ => trivial

theorem takes_readInt {size : Nat} {bytes : List UInt8} (width : bytes.length = size) (bound : size ≤ 4 ∨ size = 8) :
    Takes truncated (readInt size) bytes fun _ => True := by
  unfold readInt
  split
  · exact (takes_readUint width bound).map fun _ _ => trivial
  · rename_i wide
    have low : (bytes.take 4).length = 4 := by
      rw [List.length_take]
      omega
    have high : (bytes.drop 4).length = 4 := by
      rw [List.length_drop]
      omega
    rw [← List.take_append_drop 4 bytes]
    refine (takes_readUint low (by decide)).bind fun _ _ => ?_
    exact (takes_readUint high (by decide)).map fun _ _ => trivial

end Numbers

section Heads

/-- The reader returns a context tag as its low byte. -/
def readBackTag (tag : Option ℤ) : Option ℤ :=
  tag.map fun number => (((BitVec.ofInt 32 number).setWidth 8).toNat : ℤ)

/-- The reader takes the control byte and the tag first. -/
def readHead : Read (UInt8 × Option ℤ) := do
  let control ← readByte
  let tag ← readTag (control &&& 0xe0)
  return (control, tag)

theorem readElement_succ (fuel : Nat) :
    readElement (fuel + 1) = readHead >>= fun head => readBody (readContainer fuel) head.2 (head.1 &&& 0x1f) := by
  rw [readElement, readHead]
  simp only [bind_assoc, pure_bind]

theorem takes_readTag (tag : Option ℤ) : Takes truncated (readTag (if tag.isNone then 0 else 0x20))
    ((tag.map writeByte).getD []) (· = readBackTag tag) := by
  cases tag with
  | none => exact Takes.pure rfl
  | some number =>
      have takes := takes_readByte ⟨(BitVec.ofInt 32 number).setWidth 8⟩
      have reads := (reads_readByte ⟨(BitVec.ofInt 32 number).setWidth 8⟩).map fun byte => some (byte.toNat : ℤ)
      have demands := takes.demands.map fun byte : UInt8 => some (byte.toNat : ℤ)
      exact ⟨⟨_, rfl, reads⟩, demands⟩

theorem takes_readHead (tag : Option ℤ) {elementType : UInt8} (small : elementType.toNat < 32) :
    Takes truncated readHead (writeHead tag elementType) (· = (control tag elementType, readBackTag tag)) := by
  have first := reads_readByte (control tag elementType)
  have demands := (takes_readByte (control tag elementType)).demands
  have form := (control_split tag small).2
  have second : Takes truncated (readTag (control tag elementType &&& 0xe0)) ((tag.map writeByte).getD [])
      (· = readBackTag tag) := form ▸ takes_readTag tag
  obtain ⟨_, rfl, tagged⟩ := second.reads
  rw [writeHead, ← List.singleton_append]
  constructor
  · exact ⟨_, rfl, first.bind (tagged.map fun tag' => (control tag elementType, tag'))⟩
  · exact demands.bind first (second.demands.map fun tag' => (control tag elementType, tag'))

variable {tag : Option ℤ} {elementType : UInt8} {fuel : Nat} {body start rest : List UInt8} {element : Element}

theorem reads_readHead (tag : Option ℤ) (small : elementType.toNat < 32) :
    Reads readHead (writeHead tag elementType) (control tag elementType, readBackTag tag) := by
  obtain ⟨_, rfl, reads⟩ := (takes_readHead tag small).reads
  exact reads

/-- The body of an element decides what the reader returns. -/
theorem reads_element (small : elementType.toNat < 32)
    (reads : Reads (readBody (readContainer fuel) (readBackTag tag) elementType) body element) :
    Reads (readElement (fuel + 1)) (writeHead tag elementType ++ body) element := by
  rw [readElement_succ]
  apply (reads_readHead tag small).bind
  dsimp only
  rwa [(control_split tag small).1]

theorem ends_element (small : elementType.toNat < 32)
    (ends : Ends (readBody (readContainer fuel) (readBackTag tag) elementType) body element) :
    Ends (readElement (fuel + 1)) (writeHead tag elementType ++ body) element := by
  rw [readElement_succ]
  apply (reads_readHead tag small).ends_bind
  dsimp only
  rwa [(control_split tag small).1]

theorem starves_element (small : elementType.toNat < 32)
    (starves : Starves truncated (readBody (readContainer fuel) (readBackTag tag) elementType) body) :
    Starves truncated (readElement (fuel + 1)) (writeHead tag elementType ++ body) := by
  rw [readElement_succ]
  apply (reads_readHead tag small).starves
  dsimp only
  rwa [(control_split tag small).1]

/-- A cut of an element is inside its head or inside its body. -/
theorem cut_element (small : elementType.toNat < 32) (split : writeHead tag elementType ++ body = start ++ rest)
    (fuel : Nat) : (Starves truncated (readElement (fuel + 1)) start ∧ ∀ inner, start ≠ writeHead tag elementType ++ inner) ∨
      ∃ inner, start = writeHead tag elementType ++ inner ∧ body = inner ++ rest := by
  rcases split_append split with ⟨missing, same, cut⟩ | inside
  · refine Or.inl ⟨?_, ?_⟩
    · rw [readElement_succ]
      exact ((takes_readHead tag small).demands start missing same cut).bind _
    · rintro inner rfl
      have sizes := congrArg List.length same
      have positive := List.length_pos_iff.mpr cut
      rw [List.length_append, List.length_append] at sizes
      omega
  · exact Or.inr inside

end Heads

section Members

/-- The encoding of an element is read as an item. A proper prefix is read as an item when it is one of the cuts, and
the reader throws on any other. -/
structure Member (bytes : List UInt8) (cuts : List (List UInt8)) : Prop where
  nonempty : bytes ≠ []
  reads : ∃ tag value elementType, ∀ fuel, bytes.length < fuel →
    Reads (readElement fuel) bytes (.item tag value elementType)
  proper : ∀ cut ∈ cuts, cut ≠ [] ∧ ∃ rest, rest ≠ [] ∧ bytes = cut ++ rest
  cut : ∀ start rest, bytes = start ++ rest → rest ≠ [] → ∀ fuel, 2 * start.length + 1 ≤ fuel →
    (start ∈ cuts ∧ ∃ tag value elementType, Ends (readElement fuel) start (.item tag value elementType)) ∨
      (start ∉ cuts ∧ Starves truncated (readElement fuel) start)

variable {tag : Option ℤ} {elementType : UInt8} {body : List UInt8} {input : List UInt8} {fuel : Nat}

theorem writeHead_ne_nil (tag : Option ℤ) (elementType : UInt8) : writeHead tag elementType ≠ [] :=
  List.cons_ne_nil _ _

/-- An element that holds no elements throws on every proper prefix. -/
theorem Member.of_body (small : elementType.toNat < 32)
    (reads : ∃ value, ∀ container, Reads (readBody container (readBackTag tag) elementType) body
      (.item (readBackTag tag) value elementType))
    (demands : ∀ container, Demands truncated (readBody container (readBackTag tag) elementType) body) :
    Member (writeHead tag elementType ++ body) [] where
  nonempty := List.append_ne_nil_of_left_ne_nil (writeHead_ne_nil tag elementType) body
  reads := by
    obtain ⟨value, reads⟩ := reads
    refine ⟨readBackTag tag, value, elementType, fun fuel enough => ?_⟩
    obtain ⟨fuel, rfl⟩ := Nat.exists_eq_add_one_of_ne_zero (Nat.ne_of_gt (Nat.zero_lt_of_lt enough))
    exact reads_element small (reads _)
  proper := by
    intro cut member
    cases member
  cut := by
    intro start rest split nonempty fuel enough
    obtain ⟨fuel, rfl⟩ := Nat.exists_eq_add_one_of_ne_zero (show fuel ≠ 0 by omega)
    refine Or.inr ⟨List.not_mem_nil, ?_⟩
    rcases cut_element small split fuel with ⟨starves, _⟩ | ⟨inner, rfl, same⟩
    · exact starves
    · exact starves_element small (demands _ inner rest same nonempty)

/-- The contents of a container are read as elements. A cut of them is read as elements when it is one of the cuts. -/
structure Contents (content : List UInt8) (cuts : List (List UInt8)) : Prop where
  reads : ∃ elements, Contains content elements
  proper : ∀ cut ∈ cuts, ∃ rest, rest ≠ [] ∧ content ++ [typeEndContainer] = cut ++ rest
  cut : ∀ start rest, content ++ [typeEndContainer] = start ++ rest → rest ≠ [] →
    ∀ fuel, 2 * start.length + 2 ≤ fuel → (start ∈ cuts ∧ ∃ elements, Ends (readContainer fuel) start elements) ∨
      (start ∉ cuts ∧ Starves truncated (readContainer fuel) start)

theorem hasMore_eq {reader : TlvReader} (starts : reader.remaining = input) :
    hasMore reader = .ok (decide (input ≠ []), reader) := by
  have more : reader.offset < reader.tokens.length ↔ input ≠ [] := by
    rw [← starts, Cursor.remaining, ne_eq, List.drop_eq_nil_iff, not_le]
  unfold hasMore
  simp only [more]

/-- The loop of a container returns at the end of the bytes. -/
theorem ends_container (positive : fuel ≠ 0) : Ends (readContainer fuel) [] [] := by
  obtain ⟨fuel, rfl⟩ := Nat.exists_eq_add_one_of_ne_zero positive
  intro reader inside starts
  rw [readContainer, run_bind, hasMore_eq starts]
  rfl

/-- One turn of the loop that starts inside the bytes. -/
def readTurn (fuel : Nat) : Read (List Element) := do
  let element ← readElement fuel
  match element with
  | .finish => return []
  | .item tag value elementType => do
      let elements ← readContainer fuel
      return .item tag value elementType :: elements

theorem readContainer_more (more : input ≠ []) {reader : TlvReader}
    (starts : reader.remaining = input) : readContainer (fuel + 1) reader = readTurn fuel reader := by
  rw [readContainer, run_bind, hasMore_eq starts, decide_eq_true more]
  rfl

theorem starves_container (more : input ≠ [])
    (starves : Starves truncated (readTurn fuel) input) : Starves truncated (readContainer (fuel + 1)) input := by
  intro reader inside starts
  rw [readContainer_more more starts]
  exact starves reader inside starts

theorem ends_turn {elements : List Element} (more : input ≠ [])
    (ends : Ends (readTurn fuel) input elements) : Ends (readContainer (fuel + 1)) input elements := by
  intro reader inside starts
  rw [readContainer_more more starts]
  exact ends reader inside starts

theorem Contents.nil : Contents [] (contentCuts []) where
  reads := ⟨[], Contains.nil⟩
  proper := by
    intro cut member
    rw [contentCuts, List.mem_singleton] at member
    subst member
    exact ⟨[typeEndContainer], List.cons_ne_nil _ _, rfl⟩
  cut := by
    intro start rest split nonempty fuel enough
    have empty : start = [] := by
      cases start with
      | nil => rfl
      | cons first later => simp at split; exact absurd split.2.2 nonempty
    subst empty
    exact Or.inl ⟨List.mem_singleton_self _, [], ends_container (by omega)⟩

theorem Contents.cons {bytes content : List UInt8} {inner : List (List UInt8)}
    {members : List (List UInt8 × List (List UInt8))} (member : Member bytes inner)
    (contents : Contents content (contentCuts members)) :
    Contents (bytes ++ content) (contentCuts ((bytes, inner) :: members)) where
  reads := by
    obtain ⟨tag, value, elementType, reads⟩ := member.reads
    obtain ⟨elements, contains⟩ := contents.reads
    exact ⟨_, contains.cons member.nonempty reads⟩
  proper := by
    intro cut inside
    rw [contentCuts, List.cons_append, List.mem_cons, List.mem_append, List.mem_map] at inside
    rcases inside with rfl | early | ⟨later, deep, rfl⟩
    · exact ⟨bytes ++ content ++ [typeEndContainer], by simp, rfl⟩
    · obtain ⟨_, rest, _, same⟩ := member.proper cut early
      exact ⟨rest ++ content ++ [typeEndContainer], by simp, by simp [same]⟩
    · obtain ⟨rest, nonempty, same⟩ := contents.proper later deep
      exact ⟨rest, nonempty, by rw [List.append_assoc, same, List.append_assoc]⟩
  cut := by
    intro start rest split nonempty fuel enough
    obtain ⟨fuel, rfl⟩ := Nat.exists_eq_add_one_of_ne_zero (show fuel ≠ 0 by omega)
    rw [contentCuts, List.cons_append, List.mem_cons, List.mem_append, List.mem_map]
    by_cases empty : start = []
    · subst empty
      exact Or.inl ⟨Or.inl rfl, [], ends_container (by omega)⟩
    rw [List.append_assoc] at split
    rcases split_append split with ⟨missing, same, cut⟩ | ⟨later, rfl, same⟩
    · -- The cut is inside the first member.
      rcases member.cut start missing same cut fuel (by omega) with ⟨early, tag, value, elementType, ends⟩ | ⟨late, starves⟩
      · refine Or.inl ⟨Or.inr (Or.inl early), [.item tag value elementType], ends_turn empty ?_⟩
        have last : Ends (readContainer fuel) [] [] := ends_container (by omega)
        exact ends.bind (last.map fun elements => Element.item tag value elementType :: elements)
      · refine Or.inr ⟨?_, starves_container empty (starves.bind _)⟩
        rintro (nil | early | ⟨later, _, longer⟩)
        · exact empty nil
        · exact late early
        · have sizes := congrArg List.length same
          have positive := List.length_pos_iff.mpr cut
          rw [← longer, List.length_append, List.length_append] at sizes
          omega
    · -- The first member is complete.
      obtain ⟨tag, value, elementType, reads⟩ := member.reads
      have size := List.length_pos_iff.mpr member.nonempty
      rw [List.length_append] at enough
      have first := reads fuel (by omega)
      rcases contents.cut later rest same nonempty fuel (by omega) with ⟨deep, elements, ends⟩ | ⟨outside, starves⟩
      · refine Or.inl ⟨Or.inr (Or.inr ⟨later, deep, rfl⟩), .item tag value elementType :: elements, ends_turn empty ?_⟩
        exact first.ends_bind (ends.map fun elements => Element.item tag value elementType :: elements)
      · refine Or.inr ⟨?_, starves_container empty (first.starves (starves.bind _))⟩
        rintro (nil | early | ⟨other, deep, equal⟩)
        · exact empty nil
        · obtain ⟨_, missing, cut, same⟩ := member.proper _ early
          have sizes := congrArg List.length same
          have positive := List.length_pos_iff.mpr cut
          rw [List.length_append, List.length_append] at sizes
          omega
        · exact outside (List.append_cancel_left equal ▸ deep)

/-- A container can be cut wherever its contents can. -/
theorem Member.of_contents {content : List UInt8} {inner : List (List UInt8)} {convert : List Element → JsValue}
    (small : elementType.toNat < 32) (converts : ∀ container tag, readBody container tag elementType =
      container >>= fun elements => Pure.pure (Element.item tag (convert elements) elementType))
    (contents : Contents content inner) : Member (writeHead tag elementType ++ content ++ [typeEndContainer])
      (inner.map (writeHead tag elementType ++ ·)) where
  nonempty := by simp
  reads := by
    obtain ⟨elements, contains⟩ := contents.reads
    refine ⟨readBackTag tag, convert elements, elementType, fun fuel enough => ?_⟩
    obtain ⟨fuel, rfl⟩ := Nat.exists_eq_add_one_of_ne_zero (Nat.ne_of_gt (Nat.zero_lt_of_lt enough))
    have head := List.length_pos_iff.mpr (writeHead_ne_nil tag elementType)
    rw [List.length_append, List.length_append, List.length_singleton] at enough
    rw [List.append_assoc]
    apply reads_element small
    rw [converts]
    exact (contains fuel (by omega)).map fun elements => Element.item (readBackTag tag) (convert elements) elementType
  proper := by
    intro cut member
    obtain ⟨early, inside, rfl⟩ := List.mem_map.mp member
    obtain ⟨rest, nonempty, same⟩ := contents.proper early inside
    refine ⟨List.append_ne_nil_of_left_ne_nil (writeHead_ne_nil tag elementType) early, rest, nonempty, ?_⟩
    rw [List.append_assoc, same, List.append_assoc]
  cut := by
    intro start rest split nonempty fuel enough
    obtain ⟨fuel, rfl⟩ := Nat.exists_eq_add_one_of_ne_zero (show fuel ≠ 0 by omega)
    rw [List.append_assoc] at split
    rcases cut_element small split fuel with ⟨starves, outside⟩ | ⟨early, rfl, same⟩
    · refine Or.inr ⟨?_, starves⟩
      intro member
      obtain ⟨early, _, equal⟩ := List.mem_map.mp member
      exact outside early equal.symm
    · have head := List.length_pos_iff.mpr (writeHead_ne_nil tag elementType)
      rw [List.length_append] at enough
      rcases contents.cut early rest same nonempty fuel (by omega) with ⟨inside, elements, ends⟩ | ⟨outside, starves⟩
      · refine Or.inl ⟨List.mem_map_of_mem inside, readBackTag tag, convert elements, elementType, ?_⟩
        apply ends_element small
        rw [converts]
        exact ends.map fun elements => Element.item (readBackTag tag) (convert elements) elementType
      · refine Or.inr ⟨?_, ?_⟩
        · intro member
          obtain ⟨other, inside, equal⟩ := List.mem_map.mp member
          exact outside (List.append_cancel_left equal ▸ inside)
        · apply starves_element small
          rw [converts]
          exact starves.bind _

end Members

section Bodies
variable {tag : Option ℤ} {size : Nat}

theorem length_writeUint (value : JsInteger) (width : size ≤ 4 ∨ size = 8) :
    (writeUint value size).length = size := by
  unfold writeUint
  split
  · rw [List.length_map, List.length_range]
  · simp only [List.length_append, List.length_map, List.length_range]
    omega

/-- The width of a size class. -/
theorem width_class (bound : size ≤ 3) : 2 ^ size ≤ 4 ∨ 2 ^ size = 8 := by
  interval_cases size <;> decide

theorem signedClass_le (value : JsInteger) (type : Option String) : signedClass value type ≤ 3 := by
  unfold signedClass
  split
  · decide
  · split
    · decide
    · split <;> decide

theorem member_signed (bound : size ≤ 3) (value : JsInteger) :
    Member (writeHead tag (typeSignedInt + UInt8.ofNat size) ++ writeUint value (2 ^ size)) [] := by
  have takes := takes_readInt (length_writeUint value (width_class bound)) (width_class bound)
  obtain ⟨result, _, reads⟩ := takes.reads
  have body (container : Read (List Element)) :
      readBody container (readBackTag tag) (typeSignedInt + UInt8.ofNat size) = readInt (2 ^ size) >>= fun value =>
        pure (.item (readBackTag tag) (.whole value) (typeSignedInt + UInt8.ofNat size)) := by
    interval_cases size <;> rfl
  refine Member.of_body ?_ ⟨.whole result, fun container => ?_⟩ fun container => ?_
  · exact toNat_class (show 0 + size < 32 by omega)
  · rw [body]
    exact reads.map fun value => Element.item (readBackTag tag) (.whole value) (typeSignedInt + UInt8.ofNat size)
  · rw [body]
    exact takes.demands.map fun value => Element.item (readBackTag tag) (.whole value) (typeSignedInt + UInt8.ofNat size)

theorem member_unsigned (bound : size ≤ 3) (value : JsInteger) :
    Member (writeHead tag (typeUnsignedInt + UInt8.ofNat size) ++ writeUint value (2 ^ size)) [] := by
  have takes := takes_readUint (length_writeUint value (width_class bound)) (width_class bound)
  obtain ⟨result, _, reads⟩ := takes.reads
  have body (container : Read (List Element)) :
      readBody container (readBackTag tag) (typeUnsignedInt + UInt8.ofNat size) = readUint (2 ^ size) >>= fun value =>
        pure (.item (readBackTag tag) (.whole value) (typeUnsignedInt + UInt8.ofNat size)) := by
    interval_cases size <;> rfl
  refine Member.of_body ?_ ⟨.whole result, fun container => ?_⟩ fun container => ?_
  · exact toNat_class (show 4 + size < 32 by omega)
  · rw [body]
    exact reads.map fun value => Element.item (readBackTag tag) (.whole value) (typeUnsignedInt + UInt8.ofNat size)
  · rw [body]
    exact takes.demands.map fun value => Element.item (readBackTag tag) (.whole value) (typeUnsignedInt + UInt8.ofNat size)

theorem member_double (bits : BitVec 64) : Member (writeHead tag typeDouble ++ doubleBytes bits) [] := by
  have size : (doubleBytes bits).length = 8 := by simp [doubleBytes]
  have takes := takes_readBytes (doubleBytes bits)
  have reads := reads_readBytes (doubleBytes bits)
  rw [size] at takes reads
  have body (container : Read (List Element)) (tag : Option ℤ) : readBody container tag typeDouble =
      readBytes 8 >>= fun bytes => pure (.item tag (.number (decodeFloatLE bytes true)) typeDouble) := rfl
  refine Member.of_body (by decide) ⟨.number (decodeFloatLE (doubleBytes bits) true), fun container => ?_⟩ fun container => ?_
  · rw [body]
    exact reads.map fun bytes => Element.item (readBackTag tag) (.number (decodeFloatLE bytes true)) typeDouble
  · rw [body]
    exact takes.demands.map fun bytes => Element.item (readBackTag tag) (.number (decodeFloatLE bytes true)) typeDouble

/-- An element without a body ends with its head. -/
theorem member_plain {elementType : UInt8} (small : elementType.toNat < 32) (value : JsValue)
    (body : ∀ container, readBody container (readBackTag tag) elementType =
      pure (.item (readBackTag tag) value elementType)) : Member (writeHead tag elementType) [] := by
  rw [← List.append_nil (writeHead tag elementType)]
  refine Member.of_body small ⟨value, fun container => ?_⟩ fun container => Demands.nil _
  rw [body]
  exact Reads.pure _

theorem takes_readLength (length : Nat) :
    Takes truncated (readLength (lengthClass length)) (lengthBytes length) fun _ => True := by
  have bound := lengthClass_le length
  unfold lengthBytes
  generalize lengthClass length = size at *
  interval_cases size
  · rw [readLength, if_pos rfl, if_pos rfl]
    exact (takes_readByte _).map fun _ _ => trivial
  · rw [readLength, if_neg (by decide), if_pos rfl, if_neg (by decide), if_pos rfl]
    exact (takes_readUint (length_writeUint _ (Or.inl (by decide))) (Or.inl (by decide))).map fun _ _ => trivial
  · rw [readLength, if_neg (by decide), if_neg (by decide), if_pos rfl, if_neg (by decide), if_neg (by decide)]
    exact (takes_readUint (length_writeUint _ (Or.inl (by decide))) (Or.inl (by decide))).map fun _ _ => trivial

/-- A string throws when its length or its bytes are cut. -/
theorem demands_counted {content : List UInt8} (short : content.length < 2 ^ 32) (convert : List UInt8 → JsValue)
    (elementType : UInt8) : Demands truncated (do
      let length ← readLength (lengthClass content.length)
      let bytes ← readBytes length
      return Element.item (readBackTag tag) (convert bytes) elementType) (lengthBytes content.length ++ content) := by
  apply (takes_readLength content.length).demands.bind (reads_readLength short)
  exact (takes_readBytes content).demands.map fun bytes => Element.item (readBackTag tag) (convert bytes) elementType

theorem member_text {content : List UInt8} (short : content.length < 2 ^ 32) :
    Member (writeCounted tag typeUtf8String content) [] := by
  rw [writeCounted, List.append_assoc]
  refine Member.of_body (toNat_counted (by decide) content.length)
    ⟨.string (Utf8.decode content), fun container => reads_text container _ short⟩ fun container => ?_
  have demands := @demands_counted tag content short (fun bytes => .string (Utf8.decode bytes))
    (typeUtf8String + UInt8.ofNat (lengthClass content.length))
  change Demands truncated _ (lengthBytes content.length ++ content)
  have bound := lengthClass_le content.length
  generalize lengthClass content.length = size at *
  interval_cases size <;> exact demands

theorem member_octets {content : List UInt8} (short : content.length < 2 ^ 32) :
    Member (writeCounted tag typeOctetString content) [] := by
  rw [writeCounted, List.append_assoc]
  refine Member.of_body (toNat_counted (by decide) content.length)
    ⟨.bytes content, fun container => reads_octets container _ short⟩ fun container => ?_
  have demands := @demands_counted tag content short JsValue.bytes
    (typeOctetString + UInt8.ofNat (lengthClass content.length))
  change Demands truncated _ (lengthBytes content.length ++ content)
  have bound := lengthClass_le content.length
  generalize lengthClass content.length = size at *
  interval_cases size <;> exact demands

end Bodies

section Values
variable (toNumber : JsValue → JsNumber)

/-- The elements of a value are cut as the prefixes of the value say. -/
def Cuttable (value : JsValue) : Prop :=
  ∀ tag type bytes, writeElement toNumber tag type value = .ok bytes → Member bytes (cuts toNumber tag type value)

variable {toNumber}

theorem encoded_eq {tag : Option ℤ} {value : JsValue} {bytes : List UInt8}
    (written : writeElement toNumber tag none value = .ok bytes) : encoded toNumber tag value = bytes := by
  rw [encoded, written]

theorem contents_items {items : List JsValue} (each : ∀ item ∈ items, Cuttable toNumber item) {content : List UInt8}
    (written : writeElements toNumber items = .ok content) :
    Contents content (contentCuts (itemMembers toNumber items)) := by
  induction items generalizing content with
  | nil =>
      cases written
      exact Contents.nil
  | cons item rest ih =>
      rw [writeElements] at written
      obtain ⟨first, firstWritten, written⟩ := ok_of_bind written
      obtain ⟨later, laterWritten, written⟩ := ok_of_bind written
      cases written
      have contents := ih (fun item member => each item (List.mem_cons_of_mem _ member)) laterWritten
      rw [itemMembers, encoded_eq firstWritten]
      exact Contents.cons (each item List.mem_cons_self none none first firstWritten) contents

theorem contents_properties {properties : Properties} (each : ∀ property ∈ properties, Cuttable toNumber property.2)
    {content : List UInt8} (written : writeProperties toNumber properties = .ok content) :
    Contents content (contentCuts (propertyMembers toNumber properties)) := by
  induction properties generalizing content with
  | nil =>
      cases written
      exact Contents.nil
  | cons property rest ih =>
      obtain ⟨key, value⟩ := property
      have later {content : List UInt8} := @ih (fun property member => each property (List.mem_cons_of_mem _ member)) content
      rw [writeProperties] at written
      rw [propertyMembers]
      cases tagged : parseInt key.text with
      | none =>
          rw [tagged] at written
          obtain ⟨_, skipped, written⟩ := ok_of_bind written
          cases skipped
          obtain ⟨content, laterWritten, written⟩ := ok_of_bind written
          cases written
          exact later laterWritten
      | some fieldTag =>
          rw [tagged] at written
          obtain ⟨first, firstWritten, written⟩ := ok_of_bind written
          obtain ⟨content, laterWritten, written⟩ := ok_of_bind written
          cases written
          dsimp only
          rw [encoded_eq firstWritten]
          have member := each (key, value) List.mem_cons_self (some fieldTag) none first firstWritten
          exact Contents.cons member (later laterWritten)

/-- Every value can be cut as its prefixes say, by induction on the value. -/
theorem cuttable {value : JsValue} (short : Short value) : Cuttable toNumber value := by
  induction short with
  | undefined | null =>
      intro tag type bytes written
      cases written
      exact member_plain (by decide) .null fun _ => rfl
  | boolean value =>
      intro tag type bytes written
      cases written
      cases value with
      | false => exact member_plain (by decide) (.boolean false) fun _ => rfl
      | true => exact member_plain (by decide) (.boolean true) fun _ => rfl
  | number value =>
      intro tag type bytes written
      cases value with
      | fraction bits =>
          cases written
          exact member_double bits
      | integral value =>
          cases written
          split
          · exact member_signed (signedClass_le value type) value
          · exact member_unsigned (unsignedClass_le value type) value
  | string short =>
      intro tag type bytes written
      cases written
      exact member_text short
  | bytes short =>
      intro tag type bytes written
      cases written
      exact member_octets short
  | @array items short each ih =>
      intro tag type bytes written
      rw [writeElement] at written
      rw [cuts]
      split at written
      · rename_i octets
        cases written
        rw [if_pos octets]
        exact member_octets (by rwa [List.length_map])
      · rename_i notOctets
        obtain ⟨content, inside, written⟩ := ok_of_bind written
        cases written
        rw [if_neg notOctets]
        exact Member.of_contents (by decide) (fun _ _ => rfl) (contents_items ih inside)
  | object each ih =>
      intro tag type bytes written
      rw [writeElement] at written
      obtain ⟨content, inside, written⟩ := ok_of_bind written
      cases written
      rw [cuts]
      exact Member.of_contents (by decide) (fun _ _ => rfl) (contents_properties ih inside)
  | function =>
      intro tag type bytes written
      cases written

end Values

theorem encode_ne_nil {bytes : List UInt8} (nonempty : bytes ≠ []) : Base64.encode bytes ≠ [] := by
  match bytes with
  | [] => exact absurd rfl nonempty
  | [_] => exact List.cons_ne_nil _ _
  | [_, _] => exact List.cons_ne_nil _ _
  | _ :: _ :: _ :: _ => exact List.cons_ne_nil _ _

/-- A text that is not empty is decoded by the reader. -/
theorem decode_base64 {bytes : List UInt8} (nonempty : bytes ≠ []) :
    decode (some (Base64.encode bytes)) = (readFresh bytes >>= fun read => .ok read.1.value) := by
  obtain ⟨unit, later, text⟩ := List.exists_cons_of_ne_nil (encode_ne_nil nonempty)
  have back := Base64.decode_encode bytes
  rw [text] at back ⊢
  unfold decode
  dsimp only
  rw [back]
  change (if bytes.length = 0 then _ else _) = _
  rw [if_neg fun empty => nonempty (List.length_eq_zero_iff.mp empty)]
  rfl

/-- For a value whose texts fit into the length bytes, `decode` throws on a nonempty proper prefix of the encoding
exactly when the prefix does not end at a boundary inside open containers. -/
theorem truncated_throws_iff {toNumber : JsValue → JsNumber} {value : JsValue} {tag : Option ℤ} {type : Option String}
    {bytes start rest : List UInt8} (written : writeElement toNumber tag type value = .ok bytes) (short : Short value)
    (split : bytes = start ++ rest) (nonempty : start ≠ []) (proper : rest ≠ []) :
    (∃ message, decode (some (Base64.encode start)) = .error (.thrown message)) ↔ start ∉ cuts toNumber tag type value := by
  have member := cuttable short tag type bytes written
  rw [decode_base64 nonempty]
  have fresh : (⟨start, 0⟩ : TlvReader).remaining = start := rfl
  rcases member.cut start rest split proper (enoughFuel start) (Nat.le_refl _) with
    ⟨inside, tag, value, elementType, ends⟩ | ⟨outside, starves⟩
  · have returned := ends ⟨start, 0⟩ (Nat.zero_le _) fresh
    constructor
    · rintro ⟨message, thrown⟩
      rw [readFresh, returned] at thrown
      cases thrown
    · exact fun outside => absurd inside outside
  · refine ⟨fun _ => outside, fun _ => ⟨unexpectedEnd, ?_⟩⟩
    rw [readFresh, starves ⟨start, 0⟩ (Nat.zero_le _) fresh]
    rfl

/-- The array of the number 1 is encoded in four bytes, and two of them are no cut. -/
theorem truncated_throws_iff_sample : (∃ message, decode (some (Base64.encode [0x16, 0x04])) = .error (.thrown message)) ↔
    [0x16, 0x04] ∉ cuts (fun _ => .integral (.finite 0)) none none (.array [.whole 1]) :=
  @truncated_throws_iff _ (.array [.whole 1]) none none [0x16, 0x04, 0x01, 0x18] [0x16, 0x04] [0x01, 0x18] rfl
    (.array (by decide) fun item member => by rw [List.mem_singleton.mp member]; exact .number _) rfl (by decide) (by decide)

/-- The array of the number 1 is read back as the empty array after its first byte. -/
theorem not_truncated_throws : ¬ ∀ (toNumber : JsValue → JsNumber) (value : JsValue) (bytes start rest : List UInt8),
    writeElement toNumber none none value = .ok bytes → bytes = start ++ rest → start ≠ [] → rest ≠ [] →
      ∃ message, decode (some (Base64.encode start)) = .error (.thrown message) := by
  intro claim
  obtain ⟨message, thrown⟩ := claim (fun _ => .integral (.finite 0)) (.array [.whole 1]) [0x16, 0x04, 0x01, 0x18] [0x16]
    [0x04, 0x01, 0x18] rfl rfl (by decide) (by decide)
  rw [decode_base64 (by decide)] at thrown
  cases thrown

end Barton.Tlv
