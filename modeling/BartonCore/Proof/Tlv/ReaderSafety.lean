import BartonCore.Construction.Tlv.Scripted

namespace Barton.Tlv
open Parsing Scripts
open Scripted (Call)

section Runs

/-- The loop goes on after an element that is not the end marker. -/
def afterElement (fuel : Nat) : Element → Scripted.Read (List Element)
  | .finish => pure []
  | .item tag value elementType => Scripted.readElements fuel >>= fun elements =>
      pure (.item tag value elementType :: elements)

theorem readElements_step (fuel : Nat) : Scripted.readElements (fuel + 1) = Scripted.hasMore >>= fun more =>
    if more then Scripted.readElement fuel >>= afterElement fuel else pure [] := by
  rw [Scripted.readElements]
  rfl

theorem run_throwNew {Value : Type} (message : JsString) :
    (Scripted.throwNew message : Scripted.Read Value).run = fun _ => throwNew message := rfl

theorem run_readByte : Scripted.readByte.run = readByte := by
  funext reader
  rw [Scripted.readByte, Script.run_take, readByte]
  by_cases outside : reader.offset + 1 > reader.tokens.length
  · rw [if_pos outside, List.getElem?_eq_none (Nat.le_of_lt_succ outside)]
    rfl
  · have inside : reader.offset < reader.tokens.length :=
      Nat.lt_of_lt_of_le (Nat.lt_succ_self _) (Nat.le_of_not_lt outside)
    rw [if_neg outside, List.getElem?_eq_getElem inside, Cursor.remaining, List.drop_eq_getElem_cons inside]
    rfl

theorem run_readBytes (count : Nat) : (Scripted.readBytes count).run = readBytes count := rfl

theorem run_hasMore : Scripted.hasMore.run = hasMore := rfl

theorem run_readShifted (value : BitVec 32) (i count : Nat) :
    (Scripted.readShifted value i count).run = readShifted value i count := by
  induction count generalizing value i with
  | zero => rfl
  | succ count ih =>
      rw [Scripted.readShifted, readShifted, Script.run_bind, run_readByte]
      simp only [ih]

theorem run_readWord (size : Nat) : (Scripted.readWord size).run = readWord size := by
  rw [Scripted.readWord, readWord, Script.run_bind, run_readShifted]
  rfl

theorem run_readUint (size : Nat) : (Scripted.readUint size).run = readUint size := by
  rw [Scripted.readUint, readUint]
  split_ifs
  · exact run_readWord size
  · simp only [Script.run_bind, run_readWord, Script.run_pure]

theorem run_readInt (size : Nat) : (Scripted.readInt size).run = readInt size := by
  rw [Scripted.readInt, readInt]
  split_ifs <;> simp only [Script.run_bind, run_readUint, Script.run_pure]

theorem run_readLength (sizeIndicator : Nat) : (Scripted.readLength sizeIndicator).run = readLength sizeIndicator := by
  rw [Scripted.readLength, readLength]
  split_ifs <;> simp only [Script.run_bind, run_readByte, run_readUint, Script.run_pure, run_throwNew]

theorem run_readTag (tagForm : UInt8) : (Scripted.readTag tagForm).run = readTag tagForm := by
  rw [Scripted.readTag, readTag]
  split_ifs <;> simp only [Script.run_bind, run_readByte, run_readUint, Script.run_pure]

theorem run_ite {Value : Type} {condition : Prop} [Decidable condition] {first second : Scripted.Read Value}
    {one two : Read Value} (then_run : first.run = one) (else_run : second.run = two) :
    (if condition then first else second).run = if condition then one else two := by
  by_cases holds : condition
  · rw [if_pos holds, if_pos holds, then_run]
  · rw [if_neg holds, if_neg holds, else_run]

theorem run_map {Value Result : Type} {script : Scripted.Read Value} {parser : Read Value}
    (same : script.run = parser) (convert : Value → Result) :
    (script >>= fun value => pure (convert value)).run = parser >>= fun value => pure (convert value) := by
  rw [Script.run_bind, same]
  rfl

theorem run_readBody {scripted : Scripted.Read (List Element)} {container : Read (List Element)}
    (same : scripted.run = container) (tag : Option ℤ) (elementType : UInt8) :
    (Scripted.readBody scripted tag elementType).run = readBody container tag elementType := by
  have counted {Result : Type} (sizeIndicator : Nat) (convert : List UInt8 → Result) :
      (Scripted.readLength sizeIndicator >>= fun length => Scripted.readBytes length >>= fun bytes =>
        pure (convert bytes)).run =
      readLength sizeIndicator >>= fun length => readBytes length >>= fun bytes => pure (convert bytes) := by
    rw [Script.run_bind, run_readLength]
    congr 1
    funext length
    exact run_map (run_readBytes length) convert
  rw [Scripted.readBody, readBody]
  refine run_ite (run_map (run_readInt _) _) (run_ite (run_map (run_readUint _) _) (run_ite rfl (run_ite rfl ?_)))
  refine run_ite (run_map (run_readBytes _) _) (run_ite (run_map (run_readBytes _) _) ?_)
  refine run_ite (counted _ _) (run_ite (counted _ _) (run_ite rfl ?_))
  refine run_ite (run_map same _) (run_ite (run_map same _) (run_ite (run_map same _) (run_ite rfl ?_)))
  exact run_throwNew _

/-- The scripts behave as the reader. -/
theorem run_reader (fuel : Nat) : (Scripted.readElement fuel).run = readElement fuel ∧
    (Scripted.readElements fuel).run = readContainer fuel := by
  induction fuel with
  | zero =>
      rw [Scripted.readElement, Scripted.readElements, readElement, readContainer]
      exact ⟨rfl, rfl⟩
  | succ fuel ih =>
      obtain ⟨element, elements⟩ := ih
      have container : (Script.enter Call.container (Scripted.readElements fuel)).run = readContainer fuel := elements
      have turn (next : Element) : (afterElement fuel next).run = match next with
          | .finish => (pure [] : Read (List Element))
          | .item tag value elementType => do
              let elements ← readContainer fuel
              return .item tag value elementType :: elements := by
        cases next with
        | finish => rfl
        | item tag value elementType => exact run_map elements _
      constructor
      · rw [Scripted.readElement, readElement, Script.run]
        simp only [Script.run_bind, run_readByte, run_readTag, run_readBody container]
      · rw [readElements_step, readContainer, Script.run_bind, run_hasMore]
        congr 1
        funext more
        cases more with
        | false => rfl
        | true =>
            rw [if_pos rfl, if_pos rfl, Script.run_bind, element]
            congr 1
            funext next
            exact turn next

end Runs

section Plain
open Script (Plain)

theorem plain_throwNew {Value : Type} (message : JsString) :
    (Scripted.throwNew message : Scripted.Read Value).Plain .exhausted := fun same => by cases same

theorem plain_readByte : Scripted.readByte.Plain .exhausted := by
  refine ⟨fun same => (by cases same), fun bytes => ?_⟩
  cases bytes with
  | nil => exact plain_throwNew _
  | cons byte rest => exact trivial

theorem plain_readBytes (count : Nat) : (Scripted.readBytes count).Plain .exhausted :=
  ⟨fun same => (by cases same), fun _ => trivial⟩

theorem plain_readShifted (value : BitVec 32) (i count : Nat) :
    (Scripted.readShifted value i count).Plain .exhausted := by
  induction count generalizing value i with
  | zero => exact Plain.pure value
  | succ count ih => exact plain_readByte.bind fun byte => ih _ _

theorem plain_readWord (size : Nat) : (Scripted.readWord size).Plain .exhausted :=
  (plain_readShifted 0 0 size).bind fun _ => Plain.pure _

theorem plain_readUint (size : Nat) : (Scripted.readUint size).Plain .exhausted := by
  rw [Scripted.readUint]
  split_ifs
  · exact plain_readWord size
  · exact (plain_readWord 4).bind fun low => (plain_readWord 4).bind fun high => Plain.pure _

theorem plain_readInt (size : Nat) : (Scripted.readInt size).Plain .exhausted := by
  rw [Scripted.readInt]
  split_ifs
  · exact (plain_readUint size).bind fun value => Plain.pure _
  · exact (plain_readUint 4).bind fun low => (plain_readUint 4).bind fun high => Plain.pure _

theorem plain_readLength (sizeIndicator : Nat) : (Scripted.readLength sizeIndicator).Plain .exhausted := by
  rw [Scripted.readLength]
  split_ifs
  · exact plain_readByte.bind fun length => Plain.pure _
  · exact (plain_readUint 2).bind fun length => Plain.pure _
  · exact (plain_readUint 4).bind fun length => Plain.pure _
  · exact plain_throwNew _

theorem plain_readTag (tagForm : UInt8) : (Scripted.readTag tagForm).Plain .exhausted := by
  have qualified (size : Nat) : (Scripted.readUint 2 >>= fun _ => Scripted.readUint 2 >>= fun _ =>
      Scripted.readUint size >>= fun tag => pure (some tag)).Plain .exhausted :=
    (plain_readUint 2).bind fun _ => (plain_readUint 2).bind fun _ => (plain_readUint size).bind fun _ => Plain.pure _
  rw [Scripted.readTag]
  split_ifs
  · exact plain_readByte.bind fun tag => Plain.pure _
  · exact (plain_readUint 2).bind fun tag => Plain.pure _
  · exact (plain_readUint 4).bind fun tag => Plain.pure _
  · exact qualified 2
  · exact qualified 4
  · exact Plain.pure none

/-- The body of an element calls its container once, at the start, or not at all. -/
def OneCall (body : Scripted.Read (List Element) → Scripted.Read Element) : Prop :=
  (∃ script : Scripted.Read Element, script.Plain .exhausted ∧ ∀ container, body container = script) ∨
    ∃ convert : List Element → Element,
      ∀ container, body container = container >>= fun elements => pure (convert elements)

theorem OneCall.plain {script : Scripted.Read Element} (plain : script.Plain .exhausted) : OneCall fun _ => script :=
  Or.inl ⟨script, plain, fun _ => rfl⟩

theorem OneCall.call (convert : List Element → Element) :
    OneCall fun container => container >>= fun elements => pure (convert elements) :=
  Or.inr ⟨convert, fun _ => rfl⟩

theorem OneCall.ite {condition : Prop} [Decidable condition]
    {first second : Scripted.Read (List Element) → Scripted.Read Element}
    (one : OneCall first) (two : OneCall second) :
    OneCall fun container => if condition then first container else second container := by
  by_cases holds : condition
  · simp only [if_pos holds]
    exact one
  · simp only [if_neg holds]
    exact two

theorem readBody_oneCall (tag : Option ℤ) (elementType : UInt8) :
    OneCall fun container => Scripted.readBody container tag elementType := by
  have counted (sizeIndicator : Nat) (convert : List UInt8 → Element) :
      (Scripted.readLength sizeIndicator >>= fun length => Scripted.readBytes length >>= fun bytes =>
        pure (convert bytes)).Plain .exhausted :=
    (plain_readLength sizeIndicator).bind fun length => (plain_readBytes length).bind fun bytes => Plain.pure _
  refine .ite (.plain ((plain_readInt _).bind fun value => Plain.pure _)) ?_
  refine .ite (.plain ((plain_readUint _).bind fun value => Plain.pure _)) ?_
  refine .ite (.plain (Plain.pure _)) (.ite (.plain (Plain.pure _)) ?_)
  refine .ite (.plain ((plain_readBytes 4).bind fun bytes => Plain.pure _)) ?_
  refine .ite (.plain ((plain_readBytes 8).bind fun bytes => Plain.pure _)) ?_
  refine .ite (.plain (counted _ _)) (.ite (.plain (counted _ _)) (.ite (.plain (Plain.pure _)) ?_))
  refine .ite (.call _) (.ite (.call _) (.ite (.call _) (.ite (.plain (Plain.pure _)) (.plain (plain_throwNew _)))))

end Plain

section Progress
variable {fuel : Nat} {reader after : TlvReader}

/-- The control byte and the tag come before the body of an element. -/
def elementHead : Scripted.Read (UInt8 × Option ℤ) := do
  let control ← Scripted.readByte
  let tag ← Scripted.readTag (control &&& 0xe0)
  return (control, tag)

theorem plain_elementHead : elementHead.Plain .exhausted :=
  plain_readByte.bind fun _ => (plain_readTag _).bind fun _ => Script.Plain.pure _

theorem readElement_head (fuel : Nat) : Scripted.readElement (fuel + 1) = .enter .element (elementHead >>= fun head =>
    Scripted.readBody (.enter .container (Scripted.readElements fuel)) head.2 (head.1 &&& 0x1f)) := by
  rw [Scripted.readElement, elementHead, Script.bind_assoc]
  simp only [Script.bind_assoc]
  rfl

/-- A sequence that returns goes through the value of its first step. -/
theorem run_sequence {Value Result : Type} {first : Read Value} {next : Value → Read Result} {result : Result}
    (ran : (first >>= next) reader = .ok (result, after)) :
    ∃ value middle, first reader = .ok (value, middle) ∧ next value middle = .ok (result, after) := by
  obtain ⟨⟨value, middle⟩, begins, continues⟩ := ok_of_bind ran
  exact ⟨value, middle, begins, continues⟩

/-- A control byte is always consumed. -/
theorem elementHead_progress {head : UInt8 × Option ℤ} (ran : elementHead.run reader = .ok (head, after)) :
    after.tokens = reader.tokens ∧ reader.offset < after.offset ∧ after.offset ≤ reader.tokens.length := by
  rw [elementHead, Script.run_bind, run_readByte] at ran
  obtain ⟨control, middle, first, second⟩ := run_sequence ran
  rw [readByte] at first
  cases there : reader.tokens[reader.offset]? with
  | none =>
      rw [there] at first
      cases first
  | some byte =>
      rw [there] at first
      cases first
      have inside : reader.offset < reader.tokens.length := (List.getElem?_eq_some_iff.mp there).1
      have moved : (reader.advance 1).offset ≤ (reader.advance 1).tokens.length := inside
      obtain ⟨same, later, bound⟩ := Script.run_inside moved second
      exact ⟨same, later, bound⟩

/-- An element that is read takes at least its control byte. -/
theorem readElement_progress {element : Element} (ran : (Scripted.readElement fuel).run reader = .ok (element, after)) :
    after.tokens = reader.tokens ∧ reader.offset < after.offset ∧ after.offset ≤ reader.tokens.length := by
  cases fuel with
  | zero =>
      rw [Scripted.readElement] at ran
      cases ran
  | succ fuel =>
      rw [readElement_head, Script.run, Script.run_bind] at ran
      obtain ⟨head, middle, first, second⟩ := run_sequence ran
      obtain ⟨same, later, bound⟩ := elementHead_progress first
      rw [← same] at bound
      obtain ⟨still, onward, inside⟩ := Script.run_inside bound second
      rw [same] at still inside
      exact ⟨still, later.trans_le onward, inside⟩

end Progress

section Termination
variable {reader : TlvReader}

/-- Two runs agree, and the fuel did not run out. -/
structure Settled {Value : Type} (one two : Except Failure (Value × TlvReader)) : Prop where
  same : one = two
  enough : one ≠ .error .exhausted

theorem Settled.bind {Value Result : Type} {one two : Read Value} {first second : Value → Read Result}
    (settled : Settled (one reader) (two reader))
    (later : ∀ value after, one reader = .ok (value, after) → Settled (first value after) (second value after)) :
    Settled ((one >>= first) reader) ((two >>= second) reader) := by
  rw [run_bind, run_bind, ← settled.same]
  cases ran : one reader with
  | error failure => exact ⟨rfl, fun same => settled.enough (ran.trans (congrArg _ (Except.error.inj same)))⟩
  | ok pair => exact later pair.1 pair.2 ran

theorem Settled.plain {Value : Type} {script : Scripted.Read Value} (plain : script.Plain .exhausted) :
    Settled (script.run reader) (script.run reader) :=
  ⟨rfl, plain.run reader⟩

theorem OneCall.settled {body : Scripted.Read (List Element) → Scripted.Read Element} (call : OneCall body)
    {one two : Scripted.Read (List Element)} (settled : Settled (one.run reader) (two.run reader)) :
    Settled ((body one).run reader) ((body two).run reader) := by
  rcases call with ⟨script, plain, same⟩ | ⟨convert, same⟩
  · rw [same one, same two]
    exact Settled.plain plain
  · rw [same one, same two, Script.run_bind, Script.run_bind]
    exact settled.bind fun value after _ => Settled.plain (Script.Plain.pure _)

/-- These are the bytes that the reader has not passed over. -/
def bytesLeft (reader : TlvReader) : Nat := reader.tokens.length - reader.offset

/-- This much fuel is enough for a container. -/
def ContainersSettled (fuel more : Nat) : Prop :=
  ∀ reader : TlvReader, reader.offset ≤ reader.tokens.length → 2 * bytesLeft reader + 1 ≤ fuel →
    Settled ((Scripted.readElements fuel).run reader) ((Scripted.readElements more).run reader)

theorem readElement_settled {fuel more : Nat} (enough : 2 * bytesLeft reader ≤ fuel + 1)
    (containers : ContainersSettled fuel more) :
    Settled ((Scripted.readElement (fuel + 1)).run reader) ((Scripted.readElement (more + 1)).run reader) := by
  rw [readElement_head, readElement_head, Script.run, Script.run, Script.run_bind, Script.run_bind]
  refine (Settled.plain plain_elementHead).bind fun head after ran => ?_
  obtain ⟨same, later, bound⟩ := elementHead_progress ran
  refine (readBody_oneCall head.2 (head.1 &&& 0x1f)).settled (containers after (same ▸ bound) ?_)
  unfold bytesLeft at enough ⊢
  rw [same]
  omega

theorem readElements_settled {fuel more : Nat} (enough : 2 * bytesLeft reader + 1 ≤ fuel + 1)
    (element : reader.offset < reader.tokens.length →
      Settled ((Scripted.readElement fuel).run reader) ((Scripted.readElement more).run reader))
    (containers : ContainersSettled fuel more) :
    Settled ((Scripted.readElements (fuel + 1)).run reader) ((Scripted.readElements (more + 1)).run reader) := by
  rw [readElements_step, readElements_step, Script.run_bind, Script.run_bind, run_hasMore]
  refine Settled.bind ⟨rfl, fun same => (by cases same)⟩ fun left after ran => ?_
  cases ran
  by_cases there : reader.offset < reader.tokens.length
  · rw [decide_eq_true there, if_pos rfl, if_pos rfl, Script.run_bind, Script.run_bind]
    refine (element there).bind fun value after ran => ?_
    obtain ⟨same, later, bound⟩ := readElement_progress ran
    cases value with
    | finish => exact Settled.plain (Script.Plain.pure [])
    | item tag value elementType =>
        rw [afterElement, afterElement, Script.run_bind, Script.run_bind]
        refine (containers after (same ▸ bound) ?_).bind fun _ _ _ => Settled.plain (Script.Plain.pure _)
        unfold bytesLeft at enough ⊢
        rw [same]
        omega
  · rw [decide_eq_false there]
    exact Settled.plain (Script.Plain.pure [])

/-- More fuel than the bytes need changes nothing. -/
theorem reader_settled (fuel extra : Nat) :
    (∀ reader : TlvReader, reader.offset ≤ reader.tokens.length → 1 ≤ fuel → 2 * bytesLeft reader ≤ fuel →
      Settled ((Scripted.readElement fuel).run reader) ((Scripted.readElement (fuel + extra)).run reader)) ∧
    ContainersSettled fuel (fuel + extra) := by
  induction fuel with
  | zero =>
      refine ⟨fun reader _ positive => absurd positive (Nat.not_succ_le_zero 0), fun reader _ enough => ?_⟩
      exact absurd enough (Nat.not_succ_le_zero _)
  | succ fuel ih =>
      obtain ⟨elements, containers⟩ := ih
      rw [Nat.add_right_comm]
      constructor
      · intro reader _ _ enough
        exact readElement_settled enough containers
      · intro reader inside enough
        refine readElements_settled enough (fun there => ?_) containers
        refine elements reader inside ?_ (Nat.le_of_succ_le_succ enough)
        unfold bytesLeft at enough
        omega

end Termination

section Calls
variable {reader : TlvReader} {one two : List (Call × Nat)}

/-- A container starts after the control byte of the element that calls it. -/
def StartsLater (caller call : Call × Nat) : Prop :=
  call.1 = .container → caller.1 = .element ∧ caller.2 < call.2

/-- An element comes first, and every container follows the element that calls it. -/
structure Nested (calls : List (Call × Nat)) : Prop where
  begins : ∀ call ∈ calls.head?, call.1 = .element
  later : calls.IsChain StartsLater

theorem Nested.nil : Nested [] := ⟨fun call member => absurd member (Option.not_mem_none call), List.IsChain.nil⟩

theorem Nested.append (first : Nested one) (second : Nested two) : Nested (one ++ two) := by
  constructor
  · intro call member
    cases one with
    | nil => exact second.begins call member
    | cons head rest => exact first.begins call member
  · refine List.isChain_append.mpr ⟨first.later, second.later, fun last _ head member container => ?_⟩
    rw [second.begins head member] at container
    cases container

theorem Nested.container {offset start : Nat} (after : offset < start) (inner : Nested one) :
    Nested ((Call.element, offset) :: (Call.container, start) :: one) := by
  refine ⟨fun call member => by rw [← Option.mem_some.mp member], ?_⟩
  refine List.isChain_cons_cons.mpr ⟨fun _ => ⟨rfl, after⟩, ?_⟩
  refine List.isChain_cons.mpr ⟨fun head member container => ?_, inner.later⟩
  rw [inner.begins head member] at container
  cases container

theorem OneCall.calls {body : Scripted.Read (List Element) → Scripted.Read Element} (call : OneCall body)
    (container : Scripted.Read (List Element)) :
    (body container).calls reader = [] ∨ (body container).calls reader = container.calls reader := by
  rcases call with ⟨script, plain, same⟩ | ⟨convert, same⟩
  · rw [same]
    exact Or.inl (plain.calls reader)
  · rw [same, Script.calls_bind]
    cases container.run reader with
    | error | ok => exact Or.inr (List.append_nil _)

theorem readElement_nested {fuel : Nat}
    (containers : ∀ reader : TlvReader, Nested ((Scripted.readElements fuel).calls reader)) :
    Nested ((Scripted.readElement (fuel + 1)).calls reader) := by
  rw [readElement_head, Script.calls, Script.calls_bind, plain_elementHead.calls, List.nil_append]
  have single : Nested [(Call.element, reader.offset)] :=
    ⟨fun call member => by rw [← Option.mem_some.mp member], List.isChain_singleton _⟩
  cases ran : elementHead.run reader with
  | error failure => exact single
  | ok pair =>
      obtain ⟨head, after⟩ := pair
      obtain ⟨_, later, _⟩ := elementHead_progress ran
      rcases (readBody_oneCall head.2 (head.1 &&& 0x1f)).calls
        (.enter .container (Scripted.readElements fuel)) with silent | called
      · exact (congrArg (List.cons _) silent) ▸ single
      · rw [Script.calls] at called
        change Nested (_ :: Script.calls _ after)
        rw [called]
        exact Nested.container later (containers after)

theorem readElements_nested {fuel : Nat}
    (elements : ∀ reader : TlvReader, Nested ((Scripted.readElement fuel).calls reader))
    (containers : ∀ reader : TlvReader, Nested ((Scripted.readElements fuel).calls reader)) :
    Nested ((Scripted.readElements (fuel + 1)).calls reader) := by
  rw [readElements_step, Script.calls_bind]
  refine Nested.nil.append ?_
  change Nested ((if decide (reader.offset < reader.tokens.length) then
    Scripted.readElement fuel >>= afterElement fuel else pure []).calls reader)
  by_cases there : reader.offset < reader.tokens.length
  · rw [decide_eq_true there, if_pos rfl, Script.calls_bind]
    refine (elements reader).append ?_
    cases (Scripted.readElement fuel).run reader with
    | error failure => exact Nested.nil
    | ok pair =>
        obtain ⟨value, after⟩ := pair
        cases value with
        | finish => exact Nested.nil
        | item tag value elementType =>
            change Nested ((Scripted.readElements fuel >>= fun elements =>
              pure (.item tag value elementType :: elements)).calls after)
            rw [Script.calls_bind]
            refine (containers after).append ?_
            cases (Scripted.readElements fuel).run after with
            | error | ok => exact Nested.nil
  · rw [decide_eq_false there]
    exact Nested.nil

theorem reader_nested (fuel : Nat) : (∀ reader : TlvReader, Nested ((Scripted.readElement fuel).calls reader)) ∧
    ∀ reader : TlvReader, Nested ((Scripted.readElements fuel).calls reader) := by
  induction fuel with
  | zero =>
      rw [Scripted.readElement, Scripted.readElements]
      refine ⟨fun reader => ⟨fun call member => ?_, List.isChain_singleton _⟩, fun reader => Nested.nil⟩
      rw [← Option.mem_some.mp member]
  | succ fuel ih =>
      obtain ⟨elements, containers⟩ := ih
      exact ⟨fun reader => readElement_nested containers, fun reader => readElements_nested elements containers⟩

end Calls

/-- The fuel stands for the stack and the time of the engine, and the reader needs only so much of it. -/
structure ReadsSafely (reader : TlvReader) : Prop where
  terminates : ∃ result, result ≠ .error .exhausted ∧
    ∀ fuel ≥ enoughFuel reader.tokens, readElement fuel reader = result
  observed : ∀ fuel, (Scripted.readElement fuel).run reader = readElement fuel reader
  returned : ∀ fuel element after, readElement fuel reader = .ok (element, after) →
    ((Scripted.readElement fuel).offsets reader).getLast? = some after.offset
  forward : ∀ fuel, ((Scripted.readElement fuel).offsets reader).Pairwise (· ≤ ·)
  inside : ∀ fuel, ∀ offset ∈ (Scripted.readElement fuel).offsets reader,
    reader.offset ≤ offset ∧ offset ≤ reader.tokens.length
  nested : ∀ fuel, Nested ((Scripted.readElement fuel).calls reader)

/-- The reader terminates inside every byte array, from every offset. -/
theorem readElement_safe (bytes : List UInt8) (offset : Fin (bytes.length + 1)) : ReadsSafely ⟨bytes, offset⟩ := by
  have inside : (offset : Nat) ≤ bytes.length := Nat.le_of_lt_succ offset.isLt
  have runs (fuel : Nat) : (Scripted.readElement fuel).run = readElement fuel := (run_reader fuel).1
  have settled (extra : Nat) := (reader_settled (enoughFuel bytes) extra).1 ⟨bytes, offset⟩ inside
    (Nat.le_add_left 1 _) ((Nat.mul_le_mul_left 2 (Nat.sub_le _ _)).trans (Nat.le_succ _))
  simp only [runs] at settled
  refine ⟨⟨_, (settled 0).enough, fun fuel enough => ?_⟩, fun fuel => congrFun (runs fuel) _, ?_, ?_, ?_, ?_⟩
  · obtain ⟨extra, rfl⟩ := Nat.exists_eq_add_of_le enough
    exact (settled extra).same.symm
  · intro fuel element after ran
    rw [← runs fuel] at ran
    exact Script.offsets_last ran
  · exact fun fuel => ((Scripted.readElement fuel).offsets_inside ⟨bytes, offset⟩ inside).1
  · exact fun fuel => ((Scripted.readElement fuel).offsets_inside ⟨bytes, offset⟩ inside).2
  · exact fun fuel => (reader_nested fuel).1 ⟨bytes, offset⟩

end Barton.Tlv
