import BartonCore.Construction.Zigbee.BufferIO
import Mathlib.Data.List.TakeWhile

namespace Barton.ZigbeeIO
open LittleEndian

section Values

/-- The bytes of a value in a payload. -/
def Typed.encoding : Typed → List UInt8
  | .uint8 val => encode 1 val.toNat
  | .int8 val => encode 1 val.toUInt8.toNat
  | .uint16 val => encode 2 val.toNat
  | .int16 val => encode 2 val.toUInt16.toNat
  | .uint32 val => encode 4 val.toNat
  | .int32 val => encode 4 val.toUInt32.toNat
  | .bytes buf => buf
  | .string str => UInt8.ofNat str.length :: str

def Typed.size (value : Typed) : Nat := value.encoding.length

/-- The position moves by this amount when the value is put. -/
def Typed.moved : Typed → Nat
  | .string _ => 1
  | value => value.size

def Typed.kind : Typed → Kind
  | .uint8 _ => .uint8
  | .int8 _ => .int8
  | .uint16 _ => .uint16
  | .int16 _ => .int16
  | .uint32 _ => .uint32
  | .int32 _ => .int32
  | .bytes buf => .bytes (UInt8.ofNat buf.length)
  | .string _ => .string

/-- A string has at most 255 bytes. -/
def Typed.Short : Typed → Prop
  | .string str => str.length ≤ 255
  | _ => True

/-- The value is a string of 1 to 255 bytes. -/
def Typed.HasText : Typed → Prop
  | .string str => str ≠ [] ∧ str.length ≤ 255
  | _ => False

/-- Integers are 0 and other results are missing where nothing is read. -/
def Kind.failed : Kind → Option Typed
  | .uint8 => some (.uint8 0)
  | .int8 => some (.int8 0)
  | .uint16 => some (.uint16 0)
  | .int16 => some (.int16 0)
  | .uint32 => some (.uint32 0)
  | .int32 => some (.int32 0)
  | .bytes _ => none
  | .string => none

end Values

section Rooms
variable {ctx : ZigbeeIOContext} {size : Nat} {mode : ZigbeeIOMode}

/-- The position is lost after an error. -/
def Sound (ctx : ZigbeeIOContext) : Prop := ctx.errno ≠ .ok → ctx.cur = none

/-- The context is for this mode, there was no error, and so many bytes are left. -/
structure Room (ctx : ZigbeeIOContext) (size : Nat) (mode : ZigbeeIOMode) : Prop where
  mode : ctx.mode = mode
  clear : ctx.errno = .ok
  left : ∃ cur, ctx.cur = some cur ∧ cur + size ≤ ctx.payload.length

/-- An error is reported, the position is lost, and the payload is as it was. -/
structure Lost (ctx next : ZigbeeIOContext) : Prop where
  cur : next.cur = none
  errno : next.errno ≠ .ok
  payload : next.payload = ctx.payload

theorem Lost.sound {next : ZigbeeIOContext} (lost : Lost ctx next) : Sound next := fun _ => lost.cur

theorem Room.sound (room : Room ctx size mode) : Sound ctx := fun error => absurd room.clear error

theorem Room.mono {other : Nat} (room : Room ctx size mode) (smaller : other ≤ size) : Room ctx other mode := by
  obtain ⟨cur, at_, inside⟩ := room.left
  exact ⟨room.mode, room.clear, cur, at_, by omega⟩

theorem canPerformOperation_room (room : Room ctx size mode) : canPerformOperation ctx size mode = (ctx, true) := by
  obtain ⟨cur, at_, inside⟩ := room.left
  rw [canPerformOperation, if_neg (not_not.mpr room.mode), if_pos room.clear, checkEnd, at_, Option.any_some,
    if_pos (decide_eq_true inside)]
  exact Prod.ext rfl (decide_eq_true room.clear)

theorem canPerformOperation_refused (sound : Sound ctx) (full : ¬Room ctx size mode) :
    ∃ next, canPerformOperation ctx size mode = (next, false) ∧ Lost ctx next := by
  have refuse (next : ZigbeeIOContext) (lost : Lost ctx next) (same : (if ctx.mode ≠ mode then
      { ctx with cur := none, errno := Errno.eperm }
      else if ctx.errno = .ok then checkEnd ctx size else ctx) = next) :
      ∃ next, canPerformOperation ctx size mode = (next, false) ∧ Lost ctx next := by
    refine ⟨next, ?_, lost⟩
    rw [canPerformOperation, same]
    exact Prod.ext rfl (decide_eq_false lost.errno)
  by_cases other : ctx.mode ≠ mode
  · refine refuse { ctx with cur := none, errno := .eperm } ⟨rfl, fun same => ?_, rfl⟩ (if_pos other)
    cases same
  · by_cases clear : ctx.errno = .ok
    · refine refuse { ctx with cur := none, errno := .espipe } ⟨rfl, fun same => ?_, rfl⟩ ?_
      · cases same
      · rw [if_neg other, if_pos clear, checkEnd, if_neg]
        intro fits
        obtain ⟨cur, at_, inside⟩ := (Option.any_eq_true _ _).mp fits
        exact full ⟨not_not.mp other, clear, cur, at_, of_decide_eq_true inside⟩
    · refine refuse ctx ⟨sound clear, clear, rfl⟩ ?_
      rw [if_neg other, if_neg clear]

end Rooms

section Places
variable {ctx : ZigbeeIOContext} {size : Nat} {mode : ZigbeeIOMode}

/-- The bytes at the position. -/
def slice (ctx : ZigbeeIOContext) (size : Nat) : List UInt8 := (ctx.payload.drop (ctx.cur.getD 0)).take size

/-- Bytes take the place of those at the position, and the position moves. -/
def place (ctx : ZigbeeIOContext) (bytes : List UInt8) (moved : Nat) : ZigbeeIOContext :=
  { ctx with
    payload := ctx.payload.take (ctx.cur.getD 0) ++ bytes ++ ctx.payload.drop (ctx.cur.getD 0 + bytes.length)
    cur := ctx.cur.map fun cur => cur + moved }

theorem load_room (room : Room ctx size mode) : load ctx size = some (slice ctx size) := by
  obtain ⟨cur, at_, inside⟩ := room.left
  rw [load, slice, at_, Option.bind_some, if_pos inside]
  rfl

theorem slice_length (room : Room ctx size mode) : (slice ctx size).length = size := by
  obtain ⟨cur, at_, inside⟩ := room.left
  rw [slice, at_, Option.getD_some, List.length_take, List.length_drop]
  omega

theorem copy_room {bytes : List UInt8} (room : Room ctx bytes.length mode) :
    copy ctx bytes = some (place ctx bytes 0) := by
  obtain ⟨cur, at_, inside⟩ := room.left
  rw [copy, place, at_]
  split
  · rename_i empty
    rw [empty, Option.getD_some, List.append_nil, List.length_nil, Nat.add_zero, List.take_append_drop,
      Option.map_some, Nat.add_zero, ← at_]
  · rw [Option.bind_some, if_pos inside]
    rfl

theorem place_advance (bytes : List UInt8) (amount : Nat) :
    advance (place ctx bytes 0) amount = place ctx bytes amount := by
  rw [advance, place, place, Option.map_map]
  rfl

theorem writeVal_room {value : Nat} (room : Room ctx size .write) :
    writeVal ctx value size = some (place ctx (encode size value) size) := by
  have same : Room ctx (encode size value).length .write := by rwa [encode_length]
  rw [writeVal, canPerformOperation_room room]
  dsimp only
  rw [if_pos rfl, copy_room same, Option.map_some, place_advance]

theorem writeVal_refused (value : Nat) (sound : Sound ctx) (full : ¬Room ctx size .write) :
    ∃ next, writeVal ctx value size = some next ∧ Lost ctx next := by
  obtain ⟨next, refused, lost⟩ := canPerformOperation_refused sound full
  refine ⟨next, ?_, lost⟩
  rw [writeVal, refused]
  rfl

theorem readVal_room (room : Room ctx size .read) :
    readVal ctx size = some (advance ctx size, decode (slice ctx size)) := by
  rw [readVal, canPerformOperation_room room]
  dsimp only
  rw [if_pos rfl, load_room room]
  rfl

theorem readVal_refused (sound : Sound ctx) (full : ¬Room ctx size .read) :
    ∃ next, readVal ctx size = some (next, 0) ∧ Lost ctx next := by
  obtain ⟨next, refused, lost⟩ := canPerformOperation_refused sound full
  refine ⟨next, ?_, lost⟩
  rw [readVal, refused]
  rfl

end Places

section Puts
variable {bigEndian : Bool} {ctx : ZigbeeIOContext}

/-- The put function of the value fits if there is room for its bytes. -/
structure PutFits (ctx : ZigbeeIOContext) (value : Typed) : Prop where
  room : Room ctx value.size .write
  short : value.Short

theorem putBytes_cases (sound : Sound ctx) (buf : List UInt8) :
    (Room ctx buf.length .write → zigbeeIOPutBytes ctx buf = some (place ctx buf buf.length)) ∧
      (¬Room ctx buf.length .write → ∃ next, zigbeeIOPutBytes ctx buf = some next ∧ Lost ctx next) := by
  constructor
  · intro room
    rw [zigbeeIOPutBytes, canPerformOperation_room room]
    dsimp only
    rw [if_pos rfl, copy_room room, Option.map_some, place_advance]
  · intro full
    obtain ⟨next, refused, lost⟩ := canPerformOperation_refused sound full
    refine ⟨next, ?_, lost⟩
    rw [zigbeeIOPutBytes, refused]
    rfl

theorem encode_firstByte {str : List UInt8} (empty : str = []) :
    encode 1 (firstByte bigEndian str.length) = (Typed.string str).encoding := by
  rw [empty]
  cases bigEndian <;> rfl

variable (bigEndian) in
/-- A value without text is placed whole, or an error is reported. -/
theorem putValue_cases (sound : Sound ctx) {value : Typed} (plain : ¬value.HasText) :
    (PutFits ctx value → putValue bigEndian ctx value = some (place ctx value.encoding value.size)) ∧
      (¬PutFits ctx value → ∃ next, putValue bigEndian ctx value = some next ∧ Lost ctx next) := by
  have integer {size number : Nat} (same : value.encoding = encode size number) (short : value.Short)
      (puts : putValue bigEndian ctx value = writeVal ctx number size) :
      (PutFits ctx value → putValue bigEndian ctx value = some (place ctx value.encoding value.size)) ∧
        (¬PutFits ctx value → ∃ next, putValue bigEndian ctx value = some next ∧ Lost ctx next) := by
    have width : value.size = size := by rw [Typed.size, same, encode_length]
    rw [puts]
    constructor
    · intro fits
      have room := fits.room
      rw [width] at room
      rw [writeVal_room room, same, width]
    · intro full
      exact writeVal_refused _ sound fun room => full ⟨by rwa [width], short⟩
  cases value with
  | uint8 | int8 | uint16 | int16 | uint32 | int32 => exact integer rfl trivial rfl
  | bytes buf =>
      obtain ⟨roomy, full⟩ := putBytes_cases sound buf
      exact ⟨fun fits => roomy fits.room, fun unfit => full fun room => unfit ⟨room, trivial⟩⟩
  | string str =>
      by_cases short : str.length ≤ 255
      · have empty : str = [] := by_contra fun present => plain ⟨present, short⟩
        have puts : putValue bigEndian ctx (.string str) = writeVal ctx (firstByte bigEndian str.length) 1 := by
          have nothing (next : ZigbeeIOContext) : copy next str = some next := if_pos empty
          rw [putValue, zigbeeIOPutString, if_neg (Nat.not_lt_of_le short)]
          simp only [nothing]
          exact Option.bind_fun_some _
        exact integer (encode_firstByte empty).symm short puts
      · refine ⟨fun fits => absurd fits.short short, fun _ => ⟨{ ctx with cur := none, errno := .einval }, ?_, ?_⟩⟩
        · rw [putValue, zigbeeIOPutString, if_pos (Nat.lt_of_not_le short)]
        · refine ⟨rfl, fun same => ?_, rfl⟩
          cases same

variable (bigEndian) in
/-- A string that fits is written behind its length, and another string is written outside the payload. -/
theorem putString_cases (sound : Sound ctx) {str : List UInt8} (text : (Typed.string str).HasText) :
    (PutFits ctx (.string str) → ∃ next, putValue bigEndian ctx (.string str) = some next ∧
        next.cur = ctx.cur.map (· + 1) ∧ next.errno = .ok) ∧
      (¬PutFits ctx (.string str) → putValue bigEndian ctx (.string str) = none) := by
  obtain ⟨present, short⟩ := text
  have puts : putValue bigEndian ctx (.string str) =
      (writeVal ctx (firstByte bigEndian str.length) 1).bind fun written => copy written str := by
    rw [putValue, zigbeeIOPutString, if_neg (Nat.not_lt_of_le short)]
  have total : (Typed.string str).size = 1 + str.length := by
    rw [Typed.size, Typed.encoding, List.length_cons, Nat.add_comm]
  rw [puts]
  constructor
  · intro fits
    have room := fits.room
    rw [total] at room
    have one : Room ctx 1 .write := room.mono (Nat.le_add_right 1 _)
    obtain ⟨cur, at_, inside⟩ := room.left
    have behind : Room (place ctx (encode 1 (firstByte bigEndian str.length)) 1) str.length .write := by
      refine ⟨room.mode, room.clear, cur + 1, ?_, ?_⟩
      · rw [place, at_]
        rfl
      · rw [place, at_]
        simp only [Option.getD_some, List.length_append, List.length_take, List.length_drop, encode_length]
        omega
    rw [writeVal_room one, Option.bind_some, copy_room behind]
    refine ⟨_, rfl, ?_, room.clear⟩
    rw [place, place, Option.map_map]
    rfl
  · intro unfit
    by_cases one : Room ctx 1 .write
    · obtain ⟨cur, at_, inside⟩ := one.left
      rw [writeVal_room one, Option.bind_some, copy, if_neg present, place, at_]
      simp only [Option.map_some, Option.bind_some, Option.getD_some, List.length_append, List.length_take,
        List.length_drop, encode_length]
      rw [if_neg]
      intro within
      refine unfit ⟨⟨one.mode, one.clear, cur, at_, ?_⟩, short⟩
      rw [total]
      omega
    · obtain ⟨next, refused, lost⟩ := writeVal_refused (firstByte bigEndian str.length) sound one
      rw [refused, Option.bind_some, copy, if_neg present, lost.cur]
      rfl

end Puts

section Gets
variable {ctx : ZigbeeIOContext}

/-- The bytes that a get function takes. A string announces its length. -/
def Kind.needed (ctx : ZigbeeIOContext) : Kind → Nat
  | .uint8 => 1
  | .int8 => 1
  | .uint16 => 2
  | .int16 => 2
  | .uint32 => 4
  | .int32 => 4
  | .bytes len => len.toNat
  | .string => 1 + (UInt8.ofNat (decode (slice ctx 1))).toNat

/-- The get function of the type fits if so many bytes are left. -/
def GetFits (ctx : ZigbeeIOContext) (kind : Kind) : Prop := Room ctx (kind.needed ctx) .read

theorem advance_advance (first second : Nat) : advance (advance ctx first) second = advance ctx (first + second) := by
  rw [advance, advance, advance, Option.map_map]
  congr 1
  apply congrArg (fun move => ctx.cur.map move)
  funext cur
  exact Nat.add_assoc cur first second

theorem Room.advance {first second : Nat} (room : Room ctx (first + second) .read) :
    Room (advance ctx first) second .read := by
  obtain ⟨cur, at_, inside⟩ := room.left
  refine ⟨room.mode, room.clear, cur + first, ?_, ?_⟩
  · rw [ ZigbeeIO.advance, at_]
    rfl
  · rw [Nat.add_assoc]
    exact inside

theorem zigbeeIOGetBytes_room {len : UInt8} (room : Room ctx len.toNat .read) :
    zigbeeIOGetBytes ctx len = some (advance ctx len.toNat, some (slice ctx len.toNat)) := by
  rw [zigbeeIOGetBytes, canPerformOperation_room room]
  dsimp only
  rw [if_pos rfl, load_room room]
  rfl

theorem zigbeeIOGetBytes_refused {len : UInt8} (sound : Sound ctx) (full : ¬Room ctx len.toNat .read) :
    ∃ next, zigbeeIOGetBytes ctx len = some (next, none) ∧ Lost ctx next := by
  obtain ⟨next, refused, lost⟩ := canPerformOperation_refused sound full
  refine ⟨next, ?_, lost⟩
  rw [zigbeeIOGetBytes, refused]
  rfl

theorem zigbeeIOGetUint8_room (one : Room ctx 1 .read) :
    zigbeeIOGetUint8 ctx = some (advance ctx 1, UInt8.ofNat (decode (slice ctx 1))) := by
  rw [zigbeeIOGetUint8, readVal_room one]
  rfl

/-- A string is read behind its length. -/
theorem zigbeeIOGetString_room {strlen : UInt8} (started : zigbeeIOGetUint8 ctx = some (advance ctx 1, strlen))
    (room : Room (advance ctx 1) strlen.toNat .read) :
    zigbeeIOGetString ctx = some (advance ctx (1 + strlen.toNat),
      some ((slice (advance ctx 1) strlen.toNat).takeWhile fun byte => byte ≠ 0)) := by
  rw [zigbeeIOGetString, started, Option.bind_some]
  dsimp only
  rw [canPerformOperation_room room]
  dsimp only
  rw [if_pos rfl, load_room room, Option.map_some, advance_advance]

theorem zigbeeIOGetString_refused {next : ZigbeeIOContext} {strlen : UInt8}
    (started : zigbeeIOGetUint8 ctx = some (next, strlen)) (sound : Sound next)
    (full : ¬Room next strlen.toNat .read) :
    ∃ last, zigbeeIOGetString ctx = some (last, none) ∧ Lost next last := by
  obtain ⟨last, refused, lost⟩ := canPerformOperation_refused sound full
  refine ⟨last, ?_, lost⟩
  rw [zigbeeIOGetString, started, Option.bind_some]
  dsimp only
  rw [refused]
  rfl

/-- A string is taken with its length, or an error is reported. -/
theorem getString_cases (sound : Sound ctx) :
    (GetFits ctx .string → ∃ str, zigbeeIOGetString ctx = some (advance ctx (Kind.string.needed ctx), some str) ∧
        1 + str.length ≤ Kind.string.needed ctx) ∧
      (¬GetFits ctx .string → ∃ next, zigbeeIOGetString ctx = some (next, none) ∧ Lost ctx next) := by
  by_cases one : Room ctx 1 .read
  · have started := zigbeeIOGetUint8_room one
    have moved : Sound (advance ctx 1) := fun error => absurd one.clear error
    constructor
    · intro room
      have rest : Room (advance ctx 1) (UInt8.ofNat (decode (slice ctx 1))).toNat .read := Room.advance room
      have text := (List.takeWhile_sublist (fun byte : UInt8 => byte ≠ 0)
        (l := slice (advance ctx 1) (UInt8.ofNat (decode (slice ctx 1))).toNat)).length_le
      rw [slice_length rest] at text
      exact ⟨_, zigbeeIOGetString_room started rest, Nat.add_le_add_left text 1⟩
    · intro full
      have few : ¬Room (advance ctx 1) (UInt8.ofNat (decode (slice ctx 1))).toNat .read := by
        intro rest
        obtain ⟨cur, at_, inside⟩ := one.left
        obtain ⟨behind, next, within⟩ := rest.left
        rw [advance, at_] at next
        cases next
        exact full ⟨one.mode, one.clear, cur, at_, by rwa [Kind.needed, ← Nat.add_assoc]⟩
      obtain ⟨next, refused, lost⟩ := zigbeeIOGetString_refused started moved few
      exact ⟨next, refused, lost.cur, lost.errno, lost.payload⟩
  · refine ⟨fun room => absurd (room.mono (Nat.le_add_right 1 _)) one, fun _ => ?_⟩
    obtain ⟨next, refused, lost⟩ := readVal_refused sound one
    have started : zigbeeIOGetUint8 ctx = some (next, 0) := by
      rw [zigbeeIOGetUint8, refused]
      rfl
    have gone : ¬Room next (0 : UInt8).toNat .read := fun room => lost.errno room.clear
    obtain ⟨last, stopped, again⟩ := zigbeeIOGetString_refused started lost.sound gone
    exact ⟨last, stopped, again.cur, again.errno, again.payload.trans lost.payload⟩

/-- A get function takes a value of its type, or an error is reported. -/
theorem getValue_cases (sound : Sound ctx) (kind : Kind) :
    (GetFits ctx kind → ∃ value, getValue ctx kind = some (advance ctx (kind.needed ctx), some value) ∧
        value.size ≤ kind.needed ctx) ∧
      (¬GetFits ctx kind → ∃ next, getValue ctx kind = some (next, kind.failed) ∧ Lost ctx next) := by
  have integer {size : Nat} (convert : Nat → Typed) (width : ∀ number, (convert number).size = size)
      (same : kind.needed ctx = size) (zero : some (convert 0) = kind.failed)
      (gets : getValue ctx kind = (readVal ctx size).map fun result => (result.1, some (convert result.2))) :
      (GetFits ctx kind → ∃ value, getValue ctx kind = some (advance ctx (kind.needed ctx), some value) ∧
          value.size ≤ kind.needed ctx) ∧
        (¬GetFits ctx kind → ∃ next, getValue ctx kind = some (next, kind.failed) ∧ Lost ctx next) := by
    rw [GetFits, gets, same]
    constructor
    · intro room
      rw [readVal_room room]
      exact ⟨_, rfl, (width _).le⟩
    · intro full
      obtain ⟨next, refused, lost⟩ := readVal_refused sound full
      refine ⟨next, ?_, lost⟩
      rw [refused, ← zero]
      rfl
  cases kind with
  | uint8 =>
      exact integer (fun number => .uint8 (UInt8.ofNat number)) (fun _ => encode_length _ _) rfl rfl
        (Option.map_map ..)
  | int8 =>
      exact integer (fun number => .int8 (UInt8.ofNat number).toInt8) (fun _ => encode_length _ _) rfl rfl
        (Option.map_map ..)
  | uint16 =>
      exact integer (fun number => .uint16 (UInt16.ofNat number)) (fun _ => encode_length _ _) rfl rfl
        (Option.map_map ..)
  | int16 =>
      exact integer (fun number => .int16 (UInt16.ofNat number).toInt16) (fun _ => encode_length _ _) rfl rfl
        (Option.map_map ..)
  | uint32 =>
      exact integer (fun number => .uint32 (UInt32.ofNat number)) (fun _ => encode_length _ _) rfl rfl
        (Option.map_map ..)
  | int32 =>
      exact integer (fun number => .int32 (UInt32.ofNat number).toInt32) (fun _ => encode_length _ _) rfl rfl
        (Option.map_map ..)
  | bytes len =>
      constructor
      · intro room
        refine ⟨.bytes (slice ctx len.toNat), ?_, (slice_length room).le⟩
        rw [getValue, zigbeeIOGetBytes_room room]
        rfl
      · intro full
        obtain ⟨next, refused, lost⟩ := zigbeeIOGetBytes_refused sound full
        refine ⟨next, ?_, lost⟩
        rw [getValue, refused]
        rfl
  | string =>
      obtain ⟨taken, failed⟩ := getString_cases sound
      constructor
      · intro room
        obtain ⟨str, gets, bound⟩ := taken room
        refine ⟨.string str, ?_, (Nat.add_comm ..).trans_le bound⟩
        rw [getValue, gets]
        rfl
      · intro full
        obtain ⟨next, refused, lost⟩ := failed full
        refine ⟨next, ?_, lost⟩
        rw [getValue, refused]
        rfl

end Gets

section Containment
variable {bigEndian : Bool} {ctx : ZigbeeIOContext} {operation : Operation}

/-- An operation fits if its bytes are left in a payload of its mode, and no error was reported. -/
def Fits (ctx : ZigbeeIOContext) : Operation → Prop
  | .put put => PutFits ctx put.value
  | .get kind => GetFits ctx kind

/-- The operation puts a string of 1 to 255 bytes. -/
def Operation.HasText : Operation → Prop
  | .put item => item.value.HasText
  | .get _ => False

def Operation.failed : Operation → Option Typed
  | .put _ => none
  | .get kind => kind.failed

theorem Fits.clear (fits : Fits ctx operation) : ctx.errno = .ok := by
  cases operation with
  | put put => exact fits.room.clear
  | get kind => exact Room.clear fits

variable (bigEndian) in
theorem perform_refused (sound : Sound ctx) (unfit : ¬Fits ctx operation) (plain : ¬operation.HasText) :
    ∃ next, perform bigEndian ctx operation = some (next, operation.failed) ∧ Lost ctx next := by
  cases operation with
  | put put =>
      obtain ⟨next, refused, lost⟩ := (putValue_cases bigEndian sound plain).2 unfit
      refine ⟨next, ?_, lost⟩
      rw [perform, refused]
      rfl
  | get kind => exact (getValue_cases sound kind).2 unfit

theorem perform_outside (sound : Sound ctx) (unfit : ¬Fits ctx operation)
    (text : operation.HasText) : perform bigEndian ctx operation = none := by
  cases operation with
  | put put =>
      obtain ⟨value, wellTyped⟩ := put
      cases value with
      | string str =>
          rw [perform, (putString_cases bigEndian sound text).2 unfit]
          rfl
      | _ => exact absurd text not_false
  | get kind => exact absurd text not_false

/-- The position stays lost after an error. -/
theorem perform_sound (sound : Sound ctx) {next : ZigbeeIOContext} {result : Option Typed}
    (performed : perform bigEndian ctx operation = some (next, result)) : Sound next := by
  by_cases fits : Fits ctx operation
  · have clear : next.errno = .ok := by
      cases operation with
      | put put =>
          obtain ⟨written, put_, same⟩ := Option.map_eq_some_iff.mp performed
          cases same
          by_cases text : put.value.HasText
          · obtain ⟨value, wellTyped⟩ := put
            cases value with
            | string str =>
                obtain ⟨placed, done, _, clear⟩ := (putString_cases bigEndian sound text).1 fits
                rw [done] at put_
                cases put_
                exact clear
            | _ => exact absurd text not_false
          · rw [(putValue_cases bigEndian sound text).1 fits] at put_
            cases put_
            exact fits.room.clear
      | get kind =>
          obtain ⟨value, taken, _⟩ := (getValue_cases sound kind).1 fits
          rw [perform, taken] at performed
          cases performed
          have gets : GetFits ctx kind := fits
          exact gets.clear
    exact fun error => absurd clear error
  · by_cases text : operation.HasText
    · rw [perform_outside sound fits text] at performed
      cases performed
    · obtain ⟨lost, refused, gone⟩ := perform_refused bigEndian sound fits text
      rw [refused] at performed
      cases performed
      exact gone.sound

theorem run_sound {operations : List Operation} {last : ZigbeeIOContext} {results : List (Option Typed)}
    (sound : Sound ctx) (ran : run bigEndian ctx operations = some (last, results)) : Sound last := by
  induction operations generalizing ctx results with
  | nil =>
      cases ran
      exact sound
  | cons operation rest ih =>
      obtain ⟨⟨next, result⟩, performed, later⟩ := Option.bind_eq_some_iff.mp ran
      obtain ⟨⟨final, others⟩, continued, same⟩ := Option.map_eq_some_iff.mp later
      cases same
      exact ih (perform_sound sound performed) continued

end Containment

section Positions
variable {bigEndian : Bool} {ctx : ZigbeeIOContext} {position : Nat}

/-- The bytes of the text in a string. -/
def Typed.text : Typed → Nat
  | .string str => str.length
  | _ => 0

def putAll (puts : List Put) : List Operation := puts.map .put

end Positions

section RoundTrip
variable {bigEndian : Bool} {ctx : ZigbeeIOContext}

/-- The context stands between two parts of its payload. -/
structure Between (ctx : ZigbeeIOContext) (mode : ZigbeeIOMode) (front rest : List UInt8) : Prop where
  mode : ctx.mode = mode
  clear : ctx.errno = .ok
  cur : ctx.cur = some front.length
  payload : ctx.payload = front ++ rest

variable {front rest : List UInt8} {mode : ZigbeeIOMode}

theorem Between.room (between : Between ctx mode front rest) {size : Nat} (fits : size ≤ rest.length) :
    Room ctx size mode := by
  refine ⟨between.mode, between.clear, _, between.cur, ?_⟩
  rw [between.payload, List.length_append]
  omega

theorem Between.slice {content : List UInt8} (between : Between ctx mode front (content ++ rest)) :
    slice ctx content.length = content := by
  rw [ ZigbeeIO.slice, between.cur, between.payload, Option.getD_some, List.drop_left, List.take_left]

theorem Between.advance {content : List UInt8} (between : Between ctx mode front (content ++ rest)) :
    Between (advance ctx content.length) mode (front ++ content) rest := by
  refine ⟨between.mode, between.clear, ?_, ?_⟩
  · rw [ ZigbeeIO.advance, between.cur, List.length_append]
    rfl
  · rw [List.append_assoc]
    exact between.payload

theorem Between.place (between : Between ctx mode front rest) (content : List UInt8) :
    Between (place ctx content content.length) mode (front ++ content) (rest.drop content.length) := by
  refine ⟨between.mode, between.clear, ?_, ?_⟩
  · rw [ ZigbeeIO.place, between.cur, List.length_append]
    rfl
  · rw [ ZigbeeIO.place, between.cur, between.payload, Option.getD_some, List.take_left, List.drop_append]
    rw [Nat.add_sub_cancel_left, List.drop_eq_nil_of_le (Nat.le_add_right _ _)]
    rfl

/-- The string `a`. -/
def letter : Put where
  value := .string [97]
  wellTyped := fun byte member => by
    rw [List.mem_singleton.mp member]
    decide

end RoundTrip
end Barton.ZigbeeIO
