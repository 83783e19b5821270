import StationChat.Protocol.Telling

/-! The `read` and `write` templates over every type they are made for: reading undoes writing. -/
namespace StationChat
open Lib Lib.Decoder

/-- How the values of an integral type lie in memory, as an unsigned number of so many bytes. -/
structure Layout (α : Type) where
  width : Nat
  toNat : α → Nat
  ofNat : Nat → α
  toNat_lt : ∀ value, toNat value < 256 ^ width
  ofNat_toNat : ∀ value, ofNat (toNat value) = value

/-- A type that lies in memory like another. -/
def Layout.cast {α β : Type} (layout : Layout α) (wrap : α → β) (unwrap : β → α)
    (h : ∀ value, wrap (unwrap value) = value) : Layout β where
  width := layout.width
  toNat value := layout.toNat (unwrap value)
  ofNat n := wrap (layout.ofNat n)
  toNat_lt value := layout.toNat_lt (unwrap value)
  ofNat_toNat value := by rw [layout.ofNat_toNat, h]

def uint8Layout : Layout UInt8 := ⟨1, UInt8.toNat, UInt8.ofNat, UInt8.toNat_lt, @UInt8.ofNat_toNat⟩

def uint16Layout : Layout UInt16 := ⟨2, UInt16.toNat, UInt16.ofNat, UInt16.toNat_lt, @UInt16.ofNat_toNat⟩

def uint32Layout : Layout UInt32 := ⟨4, UInt32.toNat, UInt32.ofNat, UInt32.toNat_lt, @UInt32.ofNat_toNat⟩

def uint64Layout : Layout UInt64 := ⟨8, UInt64.toNat, UInt64.ofNat, UInt64.toNat_lt, @UInt64.ofNat_toNat⟩

inductive IntegralType where
  | int8 | int16 | int32 | int64 | uint8 | uint16 | uint32 | uint64
  deriving DecidableEq, Repr

namespace IntegralType

abbrev Value : IntegralType → Type
  | int8 => Int8 | int16 => Int16 | int32 => Int32 | int64 => Int64
  | uint8 => UInt8 | uint16 => UInt16 | uint32 => UInt32 | uint64 => UInt64

/-- Signed values are held in two's complement. -/
def layout : (type : IntegralType) → Layout type.Value
  | uint8 => uint8Layout
  | uint16 => uint16Layout
  | uint32 => uint32Layout
  | uint64 => uint64Layout
  | int8 => uint8Layout.cast UInt8.toInt8 Int8.toUInt8 Int8.toInt8_toUInt8
  | int16 => uint16Layout.cast UInt16.toInt16 Int16.toUInt16 Int16.toInt16_toUInt16
  | int32 => uint32Layout.cast UInt32.toInt32 Int32.toUInt32 Int32.toInt32_toUInt32
  | int64 => uint64Layout.cast UInt64.toInt64 Int64.toUInt64 Int64.toInt64_toUInt64

end IntegralType

/-- The types that are read and written: integers, enumerations over them, booleans and the two strings. -/
inductive WireType where
  | integral (type : IntegralType)
  | enumeration (underlying : IntegralType)
  | boolean
  | string
  | u16string
  deriving DecidableEq, Repr

namespace WireType

/-- A variable of an enumeration type holds any value of the type under it. -/
abbrev Value : WireType → Type
  | integral type => type.Value
  | enumeration underlying => underlying.Value
  | boolean => Bool
  | string => StdString
  | u16string => U16String

def writeIntegral (type : IntegralType) (value : type.Value) : List UInt8 :=
  integerBytes type.layout.width (type.layout.toNat value)

/-- The length is cast to sixteen bits, and as many characters follow. -/
def writeString (value : StdString) : List UInt8 :=
  let length := UInt16.ofNat value.length
  writeUInt16 length ++ value.take length.toNat

def write : (type : WireType) → type.Value → List UInt8
  | integral type, value => writeIntegral type value
  | enumeration underlying, value => writeIntegral underlying value
  | boolean, value => writeBool value
  | string, value => writeString value
  | u16string, value => writeU16String value

def readIntegral (type : IntegralType) : Decoder type.Value := do
  pure (type.layout.ofNat (← Wire.readInteger type.layout.width))

def readString : Decoder StdString := do
  let length ← Wire.readUInt16
  .field length.toNat .done

def read : (type : WireType) → Decoder type.Value
  | integral type => readIntegral type
  | enumeration underlying => readIntegral underlying
  | boolean => Wire.readBool
  | string => readString
  | u16string => Wire.readU16String

/-- The strings whose length the prefix can hold. -/
def Fits : (type : WireType) → type.Value → Prop
  | string, value => value.length < 2 ^ 16
  | u16string, value => value.length < 2 ^ 32
  | _, _ => True

end WireType

/-- A value with its type. -/
abbrev WireValue := (type : WireType) × type.Value

/-- The values of a sequence written one after another. -/
def writeValues (values : List WireValue) : List UInt8 := values.flatMap fun value => value.1.write value.2

/-- Values of these types read one after another. -/
def readValues : List WireType → Decoder (List WireValue)
  | [] => .done []
  | type :: types => do
    let value ← type.read
    let values ← readValues types
    pure (⟨type, value⟩ :: values)

section Undoing

theorem undoes_readInteger {width n : Nat} (h : n < 256 ^ width) :
    (Wire.readInteger width).Undoes (integerBytes width n) n :=
  (undoes_field (length_integerBytes width n)).map (littleEndian_integerBytes h)

theorem undoes_readUInt16 (value : UInt16) : Wire.readUInt16.Undoes (writeUInt16 value) value :=
  (undoes_readInteger value.toNat_lt).map UInt16.ofNat_toNat

theorem undoes_readUInt32 (value : UInt32) : Wire.readUInt32.Undoes (writeUInt32 value) value :=
  (undoes_readInteger value.toNat_lt).map UInt32.ofNat_toNat

theorem undoes_readBool (value : Bool) : Wire.readBool.Undoes (writeBool value) value := by
  have hvalue : (if value then 1 else 0) < 256 ^ 1 := by cases value <;> decide
  apply (undoes_readInteger hvalue).map
  cases value <;> rfl

theorem undoes_readIntegral (type : IntegralType) (value : type.Value) :
    (WireType.readIntegral type).Undoes (WireType.writeIntegral type value) value :=
  (undoes_readInteger (type.layout.toNat_lt value)).map (type.layout.ofNat_toNat value)

theorem undoes_readString {value : StdString} (h : value.length < 2 ^ 16) :
    WireType.readString.Undoes (WireType.writeString value) value := by
  have hlength : (UInt16.ofNat value.length).toNat = value.length := UInt16.toNat_ofNat_of_lt' h
  simp only [WireType.writeString, hlength, List.take_length]
  exact (undoes_readUInt16 _).bind (undoes_field hlength.symm)

theorem undoes_readU16String {value : U16String} (h : value.length < 2 ^ 32) :
    Wire.readU16String.Undoes (writeU16String value) value := by
  have hlength : (UInt32.ofNat value.length).toNat = (value.map writeUInt16).length := by
    rw [UInt32.toNat_ofNat_of_lt' h, List.length_map]
  have hwidth : ∀ unit ∈ value.map writeUInt16, unit.length = 2 := by
    intro unit hunit
    obtain ⟨u, _, rfl⟩ := List.mem_map.mp hunit
    exact length_integerBytes 2 u.toNat
  have hunits : (value.map writeUInt16).map (fun unit => UInt16.ofNat (littleEndian unit)) = value := by
    rw [List.map_map]
    conv_rhs => rw [← List.map_id value]
    apply List.map_congr_left
    intro u _
    rw [Function.comp_apply, writeUInt16, littleEndian_integerBytes u.toNat_lt, UInt16.ofNat_toNat, id_eq]
  rw [writeU16String_eq h, writeAll, List.flatMap_def]
  apply (undoes_readUInt32 _).bind
  rw [hlength]
  exact (undoes_units hwidth).map hunits

/-- One case for each type. -/
theorem undoes_read (type : WireType) {value : type.Value} (h : type.Fits value) :
    type.read.Undoes (type.write value) value := by
  cases type with
  | integral type => exact undoes_readIntegral type value
  | enumeration underlying => exact undoes_readIntegral underlying value
  | boolean => exact undoes_readBool value
  | string => exact undoes_readString h
  | u16string => exact undoes_readU16String h

theorem undoes_readValues {values : List WireValue} (hfits : ∀ value ∈ values, value.1.Fits value.2) :
    (readValues (values.map (·.1))).Undoes (writeValues values) values := by
  induction values with
  | nil => exact undoes_done []
  | cons value values ih =>
    obtain ⟨hfirst, hvalues⟩ := List.forall_mem_cons.mp hfits
    rw [List.map_cons, readValues, writeValues, List.flatMap_cons]
    exact (undoes_read value.1 hfirst).bind ((ih hvalues).map rfl)

/-- Whatever follows them, and whatever memory holds where the values are read to, values come back as they were
written, and the stream stands behind them. -/
theorem reading_undoes_writing {values : List WireValue} (hfits : ∀ value ∈ values, value.1.Fits value.2)
    (rest : List UInt8) (memory : Nat → UInt8) :
    ((readValues (values.map (·.1))).run memory (start (writeValues values ++ rest))).1 = values ∧
      ((readValues (values.map (·.1))).run memory (start (writeValues values ++ rest))).2.stream = ⟨rest, true⟩ :=
  (undoes_readValues hfits).run memory rest

/-- A negative number, a truth value and both strings, with two bytes behind them. -/
theorem reading_undoes_writing_four :
    ((readValues [.integral .int32, .boolean, .string, .u16string]).run (fun _ => 7) (start
      (writeValues [⟨.integral .int32, (-8 : Int32)⟩, ⟨.boolean, true⟩, ⟨.string, ([72, 105] : List UInt8)⟩,
        ⟨.u16string, ([0x263A] : List UInt16)⟩] ++ [1, 2]))).2.stream = ⟨[1, 2], true⟩ := by
  have hfits : ∀ value ∈ ([⟨.integral .int32, (-8 : Int32)⟩, ⟨.boolean, true⟩,
      ⟨.string, ([72, 105] : List UInt8)⟩, ⟨.u16string, ([0x263A] : List UInt16)⟩] : List WireValue),
      value.1.Fits value.2 := by
    simp [WireType.Fits]
  exact (reading_undoes_writing hfits [1, 2] fun _ => 7).2

end Undoing
end StationChat
