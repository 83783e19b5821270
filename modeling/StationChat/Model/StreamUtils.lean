import StationChat.Model.Text

/-! The dump of a packet that the network log prints. -/
namespace StationChat

/-- An output stream, with the formatting that this code changes. -/
structure OStream where
  text : StdString
  flags : UInt32
  fill : UInt8
  width : Nat
  deriving DecidableEq, Repr

namespace OStream

/-- `std::ios_base::hex`. -/
def hex : UInt32 := 8

/-- Formatted output is padded in front to the width, and the width is used up. -/
def put (os : OStream) (s : StdString) : OStream :=
  { os with text := os.text ++ List.replicate (os.width - s.length) os.fill ++ s, width := 0 }

def setw (os : OStream) (width : Nat) : OStream := { os with width }

/-- A number. A negative one is printed in hexadecimal as the unsigned number of its bits. -/
def putNumber (os : OStream) (n : UInt32) : OStream :=
  let digits := Nat.toDigits (if os.flags = hex then 16 else 10) n.toNat
  os.put (digits.map fun c => UInt8.ofNat c.toNat)

end OStream

/-- A pointer to a buffer, and a length beside it. -/
structure BinaryData where
  data : List UInt8
  length : Int32
  deriving DecidableEq, Repr

/-- Why there is no end: a byte outside the buffer was read, or the loop still runs. -/
inductive DumpFault where
  | outside (offset : Int)
  | running
  deriving DecidableEq, Repr

/-- A dump under way: the stream, the array of one line and the offsets that were read. -/
structure Dump where
  os : OStream
  ascii : List UInt8
  reads : List Nat
  deriving DecidableEq, Repr

namespace BinaryData

/-- `data[offset]`. -/
def byteAt (bd : BinaryData) (offset : Int) : Except DumpFault UInt8 :=
  if offset < 0 then .error (.outside offset)
  else
    match bd.data[offset.toNat]? with
    | some c => .ok c
    | none => .error (.outside offset)

/-- The characters that are printed as they are. -/
def printed (c : UInt8) : UInt8 := if c < 0x20 ∨ 0x7E < c then 0x2E else c

/-- The loop body over `j`. -/
def putCharacter (bd : BinaryData) (lines extra i : Int16) (dump : Dump) (j : Nat) : Except DumpFault Dump :=
  if i = lines ∧ extra.toInt ≤ j then
    .ok { dump with os := dump.os.put (literal "   "), ascii := dump.ascii.set j 0x20 }
  else do
    let c ← bd.byteAt (i.toInt * 16 + j)
    .ok {
      os := ((dump.os.setw 2).putNumber c.toUInt32).put (literal " ")
      ascii := dump.ascii.set j (printed c)
      reads := dump.reads ++ [(i.toInt * 16 + j).toNat] }

/-- The loop body over `i`. -/
def putLine (bd : BinaryData) (lines extra i : Int16) (dump : Dump) : Except DumpFault Dump := do
  let os := ((dump.os.setw 4).putNumber (i.toInt32 * 16).toUInt32).put (literal ":   ")
  let dump ← (List.range 16).foldlM (bd.putCharacter lines extra i) { dump with os }
  .ok { dump with os := ((dump.os.put (literal "  ")).put (cStr dump.ascii)).put (literal "\n") }

/-- The loop over `i`, a counter of sixteen bits that is stepped past its largest value to its smallest. -/
def putLines (bd : BinaryData) (lines extra : Int16) : Nat → Int16 → Dump → Except DumpFault Dump
  | 0, _, _ => .error .running
  | fuel + 1, i, dump =>
    if i ≤ lines then do
      let dump ← bd.putLine lines extra i dump
      bd.putLines lines extra fuel (i + 1) dump
    else .ok dump

/-- The number of lines and the characters of the last one, cast to sixteen bits. -/
def lines (bd : BinaryData) : Int16 := (bd.length / 16).toInt16

def extra (bd : BinaryData) : Int16 := (bd.length % 16).toInt16

/-- Before the lines: the stream prints hexadecimal numbers filled with zeros. -/
def opened (os : OStream) : Dump :=
  ⟨{ os with flags := OStream.hex, fill := 0x30, width := 2 }, List.replicate 17 0, []⟩

/-- After them: the formatting of the stream is put back. -/
def closed (os : OStream) (dump : Dump) : Dump :=
  { dump with os := { dump.os with flags := os.flags, fill := os.fill, width := os.width } }

/-- `operator<<`. -/
def output (fuel : Nat) (os : OStream) (bd : BinaryData) : Except DumpFault Dump :=
  if bd.length = 0 then .ok ⟨os, [], []⟩
  else do
    let dump ← bd.putLines bd.lines bd.extra fuel 0 (opened os)
    .ok (closed os dump)

end BinaryData
end StationChat
