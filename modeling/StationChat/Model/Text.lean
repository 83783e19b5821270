import Mathlib.Algebra.Group.Nat.Defs
import Mathlib.Tactic.Common

/-! The two string types of the program and the conversions between them. -/
namespace StationChat

/-- `std::u16string`: a sequence of 16-bit units of any value. -/
abbrev U16String := List UInt16

/-- `std::string`: a sequence of bytes. -/
abbrev StdString := List UInt8

/-- `char16_t` to `char`: only the low byte is kept. -/
def narrowUnit (u : UInt16) : UInt8 := u.toUInt8

/-- `char` to `char16_t`. A plain `char` is signed on the x86 hosts, so the sign bit is copied. -/
def widenUnit (c : UInt8) : UInt16 := if c < 0x80 then c.toUInt16 else c.toUInt16 ||| 0xFF00

def fromWideString (str : U16String) : StdString := str.map narrowUnit

def toWideString (str : StdString) : U16String := str.map widenUnit

/-- A string literal of the source. -/
def literal (s : String) : StdString := s.toList.map fun c => UInt8.ofNat c.toNat

/-- Spares the kernel the decoding of a long text. -/
theorem literal_ofList (l : List Char) : literal (String.ofList l) = l.map fun c => UInt8.ofNat c.toNat := by
  rw [literal, String.toList_ofList]

/-- `std::to_string` of an unsigned integer. -/
def toStdString (n : Nat) : StdString := (Nat.toDigits 10 n).map fun c => UInt8.ofNat c.toNat

theorem digit_of_mem_toDigits {n : Nat} {d : Char} (h : d ∈ Nat.toDigits 10 n) : 48 ≤ d.toNat ∧ d.toNat ≤ 57 := by
  have hdigit := Nat.isDigit_of_mem_toDigits (by omega) (Nat.le_refl _) h
  rw [Char.isDigit, Bool.and_eq_true, decide_eq_true_eq, decide_eq_true_eq] at hdigit
  exact hdigit

/-- Only decimal digits are printed. -/
theorem digit_of_mem_toStdString {n : Nat} {c : UInt8} (h : c ∈ toStdString n) : c.toNat ≤ 57 := by
  obtain ⟨d, hd, rfl⟩ := List.mem_map.mp h
  have hdigit := digit_of_mem_toDigits hd
  rw [UInt8.toNat_ofNat']
  omega

theorem toStdString_injective : Function.Injective toStdString := by
  have hread : ∀ n, (toStdString n).map (fun c => Char.ofNat c.toNat) = Nat.toDigits 10 n := by
    intro n
    rw [toStdString, List.map_map]
    conv_rhs => rw [← List.map_id (Nat.toDigits 10 n)]
    apply List.map_congr_left
    intro d hd
    have hsmall : d.toNat % 2 ^ 8 = d.toNat := Nat.mod_eq_of_lt (by have := digit_of_mem_toDigits hd; omega)
    rw [Function.comp_apply, UInt8.toNat_ofNat', hsmall, Char.ofNat_toNat, id_eq]
  intro m n h
  rw [← Nat.ofDigitChars_ten_toDigits (n := m), ← hread m, h, hread n, Nat.ofDigitChars_ten_toDigits]

/-- `std::string::c_str()` read back as a string: it ends at the first zero byte. -/
def cStr (str : StdString) : StdString := str.takeWhile (· ≠ 0)

@[simp] theorem narrowUnit_widenUnit (c : UInt8) : narrowUnit (widenUnit c) = c := by
  unfold widenUnit narrowUnit
  split
  · exact UInt8.toUInt8_toUInt16 c
  · rw [UInt16.toUInt8_or, UInt8.toUInt8_toUInt16]
    exact UInt8.or_zero

@[simp] theorem fromWideString_toWideString (s : StdString) :
    fromWideString (toWideString s) = s := by
  simp [fromWideString, toWideString, Function.comp_def]

@[simp] theorem fromWideString_append (s t : U16String) :
    fromWideString (s ++ t) = fromWideString s ++ fromWideString t := List.map_append

theorem toWideString_injective : Function.Injective toWideString :=
  Function.LeftInverse.injective fromWideString_toWideString

/-- The texts that storage returns unchanged: every unit is the sign-extension of its low byte,
as all 7-bit text is. -/
def Narrowable (s : U16String) : Prop := toWideString (fromWideString s) = s

instance (s : U16String) : Decidable (Narrowable s) := inferInstanceAs (Decidable (_ = _))

theorem narrowable_toWideString (s : StdString) : Narrowable (toWideString s) := by
  simp [Narrowable]

/-- Narrowing tells the storable texts apart. -/
theorem Narrowable.eq_of_fromWideString {s t : U16String} (hs : Narrowable s) (ht : Narrowable t)
    (h : fromWideString s = fromWideString t) : s = t := by
  rw [← hs, ← ht, h]

theorem narrowable_iff_units (s : U16String) :
    Narrowable s ↔ ∀ u ∈ s, widenUnit (narrowUnit u) = u := by
  induction s with
  | nil => simp [Narrowable, toWideString, fromWideString]
  | cons u s ih =>
    simp only [Narrowable, toWideString, fromWideString, List.map_cons, List.cons.injEq,
      List.mem_cons, forall_eq_or_imp] at ih ⊢
    rw [ih]

/-- 7-bit units are stored faithfully on every host. -/
theorem widenUnit_narrowUnit_of_ascii {u : UInt16} (h : u < 0x80) :
    widenUnit (narrowUnit u) = u := by
  have hu : u.toNat < 128 := h
  have hlow : u.toUInt8 < 0x80 := by
    rw [UInt8.lt_iff_toNat_lt, UInt16.toNat_toUInt8]
    change u.toNat % 256 < 128
    omega
  unfold widenUnit narrowUnit
  rw [if_pos hlow]
  apply UInt16.toNat_inj.mp
  rw [UInt8.toNat_toUInt16, UInt16.toNat_toUInt8]
  omega

end StationChat
