/-
**Decimal digits of all scripts.**

A decimal digit is a character of Unicode's category of decimal numbers, of which every script
has ten in a row.  Some further characters, such as superscripts and circled numbers, count as
digits without being decimal digits.

Main definitions:

* `Toolpath.Text.decimalDigit?` — the value of a decimal digit;
* `Toolpath.Text.isDigitLike` — decimal digits and the characters that count as digits besides;
* `Toolpath.Text.digitsValue` — the number that decimal digits write.
-/

set_option relaxedAutoImplicit false
set_option autoImplicit false

namespace Toolpath

namespace Text

/-! ### Tables -/

/-- The zeros of all scripts; each is followed by the digits one to nine. -/
def decimalZeros : List Nat := [
  0x30, 0x660, 0x6F0, 0x7C0, 0x966, 0x9E6, 0xA66, 0xAE6, 0xB66, 0xBE6, 0xC66, 0xCE6, 0xD66, 0xDE6,
  0xE50, 0xED0, 0xF20, 0x1040, 0x1090, 0x17E0, 0x1810, 0x1946, 0x19D0, 0x1A80, 0x1A90, 0x1B50,
  0x1BB0, 0x1C40, 0x1C50, 0xA620, 0xA8D0, 0xA900, 0xA9D0, 0xA9F0, 0xAA50, 0xABF0, 0xFF10, 0x104A0,
  0x10D30, 0x11066, 0x110F0, 0x11136, 0x111D0, 0x112F0, 0x11450, 0x114D0, 0x11650, 0x116C0,
  0x11730, 0x118E0, 0x11950, 0x11C50, 0x11D50, 0x11DA0, 0x16A60, 0x16AC0, 0x16B50, 0x1D7CE,
  0x1D7D8, 0x1D7E2, 0x1D7EC, 0x1D7F6, 0x1E140, 0x1E2F0, 0x1E950, 0x1FBF0]

/-- The ranges of digits that are no decimal digits. -/
def otherDigits : List (Nat × Nat) := [
  (0xB2, 0xB3), (0xB9, 0xB9), (0x1369, 0x1371), (0x19DA, 0x19DA), (0x2070, 0x2070),
  (0x2074, 0x2079), (0x2080, 0x2089), (0x2460, 0x2468), (0x2474, 0x247C), (0x2488, 0x2490),
  (0x24EA, 0x24EA), (0x24F5, 0x24FD), (0x24FF, 0x24FF), (0x2776, 0x277E), (0x2780, 0x2788),
  (0x278A, 0x2792), (0x10A40, 0x10A43), (0x10E60, 0x10E68), (0x11052, 0x1105A), (0x1F100, 0x1F10A)]

/-! ### Digits -/

/-- The value of a decimal digit of any script. -/
def decimalDigit? (c : Char) : Option Nat :=
  if c.toNat < 0x660 then
    if 48 ≤ c.toNat ∧ c.toNat ≤ 57 then some (c.toNat - 48) else none
  else
    (decimalZeros.find? fun start => decide (start ≤ c.toNat ∧ c.toNat ≤ start + 9)).map
      fun start => c.toNat - start

/-- The character is a decimal digit of some script. -/
def isDecimalDigit (c : Char) : Bool := (decimalDigit? c).isSome

/-- The character counts as a digit, whether it is a decimal digit or not. -/
def isDigitLike (c : Char) : Bool :=
  isDecimalDigit c || otherDigits.any fun range => range.1 ≤ c.toNat && c.toNat ≤ range.2

/-- The number that decimal digits write; characters that are no decimal digits count nothing. -/
def digitsValue (digits : List Char) : Nat :=
  digits.foldl (fun value c => 10 * value + (decimalDigit? c).getD 0) 0

@[simp] theorem digitsValue_nil : digitsValue [] = 0 := rfl

theorem digitsValue_append_singleton (digits : List Char) (c : Char) :
    digitsValue (digits ++ [c]) = 10 * digitsValue digits + (decimalDigit? c).getD 0 := by
  simp [digitsValue]

end Text

end Toolpath
