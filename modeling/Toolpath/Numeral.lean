/-
**Decimal numerals.**

A numeral is an optional sign, digits, and an optional point with digits after it; there is a
digit before or after the point.  There are no exponents: the letter E starts a word of its own.

Main definitions:

* `Toolpath.Numeral` — the parts of a numeral;
* `Toolpath.Numeral.text`, `Toolpath.Numeral.value` — how it is written, and the nearest double;
* `Toolpath.Numeral.read?` — the longest numeral at the start of a text.
-/

import Toolpath.Binary64.Basic
import Toolpath.Text.Digit

set_option relaxedAutoImplicit false
set_option autoImplicit false

namespace Toolpath

open Text

/-- The parts of a decimal numeral. -/
structure Numeral where
  /-- A plus or minus sign, if it is written. -/
  sign : Option Char
  /-- The digits before the point. -/
  whole : List Char
  /-- There is a point. -/
  point : Bool
  /-- The digits after the point. -/
  fraction : List Char
  deriving DecidableEq

namespace Numeral

/-- The numeral as it is written. -/
def text (numeral : Numeral) : List Char :=
  numeral.sign.toList ++ numeral.whole ++ (if numeral.point then ['.'] else []) ++
    numeral.fraction

/-- The double nearest the number that the numeral writes. -/
def value (numeral : Numeral) : Binary64 :=
  Binary64.ofDecimal (numeral.sign == some '-')
    (digitsValue (numeral.whole ++ numeral.fraction)) numeral.fraction.length

/-- The sign at the start of a text, if there is one, and the text after it. -/
def readSign : List Char → Option Char × List Char
  | [] => (none, [])
  | c :: rest => if c = '+' ∨ c = '-' then (some c, rest) else (none, c :: rest)

/-- The longest numeral at the start of a text, with the sign that was read before it. -/
def readUnsigned? (sign : Option Char) (text : List Char) : Option Numeral :=
  let whole := text.takeWhile isDecimalDigit
  match text.dropWhile isDecimalDigit with
  | [] => if whole.isEmpty then none else some ⟨sign, whole, false, []⟩
  | c :: rest =>
      if c = '.' then
        let fraction := rest.takeWhile isDecimalDigit
        if whole.isEmpty && fraction.isEmpty then none
        else some ⟨sign, whole, true, fraction⟩
      else if whole.isEmpty then none
      else some ⟨sign, whole, false, []⟩

/-- The longest numeral at the start of a text. -/
def read? (text : List Char) : Option Numeral :=
  let (sign, rest) := readSign text
  readUnsigned? sign rest

end Numeral

end Toolpath
