/-
**Numbers on the command line.**

A number may have blanks around it, decimal digits of any script, and single underscores between
its digits.

Main definitions:

* `Toolpath.CommandLine.wholeNumber?` — the whole number that a text writes;
* `Toolpath.CommandLine.double?` — the double nearest the number that a text writes.
-/

import Toolpath.Motion
import Toolpath.Numeral
import Toolpath.Text.Blank

set_option relaxedAutoImplicit false
set_option autoImplicit false

namespace Toolpath.CommandLine

open Text

/-! ### Digits and blanks -/

/-- The first number that is no ASCII character. -/
def asciiLimit : Nat := 128

/-- A character as numbers are read from it: of what is not ASCII, digits and blanks are those of
ASCII, and everything else is nothing that a number holds. -/
def plainCharacter (c : Char) : Char :=
  if c.toNat < asciiLimit then c
  else
    match decimalDigit? c with
    | some digit => Nat.digitChar digit
    | none => if isBlank c then ' ' else '?'

/-- An ASCII blank; the separators of ASCII are none. -/
def isPlainBlank (c : Char) : Bool := c == ' ' || ('\t' ≤ c && c ≤ '\r')

/-- The text without underscores, if each of them stands between two digits. -/
def dropUnderscores? (afterDigit : Bool) : List Char → Option (List Char)
  | [] => some []
  | c :: rest =>
      if c = '_' then
        match rest with
        | [] => none
        | d :: _ => if afterDigit && d.isDigit then dropUnderscores? false rest else none
      else (dropUnderscores? c.isDigit rest).map (c :: ·)

/-- The text of a number: in plain characters, without the blanks around it and the underscores
in it. -/
def plainNumber? (text : List Char) : Option (List Char) :=
  let plain := (text.map plainCharacter).dropWhile isPlainBlank
  dropUnderscores? false (plain.reverse.dropWhile isPlainBlank).reverse

/-! ### Whole numbers -/

/-- The whole number that an optional sign and digits write. -/
def signedNumber? (text : List Char) : Option Int :=
  let (sign, digits) := Numeral.readSign text
  if digits.isEmpty then none
  else
    match readNumber digits with
    | .ok number => some (Binary64.signed (sign == some '-') number)
    | .error _ => none

/-- The whole number that a text writes. -/
def wholeNumber? (text : String) : Option Int :=
  (plainNumber? text.toList).bind signedNumber?

/-! ### Doubles -/

/-- The exponent that the text after the digits writes: none at all, or one after the letter E. -/
def exponent? : List Char → Option Int
  | [] => some 0
  | c :: rest =>
      if c = 'e' ∨ c = 'E' then
        let (sign, digits) := Numeral.readSign rest
        if !digits.isEmpty && digits.all Char.isDigit then
          some (Binary64.signed (sign == some '-') (digitsValue digits))
        else none
      else none

/-- The double that a word in small letters names. -/
def namedDouble? (negative : Bool) (word : String) : Option Binary64 :=
  if word = "inf" ∨ word = "infinity" then some (.infinite negative)
  else if word = "nan" then some .nan
  else none

/-- The double that a numeral with an optional exponent writes. -/
def numeralDouble? (text : List Char) : Option Binary64 :=
  match Numeral.read? text with
  | none => none
  | some numeral =>
      (exponent? (text.drop numeral.text.length)).map fun exponent =>
        Binary64.ofPowerOfTen (numeral.sign == some '-')
          (digitsValue (numeral.whole ++ numeral.fraction))
          (exponent - numeral.fraction.length)

/-- The double nearest the number that a text writes. -/
def double? (text : String) : Option Binary64 :=
  (plainNumber? text.toList).bind fun plain =>
    let (sign, word) := Numeral.readSign plain
    (namedDouble? (sign == some '-') (String.ofList (word.map Char.toLower))).or
      (numeralDouble? plain)

end Toolpath.CommandLine
