/-
**Motion commands and the words that name them.**

A command word is a letter and a number.  The words G0 to G3, with any number of leading zeros,
ask for motion.

Main definitions:

* `Toolpath.Motion` — what a command asks of the tool;
* `Toolpath.readNumber` — the number that the digits of a command word write;
* `Toolpath.Motion.ofToken` — what a command word asks for.
-/

import Toolpath.Text.Case
import Toolpath.Text.Digit

set_option relaxedAutoImplicit false
set_option autoImplicit false

namespace Toolpath

open Text

/-! ### Motions -/

/-- What a command asks of the tool. -/
inductive Motion where
  | unknown
  /-- A straight move at the rate of the machine. -/
  | rapid
  /-- A straight move at the feed rate. -/
  | linear
  /-- An arc in the clockwise direction. -/
  | clockwise
  /-- An arc in the counter-clockwise direction. -/
  | counterclockwise
  deriving DecidableEq

namespace Motion

def isMotion : Motion → Bool
  | unknown => false
  | _ => true

def isArc : Motion → Bool
  | clockwise => true
  | counterclockwise => true
  | _ => false

/-- The tool moves at the feed rate. -/
def isCutting : Motion → Bool
  | linear => true
  | motion => motion.isArc

/-- The command word in its shortest form. -/
def code : Motion → String
  | unknown => "unknown"
  | rapid => "G0"
  | linear => "G1"
  | clockwise => "G2"
  | counterclockwise => "G3"

/-- What the command word of a letter and a number asks for. -/
def ofWord (letter : Char) (number : Nat) : Motion :=
  if letter = 'G' then
    match number with
    | 0 => rapid
    | 1 => linear
    | 2 => clockwise
    | 3 => counterclockwise
    | _ => unknown
  else unknown

end Motion

/-! ### The number of a command word -/

/-- Why digits write no number that can be read. -/
inductive NumberError where
  /-- There are more digits than are read. -/
  | tooManyDigits (count : Nat)
  /-- Some of the digits are no decimal digits. -/
  | notDecimal (digits : String)
  deriving DecidableEq

/-- The most digits of a number that are read. -/
def maxDigits : Nat := 4300

/-- The wording of a reason why digits write no number. -/
def NumberError.message : NumberError → String
  | tooManyDigits count =>
      "Exceeds the limit (" ++ toString maxDigits ++ " digits) for integer string conversion: " ++
        "value has " ++ toString count ++
        " digits; use sys.set_int_max_str_digits() to increase the limit"
  | notDecimal digits => "not a decimal number: " ++ digits

/-- The number that digits write, if all are decimal digits and there are not too many. -/
def readNumber (digits : List Char) : Except NumberError Nat :=
  if !digits.all isDecimalDigit then .error (.notDecimal (String.ofList digits))
  else if maxDigits < digits.length then .error (.tooManyDigits digits.length)
  else .ok (digitsValue digits)

/-- What a command word asks for, in capitals or small letters.  A word that is not one letter
followed by digits asks for nothing known; the number of one that is has to be readable. -/
def Motion.ofToken (token : List Char) : Except NumberError Motion :=
  match capitals token with
  | [] => .ok .unknown
  | letter :: digits =>
      if digits.isEmpty || !digits.all isDigitLike then .ok .unknown
      else (readNumber digits).map (Motion.ofWord letter)

end Toolpath
