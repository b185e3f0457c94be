/-
**Parameter words.**

A parameter word is a letter with a numeral right after it.  The words of a line are found from
the left, each as long as possible, and what is no word is passed over.

Main definitions:

* `Toolpath.Address` — the parameters of a command;
* `Toolpath.Word` — a letter with its numeral;
* `Toolpath.words` — the parameter words of a text;
* `Toolpath.Parameters` — the value of every parameter that is given.

Main results:

* `Toolpath.Parameters.get_set` — a parameter that is set has its value, and no other changes.
-/

import Toolpath.Numeral

set_option relaxedAutoImplicit false
set_option autoImplicit false

namespace Toolpath

/-! ### Addresses -/

/-- The parameters of a command: target, centre offsets, feed rate, spindle speed, extrusion. -/
inductive Address where
  | x | y | z | i | j | k | f | s | e
  deriving DecidableEq

/-- The parameter that a capital letter addresses.  The kelvin sign is a capital K. -/
def Address.ofLetter? (letter : Char) : Option Address :=
  if letter = 'X' then some .x
  else if letter = 'Y' then some .y
  else if letter = 'Z' then some .z
  else if letter = 'I' then some .i
  else if letter = 'J' then some .j
  else if letter = 'K' ∨ letter = '\u212a' then some .k
  else if letter = 'F' then some .f
  else if letter = 'S' then some .s
  else if letter = 'E' then some .e
  else none

/-- The letter starts a parameter word.  A dotted capital I does, but it addresses nothing. -/
def isWordLetter (letter : Char) : Bool :=
  (Address.ofLetter? letter).isSome || letter == '\u0130'

/-! ### Words -/

/-- A letter with its numeral. -/
structure Word where
  letter : Char
  numeral : Numeral
  deriving DecidableEq

namespace Word

/-- The word as it is written. -/
def text (word : Word) : List Char := word.letter :: word.numeral.text

/-- The value of the word. -/
def value (word : Word) : Binary64 := word.numeral.value

/-- The word at the start of a text. -/
def read? : List Char → Option Word
  | [] => none
  | c :: rest => if isWordLetter c then (Numeral.read? rest).map (Word.mk c) else none

end Word

/-- The parameter words of a text after a number of characters that belong to the word before. -/
def wordsFrom : Nat → List Char → List Word
  | _, [] => []
  | belonging + 1, _ :: rest => wordsFrom belonging rest
  | 0, c :: rest =>
      match Word.read? (c :: rest) with
      | some word => word :: wordsFrom word.numeral.text.length rest
      | none => wordsFrom 0 rest

/-- The parameter words of a text in capitals. -/
def words (text : List Char) : List Word := wordsFrom 0 text

@[simp] theorem words_nil : words [] = [] := rfl

/-- The characters that belong to the word before are passed over. -/
theorem wordsFrom_eq_drop (belonging : Nat) (text : List Char) :
    wordsFrom belonging text = words (text.drop belonging) := by
  induction text generalizing belonging with
  | nil => cases belonging <;> simp [words, wordsFrom]
  | cons c rest ih =>
      cases belonging with
      | zero => rfl
      | succ belonging => simp [wordsFrom, ih]

/-- Where a word starts, it is the first word, and the others are those after it. -/
theorem words_of_read {text : List Char} {word : Word} (h : Word.read? text = some word) :
    words text = word :: words (text.drop word.text.length) := by
  cases text with
  | nil => simp [Word.read?] at h
  | cons c rest =>
      rw [words, wordsFrom, h]
      exact congrArg (word :: ·) (wordsFrom_eq_drop word.numeral.text.length rest)

/-- Where no word starts, a character is passed over. -/
theorem words_of_read_eq_none {c : Char} {rest : List Char}
    (h : Word.read? (c :: rest) = none) : words (c :: rest) = words rest := by
  rw [words, wordsFrom, h, words]

/-! ### Parameters -/

/-- The value of every parameter that is given. -/
structure Parameters where
  x : Option Binary64 := none
  y : Option Binary64 := none
  z : Option Binary64 := none
  i : Option Binary64 := none
  j : Option Binary64 := none
  k : Option Binary64 := none
  f : Option Binary64 := none
  s : Option Binary64 := none
  e : Option Binary64 := none
  deriving DecidableEq

namespace Parameters

/-- The value of a parameter, if it is given. -/
def get (parameters : Parameters) : Address → Option Binary64
  | .x => parameters.x
  | .y => parameters.y
  | .z => parameters.z
  | .i => parameters.i
  | .j => parameters.j
  | .k => parameters.k
  | .f => parameters.f
  | .s => parameters.s
  | .e => parameters.e

/-- The parameters with one of them given a value. -/
def set (parameters : Parameters) (address : Address) (value : Binary64) : Parameters :=
  match address with
  | .x => { parameters with x := some value }
  | .y => { parameters with y := some value }
  | .z => { parameters with z := some value }
  | .i => { parameters with i := some value }
  | .j => { parameters with j := some value }
  | .k => { parameters with k := some value }
  | .f => { parameters with f := some value }
  | .s => { parameters with s := some value }
  | .e => { parameters with e := some value }

/-- A parameter that is set has its value, and no other changes. -/
theorem get_set (parameters : Parameters) (address other : Address) (value : Binary64) :
    (parameters.set address value).get other =
      if other = address then some value else parameters.get other := by
  cases address <;> cases other <;> rfl

/-- The parameters after one more word: a finite value replaces what was given before. -/
def apply (parameters : Parameters) (word : Word) : Parameters :=
  match Address.ofLetter? word.letter with
  | some address =>
      if word.value.isFinite then parameters.set address word.value else parameters
  | none => parameters

/-- The parameters that words give, a later word before an earlier one. -/
def ofWords (ws : List Word) : Parameters := ws.foldl apply {}

end Parameters

end Toolpath
