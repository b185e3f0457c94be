/-
**Text in bytes.**

Bytes that encode no text are read too: the longest start of an encoding that nothing continues,
or else a single byte, stands for the replacement character.

Main definitions:

* `Toolpath.Text.Utf8.decode` — the text that bytes encode;
* `Toolpath.Text.Utf8.encode` — the bytes of a text.
-/

set_option relaxedAutoImplicit false
set_option autoImplicit false

namespace Toolpath.Text.Utf8

/-- The character that stands for bytes that encode none. -/
def replacement : Char := '\ufffd'

/-- How an encoding of several bytes goes on after its first byte: how many bytes follow, and
between which bounds the first of them lies.  The bounds leave out overlong encodings, surrogates
and what lies above the last character. -/
structure Continuation where
  count : Nat
  low : Nat
  high : Nat

/-- The least byte after the first one of an encoding. -/
def leastFollowing : Nat := 0x80

/-- The greatest byte after the first one of an encoding. -/
def greatestFollowing : Nat := 0xbf

/-- How an encoding goes on after a first byte that is no character of its own. -/
def continuation? (first : Nat) : Option Continuation :=
  if first < 0xc2 then none
  else if first ≤ 0xdf then some ⟨1, leastFollowing, greatestFollowing⟩
  else if first = 0xe0 then some ⟨2, 0xa0, greatestFollowing⟩
  else if first = 0xed then some ⟨2, leastFollowing, 0x9f⟩
  else if first ≤ 0xef then some ⟨2, leastFollowing, greatestFollowing⟩
  else if first = 0xf0 then some ⟨3, 0x90, greatestFollowing⟩
  else if first ≤ 0xf3 then some ⟨3, leastFollowing, greatestFollowing⟩
  else if first = 0xf4 then some ⟨3, leastFollowing, 0x8f⟩
  else none

/-- The bytes that continue an encoding, at most as many as follow. -/
def following : Continuation → List UInt8 → List UInt8
  | ⟨0, _, _⟩, _ => []
  | _, [] => []
  | ⟨count + 1, low, high⟩, byte :: rest =>
      if low ≤ byte.toNat ∧ byte.toNat ≤ high then
        byte :: following ⟨count, leastFollowing, greatestFollowing⟩ rest
      else []

/-- The number of a character by its encoding of several bytes: the low bits of the first byte,
and six bits of each other. -/
def characterNumber (first : Nat) (others : List UInt8) : Nat :=
  others.foldl (fun number byte => number * 64 + byte.toNat % 64)
    (first % 2 ^ (6 - others.length))

/-- The first character of a text, and how many bytes after the first one belong to it. -/
def readCharacter (first : UInt8) (rest : List UInt8) : Char × Nat :=
  if first.toNat < leastFollowing then (Char.ofNat first.toNat, 0)
  else
    match continuation? first.toNat with
    | none => (replacement, 0)
    | some continuation =>
        let others := following continuation rest
        if others.length = continuation.count then
          (Char.ofNat (characterNumber first.toNat others), others.length)
        else (replacement, others.length)

/-- The text of bytes after a number of bytes that belong to the character before. -/
def decodeFrom : Nat → List UInt8 → List Char
  | _, [] => []
  | belonging + 1, _ :: rest => decodeFrom belonging rest
  | 0, first :: rest =>
      let read := readCharacter first rest
      read.1 :: decodeFrom read.2 rest

/-- The text that bytes encode. -/
def decode (bytes : List UInt8) : List Char := decodeFrom 0 bytes

/-- The bytes of a text. -/
def encode (text : List Char) : List UInt8 := text.flatMap String.utf8EncodeChar

/-- The bytes that belong to the character before are passed over. -/
theorem decodeFrom_eq_drop (belonging : Nat) (bytes : List UInt8) :
    decodeFrom belonging bytes = decode (bytes.drop belonging) := by
  induction bytes generalizing belonging with
  | nil => cases belonging <;> simp [decode, decodeFrom]
  | cons first rest ih =>
      cases belonging with
      | zero => rfl
      | succ belonging => simp [decodeFrom, ih]

@[simp] theorem decode_nil : decode [] = [] := rfl

/-- The first character is read, and the others are those of the bytes after it. -/
theorem decode_cons (first : UInt8) (rest : List UInt8) :
    decode (first :: rest) =
      (readCharacter first rest).1 :: decode (rest.drop (readCharacter first rest).2) := by
  rw [decode, decodeFrom]
  exact congrArg _ (decodeFrom_eq_drop _ _)

end Toolpath.Text.Utf8
