/-
**Words that are written are read back.**

A numeral is read as far as it goes: it is read back from any text that starts with it and does not
go on with a digit or a point.  A word is a letter with a numeral, so words can stand next to each
other without anything between them.

Main definitions:

* `Toolpath.Numeral.WellFormed` — the parts make up a numeral of the grammar;
* `Toolpath.Numeral.exact` — the magnitude that a numeral writes.

Main results:

* `Toolpath.Numeral.read?_text_append` — **a numeral is read back**;
* `Toolpath.Numeral.value_roundsTo` — its value is the correct rounding of what it writes;
* `Toolpath.words_text_append` — **a word is read back**, and the words after it;
* `Toolpath.words_append_of_noLetter` — what holds no letter of a word is passed over.
-/

import Toolpath.Proofs.CommandWord
import Toolpath.Proofs.Nearest
import Toolpath.Word

set_option relaxedAutoImplicit false
set_option autoImplicit false

namespace Toolpath

open Text

/-! ### Numerals -/

namespace Numeral

/-- The parts make up a numeral: a sign is plus or minus, the digits are decimal ones, there is a
digit before or after the point, and there are digits after the point only if there is a point. -/
structure WellFormed (numeral : Numeral) : Prop where
  sign_mem : ∀ c ∈ numeral.sign, c = '+' ∨ c = '-'
  whole_decimal : ∀ d ∈ numeral.whole, isDecimalDigit d = true
  fraction_decimal : ∀ d ∈ numeral.fraction, isDecimalDigit d = true
  fraction_nil : numeral.point = false → numeral.fraction = []
  digits_ne : numeral.whole ≠ [] ∨ numeral.fraction ≠ []

/-- The magnitude that a numeral writes. -/
def exact (numeral : Numeral) : ℚ :=
  digitsValue (numeral.whole ++ numeral.fraction) / 10 ^ numeral.fraction.length

/-- The value of a numeral is the correct rounding of the magnitude that it writes, with its
sign. -/
theorem value_roundsTo (numeral : Numeral) :
    Binary64.RoundsTo (numeral.sign == some '-') numeral.exact numeral.value :=
  Binary64.ofDecimal_roundsTo _ _ _

/-- The text does not go on with a digit or a point. -/
def Ends (rest : List Char) : Prop := ∀ c ∈ rest.head?, isDecimalDigit c = false ∧ c ≠ '.'

theorem readUnsigned?_append {sign : Option Char} {whole fraction rest : List Char} {point : Bool}
    (h : WellFormed ⟨sign, whole, point, fraction⟩) (hrest : Ends rest) :
    readUnsigned? sign (whole ++ ((if point then ['.'] else []) ++ (fraction ++ rest))) =
      some ⟨sign, whole, point, fraction⟩ := by
  have hne := h.digits_ne
  have hfraction : DigitRun fraction rest := ⟨h.fraction_decimal, fun c hc => (hrest c hc).1⟩
  unfold readUnsigned?
  cases point with
  | false =>
      obtain rfl : fraction = [] := h.fraction_nil rfl
      have hwhole : DigitRun whole rest := ⟨h.whole_decimal, hfraction.maximal⟩
      have hempty : whole.isEmpty = false :=
        List.isEmpty_eq_false_iff.2 (hne.resolve_right (by simp))
      rw [if_neg (by decide), List.nil_append, List.nil_append]
      dsimp only
      rw [hwhole.takeWhile_eq, hwhole.dropWhile_eq, hempty]
      cases rest with
      | nil => rfl
      | cons c rest =>
          dsimp only
          rw [if_neg (hrest c rfl).2]
          rfl
  | true =>
      have hwhole : DigitRun whole ('.' :: (fraction ++ rest)) :=
        ⟨h.whole_decimal, by rintro c hc; cases hc; decide⟩
      have hempty : (whole.isEmpty && fraction.isEmpty) = false := by
        rw [Bool.and_eq_false_iff, List.isEmpty_eq_false_iff, List.isEmpty_eq_false_iff]
        exact hne
      rw [if_pos rfl, List.singleton_append]
      dsimp only
      rw [hwhole.takeWhile_eq, hwhole.dropWhile_eq]
      dsimp only
      rw [if_pos rfl, hfraction.takeWhile_eq, hempty]
      rfl

/-- The characters of a numeral are decimal digits, signs and the point. -/
theorem WellFormed.mem_text {numeral : Numeral} (h : numeral.WellFormed) {c : Char}
    (hc : c ∈ numeral.text) : isDecimalDigit c = true ∨ c ∈ ['+', '-', '.'] := by
  simp only [text, List.mem_append, Option.mem_toList] at hc
  rcases hc with ((hc | hc) | hc) | hc
  · rcases h.sign_mem c hc with rfl | rfl <;> exact .inr (by decide)
  · exact .inl (h.whole_decimal c hc)
  · split at hc
    · obtain rfl := List.mem_singleton.1 hc
      exact .inr (by decide)
    · cases hc
  · exact .inl (h.fraction_decimal c hc)

theorem readSign_of_head {text : List Char} (h : ∀ c ∈ text.head?, c ≠ '+' ∧ c ≠ '-') :
    readSign text = (none, text) := by
  cases text with
  | nil => rfl
  | cons c rest =>
      obtain ⟨hplus, hminus⟩ := h c rfl
      rw [readSign, if_neg (by rintro (hc | hc) <;> contradiction)]

/-- **A numeral is read back**, whatever comes after it that does not go on with it. -/
theorem read?_text_append {numeral : Numeral} (h : numeral.WellFormed) {rest : List Char}
    (hrest : Ends rest) : read? (numeral.text ++ rest) = some numeral := by
  obtain ⟨sign, whole, point, fraction⟩ := numeral
  have hread := readUnsigned?_append h hrest
  rw [text, read?]
  dsimp only
  rw [List.append_assoc, List.append_assoc, List.append_assoc]
  cases sign with
  | some c =>
      have hsign : c = '+' ∨ c = '-' := h.sign_mem c rfl
      rw [Option.toList_some, List.singleton_append, readSign, if_pos hsign]
      exact hread
  | none =>
      rw [Option.toList_none, List.nil_append, readSign_of_head]
      · exact hread
      · -- without a sign, the first character is a digit or the point
        intro c hc
        cases whole with
        | cons d whole =>
            obtain rfl : d = c := Option.some.inj hc
            have hd : isDecimalDigit d = true := h.whole_decimal d (List.mem_cons_self ..)
            constructor <;> rintro rfl <;> exact absurd hd (by decide)
        | nil =>
            cases point with
            | true =>
                obtain rfl : '.' = c := Option.some.inj hc
                decide
            | false =>
                obtain rfl : fraction = [] := h.fraction_nil rfl
                exact absurd h.digits_ne (by simp)

end Numeral

/-! ### Words -/

/-- **A word is read back**, whatever comes after it that does not go on with its numeral. -/
theorem Word.read?_text_append {word : Word} (hletter : isWordLetter word.letter = true)
    (h : word.numeral.WellFormed) {rest : List Char} (hrest : Numeral.Ends rest) :
    Word.read? (word.text ++ rest) = some word := by
  rw [Word.text, List.cons_append, Word.read?, if_pos hletter,
    Numeral.read?_text_append h hrest]
  rfl

/-- The words of a text that starts with a word are that word and those of the rest. -/
theorem words_text_append {word : Word} (hletter : isWordLetter word.letter = true)
    (h : word.numeral.WellFormed) {rest : List Char} (hrest : Numeral.Ends rest) :
    words (word.text ++ rest) = word :: words rest := by
  rw [words_of_read (Word.read?_text_append hletter h hrest), List.drop_left]

/-- What holds no letter of a word is passed over. -/
theorem words_append_of_noLetter {front : List Char} (h : ∀ c ∈ front, isWordLetter c = false)
    (rest : List Char) : words (front ++ rest) = words rest := by
  induction front with
  | nil => rfl
  | cons c front ih =>
      have hread : Word.read? (c :: (front ++ rest)) = none := by
        rw [Word.read?, if_neg (by simp [h c (List.mem_cons_self ..)])]
      rw [List.cons_append, words_of_read_eq_none hread,
        ih fun d hd => h d (List.mem_cons_of_mem _ hd)]

end Toolpath
