/-
**Digits and white space.**

Digits of all scripts and white space are their own capitals, and no character is both.  So putting
a text in capitals moves no boundary that the reading of a line depends on, and trimming a text
takes no digit away.

Main definitions:

* `Toolpath.Text.lacksCapitals` — no character of a range has another capital form.

Main results:

* `Toolpath.Text.capitalForm_of_decimalDigit` — a decimal digit of any script is its own capital;
* `Toolpath.Text.capitalForm_of_blank` — so is white space;
* `Toolpath.Text.capitals_eq_self` — a text of such characters is in capitals already;
* `Toolpath.Text.isBlank_of_decimalDigit` — a digit is no white space.
-/

import Toolpath.Text.Blank
import Toolpath.Text.Case
import Toolpath.Text.Digit

set_option relaxedAutoImplicit false
set_option autoImplicit false

namespace Toolpath

namespace Text

/-! ### Ranges in no table -/

/-- The two ranges have no number in common. -/
def apart (first last first' last' : Nat) : Bool := last.blt first' || last'.blt first

/-- No character with a number from the first to the last has another capital form: none is a small
letter of ASCII, and none is in a table. -/
def lacksCapitals (first last : Nat) : Bool :=
  apart first last 97 122 && capitalRuns.all (fun run => apart first last run.first run.last) &&
    capitalExpansions.all fun expansion => apart first last expansion.1 expansion.1

theorem capitalForm_of_lacksCapitals {first last : Nat} (h : lacksCapitals first last = true)
    {c : Char} (hfirst : first ≤ c.toNat) (hlast : c.toNat ≤ last) : capitalForm c = [c] := by
  simp only [lacksCapitals, apart, Bool.and_eq_true, Bool.or_eq_true, List.all_eq_true,
    Nat.blt_eq] at h
  obtain ⟨⟨hsmall, hruns⟩, hexpansions⟩ := h
  have hbetween : ¬ (97 ≤ c.toNat ∧ c.toNat ≤ 122) := by omega
  have hrun : capitalRuns.find? (fun run => run.covers c.toNat) = none := by
    refine List.find?_eq_none.2 fun run hrun hcovers => ?_
    have := hruns run hrun
    simp only [CaseRun.covers, Bool.and_eq_true, decide_eq_true_eq] at hcovers
    omega
  have hexpansion : capitalExpansions.lookup c.toNat = none := by
    refine List.lookup_eq_none_iff.2 fun expansion hexpansion => ?_
    have := hexpansions expansion hexpansion
    rw [bne_iff_ne]
    omega
  unfold capitalForm
  rw [if_neg hbetween, otherForm?, hrun, hexpansion]
  exact ite_self _

/-- A text whose characters are all their own capitals is in capitals already. -/
theorem capitals_eq_self {text : List Char} (h : ∀ c ∈ text, capitalForm c = [c]) :
    capitals text = text := by
  induction text with
  | nil => rfl
  | cons c text ih =>
      rw [capitals_cons, h c (List.mem_cons_self ..),
        ih fun d hd => h d (List.mem_cons_of_mem _ hd), List.singleton_append]

/-! ### Digits -/

/-- A decimal digit is one of the ten that start with the zero of its script. -/
theorem exists_start_of_decimalDigit {c : Char} (h : isDecimalDigit c = true) :
    ∃ start ∈ decimalZeros, start ≤ c.toNat ∧ c.toNat ≤ start + 9 := by
  unfold isDecimalDigit decimalDigit? at h
  split at h
  · split at h
    · exact ⟨48, by decide, by omega, by omega⟩
    · cases h
  · rw [Option.isSome_map] at h
    obtain ⟨start, hstart⟩ := Option.isSome_iff_exists.1 h
    have hrange := List.find?_some hstart
    rw [decide_eq_true_eq] at hrange
    exact ⟨start, List.mem_of_find?_eq_some hstart, hrange⟩

theorem lacksCapitals_digits :
    ∀ start ∈ decimalZeros, lacksCapitals start (start + 9) = true := by
  decide +kernel

/-- **A decimal digit of any script is its own capital.** -/
theorem capitalForm_of_decimalDigit {c : Char} (h : isDecimalDigit c = true) :
    capitalForm c = [c] := by
  obtain ⟨start, hstart, hfirst, hlast⟩ := exists_start_of_decimalDigit h
  exact capitalForm_of_lacksCapitals (lacksCapitals_digits start hstart) hfirst hlast

/-! ### White space -/

/-- The ranges of white space. -/
def blankRanges : List (Nat × Nat) := [
  (9, 13), (28, 32), (0x85, 0x85), (0xA0, 0xA0), (0x1680, 0x1680), (0x2000, 0x200A),
  (0x2028, 0x2029), (0x202F, 0x202F), (0x205F, 0x205F), (0x3000, 0x3000)]

theorem exists_range_of_blank {c : Char} (h : isBlank c = true) :
    ∃ range ∈ blankRanges, range.1 ≤ c.toNat ∧ c.toNat ≤ range.2 := by
  simp only [isBlank, Bool.or_eq_true, Bool.and_eq_true, decide_eq_true_eq, beq_iff_eq] at h
  simp only [blankRanges, List.mem_cons, List.not_mem_nil, or_false, exists_eq_or_imp,
    exists_eq_left]
  omega

theorem lacksCapitals_blanks :
    ∀ range ∈ blankRanges, lacksCapitals range.1 range.2 = true := by
  decide +kernel

/-- **White space is its own capital.** -/
theorem capitalForm_of_blank {c : Char} (h : isBlank c = true) : capitalForm c = [c] := by
  obtain ⟨range, hrange, hfirst, hlast⟩ := exists_range_of_blank h
  exact capitalForm_of_lacksCapitals (lacksCapitals_blanks range hrange) hfirst hlast

/-! ### Digits are no white space -/

theorem apart_digits_blanks : ∀ start ∈ decimalZeros, ∀ range ∈ blankRanges,
    apart start (start + 9) range.1 range.2 = true := by
  decide +kernel

/-- A digit is no white space. -/
theorem isBlank_of_decimalDigit {c : Char} (h : isDecimalDigit c = true) : isBlank c = false := by
  obtain ⟨start, hstart, hfirst, hlast⟩ := exists_start_of_decimalDigit h
  rw [← Bool.not_eq_true]
  intro hblank
  obtain ⟨range, hrange, hfirst', hlast'⟩ := exists_range_of_blank hblank
  have hapart := apart_digits_blanks start hstart range hrange
  simp only [apart, Bool.or_eq_true, Nat.blt_eq] at hapart
  omega

end Text

end Toolpath
