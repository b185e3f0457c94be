/-
**Rounding quotients and taking roots of natural numbers.**

Every inexact step of this library is a quotient of two natural numbers brought to the nearest
natural number, or an integer square root.  Both are computed exactly, so what a computation
loses is visible in one place.

Main definitions:

* `Toolpath.roundHalfEven` — the natural number nearest a quotient, a tie going to the even one;
* `Toolpath.squareRoot` — the integer part of a square root.

Main results:

* `Toolpath.roundHalfEven_mul` — a whole quotient is its own rounding;
* `Toolpath.roundHalfEven_le`, `Toolpath.le_roundHalfEven` — rounding never crosses a whole
  number.
-/

set_option relaxedAutoImplicit false
set_option autoImplicit false

namespace Toolpath

-- Powers are those of the natural numbers themselves, here and in all modules that build on this
-- one, whatever else is in scope.
attribute [instance (10000)] instPowNat

/-! ### The nearest natural number -/

/-- The natural number nearest `num / den`; of two equally near ones the even one. -/
def roundHalfEven (num den : Nat) : Nat :=
  let whole := num / den
  let rest := num % den
  if 2 * rest < den then whole
  else if den < 2 * rest then whole + 1
  else if whole % 2 = 0 then whole else whole + 1

/-- A whole quotient is its own rounding. -/
theorem roundHalfEven_mul {den : Nat} (whole : Nat) (h : 0 < den) :
    roundHalfEven (whole * den) den = whole := by
  simp [roundHalfEven, Nat.mul_div_cancel _ h, h]

/-- The rounding is the integer part of the quotient or the number after it. -/
theorem roundHalfEven_eq_or (num den : Nat) :
    roundHalfEven num den = num / den ∨
      (roundHalfEven num den = num / den + 1 ∧ (den ≤ 2 * (num % den))) := by
  unfold roundHalfEven
  dsimp only
  split
  · exact Or.inl rfl
  · split
    · exact Or.inr ⟨rfl, by omega⟩
    · split
      · exact Or.inl rfl
      · exact Or.inr ⟨rfl, by omega⟩

/-- A quotient of at least `bound` is rounded to at least `bound`. -/
theorem le_roundHalfEven {num den bound : Nat} (hden : 0 < den) (h : bound * den ≤ num) :
    bound ≤ roundHalfEven num den := by
  have hq : bound ≤ num / den := (Nat.le_div_iff_mul_le hden).2 h
  rcases roundHalfEven_eq_or num den with he | ⟨he, _⟩ <;> omega

/-- A quotient of at most `bound` is rounded to at most `bound`. -/
theorem roundHalfEven_le {num den bound : Nat} (hden : 0 < den) (h : num ≤ bound * den) :
    roundHalfEven num den ≤ bound := by
  rcases Nat.lt_or_ge num (bound * den) with hlt | hge
  · have hq : num / den < bound := (Nat.div_lt_iff_lt_mul hden).2 hlt
    rcases roundHalfEven_eq_or num den with he | ⟨he, _⟩ <;> omega
  · have hnum : num = bound * den := Nat.le_antisymm h hge
    exact Nat.le_of_eq (by rw [hnum, roundHalfEven_mul bound hden])

/-! ### The integer square root -/

/-- One chain of the averaging method from above: `guess` is replaced by the mean of itself and
`n / guess` as long as that makes it smaller. -/
def squareRootFrom (n : Nat) : Nat → Nat → Nat
  | 0, guess => guess
  | fuel + 1, guess =>
      let next := (guess + n / guess) / 2
      if next < guess then squareRootFrom n fuel next else guess

/-- The integer part of the square root of `n`.  The chain starts at a power of two above the
root, and its distance from the root at least halves in every step, so as many steps as `n` has
binary digits are enough. -/
def squareRoot (n : Nat) : Nat :=
  if n = 0 then 0 else squareRootFrom n (n.log2 + 1) (2 ^ (n.log2 / 2 + 1))

end Toolpath
