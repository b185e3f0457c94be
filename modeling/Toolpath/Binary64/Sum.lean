/-
**Sums of many doubles.**

Every addition rounds, so the sum of a list depends on the order of the additions.  Long lists are
halved again and again, and what is left is added up in eight columns, which are then added in
pairs; in this way no number takes part in many additions.  Only the shortest lists are added from
the left.

Main definitions:

* `Toolpath.Binary64.sumLeft` — the sum from the left;
* `Toolpath.Binary64.sumBlock` — the sum by columns;
* `Toolpath.Binary64.sumHalves` — the sum of any list.
-/

import Toolpath.Binary64.Basic

set_option relaxedAutoImplicit false
set_option autoImplicit false

namespace Toolpath

namespace Binary64

/-- The sum from the left. -/
def sumLeft (xs : List Binary64) : Binary64 := xs.foldl (· + ·) 0

/-! ### Columns -/

/-- The number of columns. -/
def columnCount : Nat := 8

/-- The sums of the columns with all rows of a list added to them, and what is left of the list
after its last full row. -/
def addRows (sums xs : List Binary64) : List Binary64 × List Binary64 :=
  if columnCount ≤ xs.length then
    addRows (List.zipWith (· + ·) sums (xs.take columnCount)) (xs.drop columnCount)
  else (sums, xs)
termination_by xs.length
decreasing_by
  rename_i h
  have hpos : 0 < columnCount := by decide
  rw [List.length_drop]
  omega

/-- The sums of neighbours. -/
def addPairs : List Binary64 → List Binary64
  | a :: b :: rest => (a + b) :: addPairs rest
  | rest => rest

/-- The sum by columns: those are added in pairs, and then what is left after the last row. -/
def sumBlock (xs : List Binary64) : Binary64 :=
  match addRows (xs.take columnCount) (xs.drop columnCount) with
  | (sums, rest) => sumLeft (addPairs (addPairs (addPairs sums)) ++ rest)

/-! ### Halves -/

/-- The longest list that is not halved. -/
def blockLength : Nat := 128

/-- Where a list is halved, which is after a full row. -/
def halfLength (length : Nat) : Nat := length / 2 - length / 2 % columnCount

/-- The sum of a list. -/
def sumHalves (xs : List Binary64) : Binary64 :=
  if xs.length < columnCount then sumLeft xs
  else if xs.length ≤ blockLength then sumBlock xs
  else
    sumHalves (xs.take (halfLength xs.length)) + sumHalves (xs.drop (halfLength xs.length))
termination_by xs.length
decreasing_by
  all_goals
    rename_i h
    rw [blockLength] at h
    simp only [List.length_take, List.length_drop, halfLength, columnCount]
    omega

end Binary64

end Toolpath
