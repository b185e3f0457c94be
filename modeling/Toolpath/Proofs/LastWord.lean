/-
**The last word counts.**

A parameter has the number of the last word for it that has a finite one.  Words whose numbers are
too large, and words that address nothing, leave all parameters as they are.

Main definitions:

* `Toolpath.valuesFor` — the finite numbers that words give for a parameter, in their order.

Main results:

* `Toolpath.Parameters.get_ofWords` — **a parameter has the last of these numbers**.
-/

import Mathlib.Data.List.Induction
import Toolpath.Word

set_option relaxedAutoImplicit false
set_option autoImplicit false

namespace Toolpath

/-- The finite numbers that words give for a parameter, in the order of the words. -/
def valuesFor (address : Address) (ws : List Word) : List Binary64 :=
  (ws.filter fun word =>
    Address.ofLetter? word.letter = some address && word.value.isFinite).map Word.value

theorem valuesFor_append (address : Address) (front rest : List Word) :
    valuesFor address (front ++ rest) = valuesFor address front ++ valuesFor address rest := by
  rw [valuesFor, List.filter_append, List.map_append, valuesFor, valuesFor]

theorem valuesFor_singleton (address : Address) (word : Word) :
    valuesFor address [word] =
      if Address.ofLetter? word.letter = some address && word.value.isFinite then [word.value]
      else [] := by
  rw [valuesFor, List.filter_cons, List.filter_nil]
  split <;> rfl

theorem isFinite_of_mem_valuesFor {address : Address} {ws : List Word} {value : Binary64}
    (h : value ∈ valuesFor address ws) : value.isFinite = true := by
  obtain ⟨word, hword, rfl⟩ := List.mem_map.1 h
  exact (Bool.and_eq_true_iff.1 (List.mem_filter.1 hword).2).2

namespace Parameters

@[simp] theorem get_empty (address : Address) : get {} address = none := by
  cases address <;> rfl

/-- One more word replaces its own parameter, if its number is finite, and no other. -/
theorem get_apply (parameters : Parameters) (word : Word) (address : Address) :
    (parameters.apply word).get address =
      if Address.ofLetter? word.letter = some address && word.value.isFinite then some word.value
      else parameters.get address := by
  rw [apply]
  cases hletter : Address.ofLetter? word.letter with
  | none => simp
  | some own =>
      dsimp only
      cases hfinite : word.value.isFinite with
      | false => simp
      | true =>
          rw [if_pos rfl, get_set]
          simp [eq_comm]

/-- **A parameter has the last finite number that words give for it.** -/
theorem get_ofWords (ws : List Word) (address : Address) :
    (ofWords ws).get address = (valuesFor address ws).getLast? := by
  induction ws using List.reverseRecOn with
  | nil => exact get_empty address
  | append_singleton ws word ih =>
      have hstep : ofWords (ws ++ [word]) = (ofWords ws).apply word := by
        rw [ofWords, List.foldl_append]
        rfl
      rw [hstep, get_apply, valuesFor_append, List.getLast?_append, valuesFor_singleton, ih]
      split <;> rfl

end Parameters

end Toolpath
