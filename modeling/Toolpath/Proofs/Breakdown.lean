/-
**How counts and distances break down.**

Commands are counted by motion, and their lengths are summed for those that cut and for those that
are rapid.  In a program every command is of one of the four known motions and either cuts or is
rapid, so the four counts add up to all commands, and the two distances to all the way.  In any
list of commands what is left over belongs to the unknown motions.  A length depends on where the
command before ends, whatever kind that one is of; so the lengths are those of the whole list, and
only their sums are split.  The sums are meant without rounding.

Main definitions:

* `Toolpath.selected` — what is listed for the commands of some kind;
* `Toolpath.BreaksDown` — counts and distances of commands break down by kind;
* `Toolpath.IsComplete` — no command is left over.

Main results:

* `Toolpath.of_moveCounts` — counting in one pass gives the count of every motion;
* `Toolpath.countOf_add` — the counts of all motions add up;
* `Toolpath.sum_selected` — **the sums over the kinds add up**, whatever is summed;
* `Toolpath.breaksDown` — **counts and distances break down by kind**.
-/

import Mathlib.Algebra.BigOperators.Group.List.Basic
import Mathlib.Tactic.Abel
import Toolpath.Proofs.Effect
import Toolpath.Statistics

set_option relaxedAutoImplicit false
set_option autoImplicit false

namespace Toolpath

/-! ### Counts -/

namespace MotionCounts

theorem of_nil (motion : Motion) : of [] motion = 0 := rfl

theorem of_cons (known motion : Motion) (count : Nat) (rest : MotionCounts) :
    of ((known, count) :: rest) motion = if known = motion then count else of rest motion := by
  rw [of, List.lookup_cons]
  by_cases h : known = motion
  · simp [h]
  · rw [if_neg h, beq_eq_false_iff_ne.2 (Ne.symm h)]
    rfl

/-- A motion that is counted once more counts one more, and no other does. -/
theorem of_add (counts : MotionCounts) (motion other : Motion) :
    (counts.add motion).of other = counts.of other + if motion = other then 1 else 0 := by
  induction counts with
  | nil => rw [add, of_cons, of_nil, Nat.zero_add]
  | cons entry rest ih =>
      obtain ⟨known, count⟩ := entry
      rw [add, of_cons]
      by_cases hknown : known = motion
      · rw [if_pos hknown, of_cons, hknown]
        by_cases hother : motion = other
        · rw [if_pos hother, if_pos hother, if_pos hother]
        · rw [if_neg hother, if_neg hother, if_neg hother, Nat.add_zero]
      · rw [if_neg hknown, of_cons, ih]
        by_cases hother : known = other
        · have hne : motion ≠ other := fun h => hknown (hother.trans h.symm)
          rw [if_pos hother, if_pos hother, if_neg hne, Nat.add_zero]
        · rw [if_neg hother, if_neg hother]

end MotionCounts

theorem countOf_cons (motion : Motion) (command : Command) (rest : List Command) :
    countOf motion (command :: rest) =
      countOf motion rest + if command.motion = motion then 1 else 0 := by
  simp [countOf, List.countP_cons]

/-- **Counting in one pass gives the count of every motion.** -/
theorem of_moveCounts (commands : List Command) (motion : Motion) :
    (moveCounts commands).of motion = countOf motion commands := by
  suffices ∀ counts : MotionCounts,
      (commands.foldl (fun counts command => counts.add command.motion) counts).of motion =
        counts.of motion + countOf motion commands by
    rw [moveCounts, this, MotionCounts.of_nil, Nat.zero_add]
  induction commands with
  | nil => exact fun counts => rfl
  | cons command rest ih =>
      intro counts
      rw [List.foldl_cons, ih, MotionCounts.of_add, countOf_cons]
      omega

/-- **The counts of all motions add up to all commands.** -/
theorem countOf_add (commands : List Command) :
    countOf .rapid commands + countOf .linear commands + countOf .clockwise commands +
      countOf .counterclockwise commands + countOf .unknown commands = commands.length := by
  induction commands with
  | nil => rfl
  | cons command rest ih =>
      rw [List.length_cons, ← ih]
      simp only [countOf_cons]
      cases command.motion <;> simp only [reduceCtorEq, if_true, if_false] <;> omega

/-! ### Kinds of commands -/

/-- Nothing known is asked of the tool. -/
def Command.isUnknown (command : Command) : Bool := command.motion == .unknown

/-- A rapid command does not cut. -/
theorem Command.isRapid_and_not_isCutting (command : Command) :
    (command.isRapid && !command.isCutting) = command.isRapid := by
  rw [isRapid, isCutting]
  cases command.motion <;> rfl

/-- What is neither rapid nor cutting is unknown. -/
theorem Command.not_isRapid_and_not_isCutting (command : Command) :
    (!command.isRapid && !command.isCutting) = command.isUnknown := by
  rw [isRapid, isCutting, isUnknown]
  cases command.motion <;> rfl

/-- A command with a known motion either cuts or is rapid. -/
theorem Command.isRapid_eq_not_isCutting {command : Command}
    (h : command.motion.isMotion = true) : command.isRapid = !command.isCutting := by
  rw [isRapid, isCutting]
  cases hmotion : command.motion with
  | unknown =>
      rw [hmotion] at h
      cases h
  | _ => rfl

/-- A program gives commands with known motions only. -/
theorem isMotion_of_mem_commands {settings : Settings} {lines : List String} {command : Command}
    (h : command ∈ (Run.ofLines settings lines).commands) : command.motion.isMotion = true := by
  obtain ⟨own, hown, hmotion, -⟩ := Run.exists_own_of_mem_commands h
  rw [hmotion]
  exact isMotion_of_mem_motions hown

/-! ### Sums -/

/-- What is listed for the commands that are selected, out of what is listed for all commands. -/
def selected {α : Type} (select : Command → Bool) (commands : List Command) (xs : List α) :
    List α :=
  ((commands.zip xs).filter fun entry => select entry.1).map Prod.snd

theorem map_selected {α β : Type} (f : α → β) (select : Command → Bool) (commands : List Command)
    (xs : List α) :
    (selected select commands xs).map f = selected select commands (xs.map f) := by
  have hsnd : f ∘ Prod.snd = Prod.snd ∘ Prod.map (id : Command → Command) f := rfl
  have hselect : (fun entry : Command × β => select entry.1) ∘ Prod.map id f =
      fun entry => select entry.1 := rfl
  rw [selected, selected, List.zip_map_right, List.filter_map, List.map_map, List.map_map, hsnd,
    hselect]

/-- **The sums over the kinds add up**, whatever is summed for the commands. -/
theorem sum_selected {M : Type} [AddCommMonoid M] (commands : List Command) {xs : List M}
    (h : xs.length = commands.length) :
    xs.sum = (selected Command.isCutting commands xs).sum +
      (selected Command.isRapid commands xs).sum +
        (selected Command.isUnknown commands xs).sum := by
  have hxs : (commands.zip xs).map Prod.snd = xs := List.map_snd_zip (Nat.le_of_eq h)
  have hcutting := List.sum_map_filter_add_sum_map_filter_not
    (fun entry : Command × M => entry.1.isCutting = true) Prod.snd (commands.zip xs)
  have hrapid := List.sum_map_filter_add_sum_map_filter_not
    (fun entry : Command × M => entry.1.isRapid = true) Prod.snd
    ((commands.zip xs).filter fun entry => ¬ entry.1.isCutting = true)
  simp only [List.filter_filter, Bool.decide_eq_true, decide_not, Command.isRapid_and_not_isCutting,
    Command.not_isRapid_and_not_isCutting] at hcutting hrapid
  rw [hxs] at hcutting
  rw [← hcutting, ← hrapid, ← add_assoc]
  rfl

/-- Nothing is listed for unknown motions if there are none. -/
theorem selected_isUnknown {α : Type} {commands : List Command}
    (h : ∀ command ∈ commands, command.motion.isMotion = true) (xs : List α) :
    selected Command.isUnknown commands xs = [] := by
  rw [selected, List.map_eq_nil_iff, List.filter_eq_nil_iff]
  intro entry hentry hunknown
  have hmotion := h entry.1 (List.of_mem_zip hentry).1
  rw [beq_iff_eq.1 hunknown] at hmotion
  cases hmotion

/-- The sum of doubles, each of which stands for an exact amount, without any rounding. -/
def exactSum {M : Type} [AddCommMonoid M] (amount : Binary64 → M) (xs : List Binary64) : M :=
  (xs.map amount).sum

section Lengths

variable [Numerics]

/-- The lengths of the commands that are selected are taken from the lengths of all. -/
theorem lengthsOf_eq_selected (settings : Settings) (select : Command → Bool)
    (commands : List Command) :
    lengthsOf settings select commands =
      selected select commands (lengths settings commands) := rfl

/-- The lengths of a list of commands add up over the kinds. -/
theorem exactSum_lengths {M : Type} [AddCommMonoid M] (settings : Settings)
    (commands : List Command) (amount : Binary64 → M) :
    exactSum amount (lengths settings commands) =
      exactSum amount (lengthsOf settings Command.isCutting commands) +
        exactSum amount (lengthsOf settings Command.isRapid commands) +
          exactSum amount (lengthsOf settings Command.isUnknown commands) := by
  have hlength : ((lengths settings commands).map amount).length = commands.length := by
    rw [List.length_map, length_lengths]
  rw [exactSum, exactSum, exactSum, exactSum, lengthsOf_eq_selected, lengthsOf_eq_selected,
    lengthsOf_eq_selected, map_selected, map_selected, map_selected]
  exact sum_selected commands hlength

/-! ### The breakdown -/

/-- Counts and distances of commands break down by kind, with what is left over. -/
structure BreaksDown (settings : Settings) (commands : List Command) : Prop where
  /-- Counting in one pass gives the count of every motion. -/
  counts_eq : ∀ motion, (moveCounts commands).of motion = countOf motion commands
  /-- The counts leave the unknown motions over. -/
  counts_add : countOf .rapid commands + countOf .linear commands + countOf .clockwise commands +
    countOf .counterclockwise commands + countOf .unknown commands = commands.length
  /-- What is listed for the commands leaves that of the unknown motions over, whatever it is. -/
  sum_sub : ∀ {G : Type} [AddCommGroup G] (xs : List G), xs.length = commands.length →
    xs.sum - (selected Command.isCutting commands xs).sum -
      (selected Command.isRapid commands xs).sum =
        (selected Command.isUnknown commands xs).sum
  /-- So do the computed lengths, if they are summed without rounding. -/
  lengths_sub : ∀ {G : Type} [AddCommGroup G] (amount : Binary64 → G),
    exactSum amount (lengths settings commands) -
      exactSum amount (lengthsOf settings Command.isCutting commands) -
        exactSum amount (lengthsOf settings Command.isRapid commands) =
          exactSum amount (lengthsOf settings Command.isUnknown commands)

/-- Counts and distances of commands are complete: nothing is left over. -/
structure IsComplete (settings : Settings) (commands : List Command) : Prop where
  /-- The counts of the known motions add up to all commands. -/
  counts_add : countOf .rapid commands + countOf .linear commands + countOf .clockwise commands +
    countOf .counterclockwise commands = commands.length
  /-- There is one length for each command. -/
  length_eq : (lengths settings commands).length = commands.length
  /-- Every length belongs to a command that either cuts or is rapid. -/
  one_kind : ∀ index < (lengths settings commands).length, ∃ command,
    commands[index]? = some command ∧ command.isRapid = !command.isCutting
  /-- What is listed for the commands adds up over these kinds, whatever it is. -/
  sum_add : ∀ {M : Type} [AddCommMonoid M] (xs : List M), xs.length = commands.length →
    xs.sum = (selected Command.isCutting commands xs).sum +
      (selected Command.isRapid commands xs).sum
  /-- So do the computed lengths, if they are summed without rounding. -/
  lengths_add : ∀ {M : Type} [AddCommMonoid M] (amount : Binary64 → M),
    exactSum amount (lengths settings commands) =
      exactSum amount (lengthsOf settings Command.isCutting commands) +
        exactSum amount (lengthsOf settings Command.isRapid commands)

theorem breaksDown_commands (settings : Settings) (commands : List Command) :
    BreaksDown settings commands where
  counts_eq := of_moveCounts commands
  counts_add := countOf_add commands
  sum_sub := by
    intro G _ xs h
    rw [sum_selected commands h]
    abel
  lengths_sub := by
    intro G _ amount
    rw [exactSum_lengths settings commands amount]
    abel

/-- **Nothing is left over if every motion is known.** -/
theorem isComplete_of_isMotion (settings : Settings) {commands : List Command}
    (h : ∀ command ∈ commands, command.motion.isMotion = true) :
    IsComplete settings commands where
  counts_add := by
    have hunknown : countOf .unknown commands = 0 := by
      refine List.countP_eq_zero.2 fun command hcommand hmotion => ?_
      have hknown := h command hcommand
      rw [beq_iff_eq.1 hmotion] at hknown
      cases hknown
    rw [← countOf_add commands, hunknown, Nat.add_zero]
  length_eq := length_lengths settings commands
  one_kind := by
    intro index hindex
    rw [length_lengths] at hindex
    exact ⟨commands[index], List.getElem?_eq_getElem hindex,
      Command.isRapid_eq_not_isCutting (h _ (List.getElem_mem hindex))⟩
  sum_add := by
    intro M _ xs hxs
    rw [sum_selected commands hxs, selected_isUnknown h, List.sum_nil, add_zero]
  lengths_add := by
    intro M _ amount
    rw [exactSum_lengths settings commands amount, lengthsOf_eq_selected settings Command.isUnknown,
      selected_isUnknown h, exactSum, exactSum, exactSum, List.map_nil, List.sum_nil, add_zero]

end Lengths

end Toolpath
