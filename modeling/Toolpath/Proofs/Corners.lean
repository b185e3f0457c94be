/-
**The corners of a box are extremes.**

Both corners move in the same way: a coordinate replaces the one before it if it comes first by the
order of that corner.  A not-a-number comes first before nothing, so it never replaces a coordinate,
and a corner that is replaced once is at a coordinate of some point ever after.  Which of two equal
coordinates that is depends on the order of the points, but where it lies does not.

Main definitions:

* `Toolpath.Corner` — the two corners of a box, and `Toolpath.Corner.before` the order of each;
* `Toolpath.Corner.IsExtreme` — the coordinate that comes first in a list;
* `Toolpath.Bounds.IsExact` — a box has the extremes of points at its corners;
* `Toolpath.Analysis.BoxIsExact` — the box of a program is the exact one around its commands.

Main results:

* `Toolpath.Bounds.isExact_around` — **the box around points is exact**;
* `Toolpath.Corner.IsExtreme.rank?_eq` — lists with the same numbers have extremes at one place;
* `Toolpath.growsInto_push`, `Toolpath.growsInto_concat` — a step of any run, and so a line, grows
  the box by the end of the command that it records;
* `Toolpath.box_exact` — **the box of a program is exact**, in whatever order it grew.
-/

import Toolpath.Analysis
import Toolpath.Proofs.EndPoint

set_option relaxedAutoImplicit false
set_option autoImplicit false

namespace Toolpath

namespace Binary64

theorem abs_signed (negative : Bool) (n : Nat) : |signed negative n| = n := by
  cases negative <;> simp [signed]

/-- Apart from zero, a number tells its sign. -/
theorem eq_of_signed_eq {a b : Bool} {n : Nat} (h : signed a n = signed b n) (hn : 0 < n) :
    a = b := by
  cases a <;> cases b <;> simp [signed] at h ⊢ <;> omega

/-- No double lies further out than an infinity. -/
theorem abs_place_le_limit (c : Binary64) : |c.place| ≤ limit := by
  cases c with
  | nan => exact Int.natCast_nonneg limit
  | infinite negative => rw [place_infinite, abs_signed]
  | finite negative units h =>
      rw [place_finite, abs_signed]
      exact Int.ofNat_le.2 h.2.le

/-- Only an infinity lies as far out as an infinity. -/
theorem eq_infinite_of_place {c : Binary64} {negative : Bool}
    (h : c.place = signed negative limit) (hc : c.isNaN = false) : c = infinite negative := by
  cases c with
  | nan => cases hc
  | infinite own => rw [eq_of_signed_eq h limit_pos]
  | finite own units hunits =>
      have habs : |signed own units| = |signed negative limit| := by rw [← h, place_finite]
      rw [abs_signed, abs_signed, Int.natCast_inj] at habs
      exact absurd habs hunits.2.ne

end Binary64

open Binary64

/-! ### The two corners -/

/-- The two corners of a box. -/
inductive Corner where
  | least
  | greatest
  deriving DecidableEq

/-- A corner of a box. -/
def Bounds.corner (bounds : Bounds) : Corner → Point Binary64
  | .least => bounds.least
  | .greatest => bounds.greatest

namespace Corner

/-- The first double comes before the second one on the way to a corner. -/
def before : Corner → Binary64 → Binary64 → Prop
  | least, a, b => a < b
  | greatest, a, b => b < a

/-- Where the corner of a box around no points is, on every axis. -/
def sentinel : Corner → Binary64
  | least => .infinite false
  | greatest => .infinite true

/-- What a corner moves to at one more coordinate. -/
def choose : Corner → Binary64 → Binary64 → Binary64
  | least => Binary64.least
  | greatest => Binary64.greatest

variable {corner : Corner} {a b c : Binary64}

/-- What comes before something is a number, and so is what it comes before. -/
theorem isNaN_of_before (h : corner.before a b) : a.isNaN = false ∧ b.isNaN = false := by
  cases corner with
  | least => exact isNaN_of_lt h
  | greatest => exact (isNaN_of_lt h).symm

theorem not_before_self : ¬ corner.before a a := by
  intro h
  obtain ⟨ha, -⟩ := isNaN_of_before h
  cases corner <;> exact lt_irrefl _ ((lt_iff ha ha).1 h)

theorem before_trans (hab : corner.before a b) (hbc : corner.before b c) : corner.before a c := by
  obtain ⟨ha, hb⟩ := isNaN_of_before hab
  obtain ⟨-, hc⟩ := isNaN_of_before hbc
  cases corner with
  | least => exact (lt_iff ha hc).2 (((lt_iff ha hb).1 hab).trans ((lt_iff hb hc).1 hbc))
  | greatest => exact (lt_iff hc ha).2 (((lt_iff hc hb).1 hbc).trans ((lt_iff hb ha).1 hab))

/-- Numbers of which neither comes before the other are at one place. -/
theorem rank?_eq_of_not_before (ha : a.isNaN = false) (hb : b.isNaN = false)
    (hab : ¬ corner.before a b) (hba : ¬ corner.before b a) : a.rank? = b.rank? := by
  rw [rank?_eq_place ha, rank?_eq_place hb]
  cases corner with
  | least =>
      rw [before, lt_iff ha hb] at hab
      rw [before, lt_iff hb ha] at hba
      rw [le_antisymm (not_lt.1 hba) (not_lt.1 hab)]
  | greatest =>
      rw [before, lt_iff hb ha] at hab
      rw [before, lt_iff ha hb] at hba
      rw [le_antisymm (not_lt.1 hab) (not_lt.1 hba)]

theorem isNaN_sentinel : corner.sentinel.isNaN = false := by
  cases corner <;> rfl

/-- Every number that is not at the sentinel comes before it. -/
theorem eq_sentinel (ha : a.isNaN = false) (h : ¬ corner.before a corner.sentinel) :
    a = corner.sentinel := by
  have hlimit := abs_le.1 (abs_place_le_limit a)
  cases corner with
  | least =>
      rw [before, lt_iff ha isNaN_sentinel, sentinel, place_infinite] at h
      refine eq_infinite_of_place ?_ ha
      simp only [signed, Bool.false_eq_true, if_false] at h ⊢
      omega
  | greatest =>
      rw [before, lt_iff isNaN_sentinel ha, sentinel, place_infinite] at h
      refine eq_infinite_of_place ?_ ha
      simp only [signed, if_true] at h ⊢
      omega

/-- A corner moves exactly to what comes before it. -/
theorem choose_cases (corner : Corner) (a b : Binary64) :
    (corner.before b a ∧ corner.choose a b = b) ∨
      (¬ corner.before b a ∧ corner.choose a b = a) := by
  cases corner with
  | least =>
      by_cases h : b < a
      · exact .inl ⟨h, if_pos h⟩
      · exact .inr ⟨h, if_neg h⟩
  | greatest =>
      by_cases h : a < b
      · exact .inl ⟨h, if_pos h⟩
      · exact .inr ⟨h, if_neg h⟩

/-! ### Extremes -/

/-- A double is the extreme of a list for a corner. -/
structure IsExtreme (corner : Corner) (cs : List Binary64) (c : Binary64) : Prop where
  /-- It is a number. -/
  isNaN_eq : c.isNaN = false
  /-- Nothing in the list comes before it. -/
  not_before : ∀ other ∈ cs, ¬ corner.before other c
  /-- It is in the list, or there is no number in the list and it is the sentinel. -/
  attained : c ∈ cs ∨ ((∀ other ∈ cs, other.isNaN = true) ∧ c = corner.sentinel)

namespace IsExtreme

theorem nil : corner.IsExtreme [] corner.sentinel where
  isNaN_eq := isNaN_sentinel
  not_before := by simp
  attained := by simp

/-- **One more coordinate moves the extreme as it moves the corner.** -/
theorem concat {cs : List Binary64} (h : corner.IsExtreme cs a) (b : Binary64) :
    corner.IsExtreme (cs ++ [b]) (corner.choose a b) := by
  rcases choose_cases corner a b with ⟨hfirst, hchoose⟩ | ⟨hlate, hchoose⟩
  · rw [hchoose]
    refine ⟨(isNaN_of_before hfirst).1, ?_, by simp⟩
    intro other hother
    rcases List.mem_append.1 hother with hother | hother
    · intro hbefore
      exact h.not_before other hother (before_trans hbefore hfirst)
    · rw [List.mem_singleton.1 hother]
      exact not_before_self
  · rw [hchoose]
    refine ⟨h.isNaN_eq, ?_, ?_⟩
    · intro other hother
      rcases List.mem_append.1 hother with hother | hother
      · exact h.not_before other hother
      · rwa [List.mem_singleton.1 hother]
    · rcases h.attained with hmem | ⟨hnone, hsentinel⟩
      · exact .inl (List.mem_append_left _ hmem)
      · -- the sentinel stays, since the coordinate is no number, or the coordinate is the sentinel
        rw [hsentinel] at hlate ⊢
        cases hnan : b.isNaN with
        | false =>
            rw [eq_sentinel hnan hlate]
            simp
        | true =>
            refine .inr ⟨?_, rfl⟩
            intro other hother
            rcases List.mem_append.1 hother with hother | hother
            · exact hnone other hother
            · rwa [List.mem_singleton.1 hother]

/-- **Lists with the same numbers have their extremes at one place.** -/
theorem rank?_eq {cs ds : List Binary64} (hc : corner.IsExtreme cs a) (hd : corner.IsExtreme ds b)
    (hmem : ∀ c, c ∈ cs ↔ c ∈ ds) : a.rank? = b.rank? := by
  rcases hc.attained with ha | ⟨hnone, ha⟩
  · rcases hd.attained with hb | ⟨hnone, -⟩
    · exact rank?_eq_of_not_before hc.isNaN_eq hd.isNaN_eq (hd.not_before a ((hmem a).1 ha))
        (hc.not_before b ((hmem b).2 hb))
    · exact absurd (hnone a ((hmem a).1 ha)) (by simp [hc.isNaN_eq])
  · rcases hd.attained with hb | ⟨-, hb⟩
    · exact absurd (hnone b ((hmem b).2 hb)) (by simp [hd.isNaN_eq])
    · rw [ha, hb]

end IsExtreme

end Corner

/-! ### Exact boxes -/

namespace Bounds

theorem corner_grow (bounds : Bounds) (p : Point Binary64) (corner : Corner) (axis : Axis) :
    ((bounds.grow p).corner corner).on axis =
      corner.choose ((bounds.corner corner).on axis) (p.on axis) := by
  cases corner <;> simp [Bounds.corner, grow, Corner.choose]

theorem corner_empty (corner : Corner) (axis : Axis) :
    (empty.corner corner).on axis = corner.sentinel := by
  cases corner <;> simp [Bounds.corner, empty, Corner.sentinel]

/-- A box has the extremes of the coordinates of points at its corners, on every axis. -/
def IsExact (bounds : Bounds) (points : List (Point Binary64)) : Prop :=
  ∀ (corner : Corner) (axis : Axis),
    corner.IsExtreme (points.map fun p => p.on axis) ((bounds.corner corner).on axis)

/-- The corners of two boxes are at the same places. -/
def SamePlaces (one other : Bounds) : Prop :=
  ∀ (corner : Corner) (axis : Axis),
    ((one.corner corner).on axis).rank? = ((other.corner corner).on axis).rank?

/-- **The box around points is exact.** -/
theorem isExact_around (points : List (Point Binary64)) : (around points).IsExact points := by
  intro corner axis
  induction points using List.reverseRecOn with
  | nil =>
      rw [around_nil, corner_empty]
      exact .nil
  | append_singleton points p ih =>
      rw [around_append, List.foldl_cons, List.foldl_nil, corner_grow, List.map_append]
      exact ih.concat (p.on axis)

/-- **The order of the points moves no corner.** -/
theorem samePlaces_of_perm {ps qs : List (Point Binary64)} (h : ps.Perm qs) :
    (around ps).SamePlaces (around qs) := by
  intro corner axis
  refine (isExact_around ps corner axis).rank?_eq (isExact_around qs corner axis) ?_
  intro c
  exact (h.map fun p => p.on axis).mem_iff

end Bounds

/-! ### The box of a program -/

/-- The box of a program is the exact one around the ends of its commands. -/
structure Analysis.BoxIsExact (analysis : Analysis) : Prop where
  /-- With a command both corners are finite. -/
  corner_finite : analysis.commands ≠ [] → ∀ (corner : Corner) (axis : Axis),
    ((analysis.bounds.corner corner).on axis).isFinite = true
  /-- All commands end in the box. -/
  contains : ∀ command ∈ analysis.commands, analysis.bounds.Contains command.finish
  /-- With a command each corner is, on each axis, where some command ends. -/
  attained : analysis.commands ≠ [] → ∀ (corner : Corner) (axis : Axis),
    ∃ command ∈ analysis.commands,
      command.finish.on axis = (analysis.bounds.corner corner).on axis
  /-- Without commands the corners are the sentinels. -/
  sentinels : analysis.commands = [] → ∀ (corner : Corner) (axis : Axis),
    (analysis.bounds.corner corner).on axis = corner.sentinel

theorem bounds_analyzeLines (settings : Settings) (lines : List String) :
    (analyzeLines settings lines).bounds =
      Bounds.around ((analyzeLines settings lines).commands.map Command.finish) :=
  Run.bounds_ofLines settings lines

/-- A command is recorded and its end goes into the box, or both stay as they are. -/
def Analysis.GrowsInto (analysis after : Analysis) : Prop :=
  (∃ command, after.commands = analysis.commands ++ [command] ∧
      after.bounds = analysis.bounds.grow command.finish) ∨
    (after.commands = analysis.commands ∧ after.bounds = analysis.bounds)

/-- **One more outcome grows the box by the end of the command that it gives**, and one that gives
none leaves the box as it is, whatever the run is. -/
theorem growsInto_push (settings : Settings) (run : Run) (outcome : Outcome) (machine : Machine) :
    (Analysis.ofRun settings run).GrowsInto
      (Analysis.ofRun settings (run.push outcome machine)) := by
  have hcommands := run.commands_push outcome machine
  have hbounds := run.bounds_push outcome machine
  cases hcommand : outcome.command? with
  | some command =>
      rw [hcommand] at hcommands hbounds
      exact .inl ⟨command, hcommands, hbounds⟩
  | none =>
      rw [hcommand, Option.toList_none, List.append_nil] at hcommands
      rw [hcommand] at hbounds
      exact .inr ⟨hcommands, hbounds⟩

/-- So does one more line. -/
theorem growsInto_concat (settings : Settings) (lines : List String) (line : String) :
    (analyzeLines settings lines).GrowsInto (analyzeLines settings (lines ++ [line])) := by
  obtain ⟨outcome, after, -, hnext⟩ := Run.exists_effect settings lines line
  rw [analyzeLines, analyzeLines, hnext]
  exact growsInto_push settings (Run.ofLines settings lines) outcome after

/-- With a command each corner is where some command ends. -/
theorem exists_command_at_corner {settings : Settings} {lines : List String}
    (h : (analyzeLines settings lines).commands ≠ []) (corner : Corner) (axis : Axis) :
    ∃ command ∈ (analyzeLines settings lines).commands,
      command.finish.on axis = ((analyzeLines settings lines).bounds.corner corner).on axis := by
  have hextreme := Bounds.isExact_around
    ((analyzeLines settings lines).commands.map Command.finish) corner axis
  rw [← bounds_analyzeLines, List.map_map] at hextreme
  rcases hextreme.attained with hmem | ⟨hnone, -⟩
  · obtain ⟨command, hcommand, heq⟩ := List.mem_map.1 hmem
    exact ⟨command, hcommand, heq⟩
  · -- a command ends at numbers
    obtain ⟨command, hcommand⟩ := List.exists_mem_of_ne_nil _ h
    have hnumber := isNaN_of_isFinite (Run.isFinite_finish hcommand axis)
    have hnan := hnone _ (List.mem_map_of_mem hcommand)
    rw [Function.comp_apply, hnumber] at hnan
    cases hnan

theorem boxIsExact (settings : Settings) (lines : List String) :
    (analyzeLines settings lines).BoxIsExact := by
  refine ⟨?_, ?_, ?_, ?_⟩
  · intro h corner axis
    obtain ⟨command, hcommand, heq⟩ := exists_command_at_corner h corner axis
    rw [← heq]
    exact Run.isFinite_finish hcommand axis
  · exact fun command hcommand => Run.contains_finish hcommand
  · exact exists_command_at_corner
  · intro h corner axis
    rw [bounds_analyzeLines, h]
    exact Bounds.corner_empty corner axis

/-- **A box is exact**: around any points its corners are at the extremes, which no other order of
the points moves; around the commands of a program it is tight, and it grows line by line. -/
theorem box_exact (settings : Settings) :
    (∀ points : List (Point Binary64), (Bounds.around points).IsExact points) ∧
      (∀ ps qs : List (Point Binary64), ps.Perm qs →
        (Bounds.around ps).SamePlaces (Bounds.around qs)) ∧
      (∀ lines : List String, (analyzeLines settings lines).BoxIsExact) ∧
      ∀ (lines : List String) (line : String),
        (analyzeLines settings lines).GrowsInto (analyzeLines settings (lines ++ [line])) :=
  ⟨Bounds.isExact_around, fun _ _ => Bounds.samePlaces_of_perm, boxIsExact settings,
    growsInto_concat settings⟩

/-- A point without an abscissa, and at the zero without a sign. -/
def unplaced : Point Binary64 := ⟨.nan, 0, .infinite true⟩

/-- A point at the zero with a minus sign. -/
def below : Point Binary64 := ⟨1, -0, 2⟩

theorem box_exact_swapped :
    [unplaced, below].Perm [below, unplaced] ∧
      (Bounds.around [unplaced, below]).SamePlaces (Bounds.around [below, unplaced]) ∧
      (Bounds.around [unplaced, below]).least.y ≠ (Bounds.around [below, unplaced]).least.y :=
  ⟨.swap .., (box_exact {}).2.1 _ _ (.swap ..), by decide +kernel⟩

end Toolpath
