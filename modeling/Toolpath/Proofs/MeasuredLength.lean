/-
**Which moves have a length.**

All coordinates and offsets of a program are finite, but nothing keeps them from being so large that
what is computed with them overflows.  A straight move then is infinitely long, and so is most that
is computed with an infinity.  One case is different: where the radius of an arc is out of range and
the arc turns by nothing, zero is multiplied by an infinity, and what comes out is no number, unless
the arc rises by an infinity itself.  Every other move has a length, which is no less than zero; and
the distances of a program are numbers unless such an arc is among its commands.  How the routines
round has no part in this, except in which arcs turn by nothing.

Main definitions:

* `Toolpath.Arc.IsUnmeasured`, `Toolpath.Command.IsUnmeasured` — the arcs without a length;
* `Toolpath.LengthsTold` — what becomes of the lengths and the distances of commands.

Main results:

* `Toolpath.nonneg_distance` — a straight move has a length;
* `Toolpath.Arc.length_eq_nan`, `Toolpath.Arc.nonneg_length` — **an arc has a length unless it is
  unmeasured**;
* `Toolpath.lengths_told` — **what becomes of the lengths of a program**;
* `Toolpath.unmeasured_helix` — not every arc of a program has a length.
-/

import Toolpath.Proofs.Corners
import Toolpath.Proofs.Drift
import Toolpath.Proofs.LawfulNumerics
import Toolpath.Statistics

set_option relaxedAutoImplicit false
set_option autoImplicit false

namespace Toolpath

namespace Binary64

/-! ### Numbers that are no less than zero -/

variable {a b : Binary64}

theorem isNaN_neg (a : Binary64) : (-a).isNaN = a.isNaN := by
  cases a <;> rfl

/-- A finite number and any number have a sum. -/
theorem isNaN_add (ha : a.isFinite = true) (hb : b.isNaN = false) : (a + b).isNaN = false := by
  cases a with
  | nan => cases ha
  | infinite => cases ha
  | finite s u hu =>
      cases b with
      | nan => cases hb
      | infinite => rfl
      | finite t v hv =>
          rw [finite_add_finite]
          split
          · rfl
          · exact isNaN_ofRatio _ _ Nat.one_pos

/-- A finite number and any number have a difference. -/
theorem isNaN_sub (ha : a.isFinite = true) (hb : b.isNaN = false) : (a - b).isNaN = false :=
  isNaN_add ha ((isNaN_neg b).trans hb)

/-- Of the two infinities only one is no less than zero. -/
theorem Nonneg.eq_infinite (h : Nonneg a) (hinfinite : a.isInfinite = true) :
    a = infinite false := by
  cases a with
  | nan => cases hinfinite
  | finite => cases hinfinite
  | infinite negative => rw [h.infinite_eq]

/-- The double is a zero of either sign. -/
def IsZero (c : Binary64) : Prop := ∃ negative, c = signedZero negative

/-- Zero times an infinity is no number. -/
theorem abs_mul_eq_nan (ha : a.IsZero) (hb : b.isInfinite = true) : a.abs * b = nan := by
  obtain ⟨negative, rfl⟩ := ha
  cases b with
  | nan => cases hb
  | finite => cases hb
  | infinite => rfl

/-- Otherwise a finite magnitude times what is no less than zero is no less than zero. -/
theorem nonneg_abs_mul (ha : a.isFinite = true) (hb : Nonneg b)
    (h : ¬ (a.IsZero ∧ b.isInfinite = true)) : Nonneg (a.abs * b) := by
  cases a with
  | nan => cases ha
  | infinite => cases ha
  | finite s u hu =>
      cases b with
      | nan => cases hb.isNaN_eq
      | infinite t =>
          obtain rfl := hb.infinite_eq
          have hne : u ≠ 0 := by
            rintro rfl
            exact h ⟨⟨s, rfl⟩, rfl⟩
          have hmul : (finite s u hu).abs * infinite false =
              if u = 0 then nan else infinite false := rfl
          rw [hmul, if_neg hne]
          exact nonneg_infinite
      | finite t v hv =>
          have hmul : (finite s u hu).abs * finite t v hv = _ := finite_mul_finite false t hu hv
          rw [hmul]
          cases t with
          | false => exact nonneg_ofRatio _ one_pos
          | true =>
              -- only a zero can have a minus sign here
              have hplace : 0 ≤ signed true v := hb.place_nonneg
              rw [signed, if_pos rfl] at hplace
              obtain rfl : v = 0 := by omega
              rw [Nat.mul_zero]
              exact ⟨by decide +kernel, by decide +kernel⟩

/-- Nothing is above an infinity. -/
theorem not_infinite_lt (c : Binary64) : ¬ infinite false < c := by
  intro h
  rw [lt_iff (isNaN_of_lt h).1 (isNaN_of_lt h).2, place_infinite] at h
  have hlimit := (abs_le.1 (abs_place_le_limit c)).2
  exact absurd h (not_lt.2 hlimit)

end Binary64

/-! ### Arcs and commands that are finite -/

namespace Arc

/-- The points and the offsets of an arc are finite. -/
structure IsFinite (arc : Arc Binary64) : Prop where
  start_finite : ∀ axis, (arc.start.on axis).isFinite = true
  finish_finite : ∀ axis, (arc.finish.on axis).isFinite = true
  i_finite : ∀ value ∈ arc.i, value.isFinite = true
  j_finite : ∀ value ∈ arc.j, value.isFinite = true

end Arc

namespace Command

/-- The command ends at finite coordinates, and its parameters are finite. -/
structure IsFinite (command : Command) : Prop where
  finish_finite : ∀ axis, (command.finish.on axis).isFinite = true
  parameters_finite : ∀ address, ∀ value ∈ command.parameters.get address, value.isFinite = true

theorem isFinite_arc {command earlier : Command} (h : command.IsFinite)
    (hearlier : earlier.IsFinite) : (command.arc earlier.finish).IsFinite where
  start_finite := hearlier.finish_finite
  finish_finite := h.finish_finite
  i_finite := h.parameters_finite .i
  j_finite := h.parameters_finite .j

end Command

/-- Every command of a program is finite. -/
theorem isFinite_of_mem_commands {settings : Settings} {lines : List String} {command : Command}
    (h : command ∈ (Run.ofLines settings lines).commands) : command.IsFinite where
  finish_finite := Run.isFinite_finish h
  parameters_finite := by
    intro address value hvalue
    obtain ⟨own, hown, -, hparameters⟩ := Run.exists_own_of_mem_commands h
    rw [hparameters] at hvalue
    exact isFinite_of_mem_motions hown hvalue

/-- In a list of finite commands, those next to each other are finite. -/
theorem isFinite_pair {commands front rest : List Command} {earlier command : Command}
    (hfinite : ∀ command ∈ commands, command.IsFinite)
    (h : commands = front ++ earlier :: command :: rest) :
    earlier.IsFinite ∧ command.IsFinite := by
  constructor
  · exact hfinite earlier (by simp [h])
  · exact hfinite command (by simp [h])

section Lengths

variable [Numerics]

/-! ### Arcs without a length -/

namespace Arc

/-- What an arc turns by, as seen from its centre. -/
def turn (arc : Arc Binary64) : Binary64 :=
  sweep (arc.angleOf arc.start) (arc.angleOf arc.finish) arc.clockwise

/-- The arc has a centre and turns by nothing, its radius is out of range, and its rise is not. -/
structure IsUnmeasured (arc : Arc Binary64) : Prop where
  centre : (arc.i.isNone && arc.j.isNone) = false
  radius_infinite : arc.radius.isInfinite = true
  turn_zero : arc.turn.IsZero
  rise_finite : (arc.finish.z - arc.start.z).isFinite = true

theorem planarLength_eq (arc : Arc Binary64) :
    arc.planarLength = arc.turn.abs * arc.radius := rfl

theorem length_eq (minRadius : Binary64) (arc : Arc Binary64) :
    arc.length minRadius =
      if arc.i.isNone && arc.j.isNone then distance arc.start arc.finish
      else if arc.radius < minRadius then 0
      else Numerics.hypotenuse arc.planarLength (arc.finish.z - arc.start.z) := rfl

/-- An offset is finite whether it is given or not. -/
theorem isFinite_offset {given : Option Binary64}
    (h : ∀ value ∈ given, value.isFinite = true) : (offset given).isFinite = true := by
  have hvalue : (given.getD 0).isFinite = true := by
    cases given with
    | none => exact Binary64.isFinite_zero
    | some value => exact h value rfl
  have hzero : Binary64.UpTo 0 0 := ⟨Binary64.isFinite_zero, by decide +kernel⟩
  have hoffset : offset given = given.getD 0 + (0 : Binary64) := rfl
  rw [hoffset]
  exact ((Binary64.upTo_magnitude hvalue).add hzero
    (Binary64.representable_magnitude hvalue)).isFinite

end Arc

namespace Command

/-- The command is an arc that has no length from where it starts. -/
structure IsUnmeasured (command : Command) (start : Point Binary64) : Prop where
  isArc : command.motion.isArc = true
  arc : (command.arc start).IsUnmeasured

/-- An arc cuts. -/
theorem IsUnmeasured.isCutting {command : Command} {start : Point Binary64}
    (h : command.IsUnmeasured start) : command.isCutting = true := by
  have harc := h.isArc
  rw [Command.isCutting]
  cases hmotion : command.motion with
  | clockwise => rfl
  | counterclockwise => rfl
  | _ =>
      rw [hmotion] at harc
      cases harc

end Command

/-! ### Commands in a row -/

variable {settings : Settings} {commands : List Command}

/-- Some command is an arc that has no length from where the command before it ends. -/
def HasUnmeasured (commands : List Command) : Prop :=
  ∃ front earlier command rest, commands = front ++ earlier :: command :: rest ∧
    command.IsUnmeasured earlier.finish

/-- Commands that follow another one have their lengths from where the one before ends. -/
theorem exists_earlier_of_mem_lengthsFrom {earlier command : Command} {length : Binary64}
    (h : (command, length) ∈ commands.zip (lengthsFrom settings earlier.finish commands)) :
    ∃ front before rest, earlier :: commands = front ++ before :: command :: rest ∧
      length = command.length settings before.finish := by
  induction commands generalizing earlier with
  | nil => cases h
  | cons next commands ih =>
      rw [lengthsFrom, List.zip_cons_cons] at h
      rcases List.mem_cons.1 h with h | h
      · obtain ⟨rfl, rfl⟩ := Prod.mk.inj h
        exact ⟨[], earlier, commands, rfl, rfl⟩
      · obtain ⟨front, before, rest, hcommands, hlength⟩ := ih h
        exact ⟨earlier :: front, before, rest, congrArg (earlier :: ·) hcommands, hlength⟩

/-- A command counts nothing, or has its length from where the one before ends. -/
theorem exists_earlier_of_mem_lengths {command : Command} {length : Binary64}
    (h : (command, length) ∈ commands.zip (lengths settings commands)) :
    length = 0 ∨ ∃ front before rest, commands = front ++ before :: command :: rest ∧
      length = command.length settings before.finish := by
  cases commands with
  | nil => cases h
  | cons first commands =>
      rw [lengths, List.zip_cons_cons] at h
      rcases List.mem_cons.1 h with h | h
      · exact .inl (Prod.mk.inj h).2
      · exact .inr (exists_earlier_of_mem_lengthsFrom h)

/-- The lengths of selected commands are among those of all. -/
theorem mem_lengths_of_mem_lengthsOf {select : Command → Bool} {length : Binary64}
    (h : length ∈ lengthsOf settings select commands) : length ∈ lengths settings commands := by
  obtain ⟨⟨command, _⟩, hentry, rfl⟩ := List.mem_map.1 h
  exact (List.of_mem_zip (List.mem_filter.1 hentry).1).2

/-- What becomes of the lengths and the distances of commands. -/
structure LengthsTold (settings : Settings) (commands : List Command) : Prop where
  /-- The first command counts nothing. -/
  first : ∀ first rest, commands = first :: rest → (lengths settings commands)[0]? = some 0
  /-- Every other one has a length, which is no less than zero, unless it is unmeasured; then its
  length is no number. -/
  later : ∀ front earlier command rest, commands = front ++ earlier :: command :: rest →
    ∃ length, (lengths settings commands)[front.length + 1]? = some length ∧
      (command.IsUnmeasured earlier.finish → length = .nan) ∧
      (¬ command.IsUnmeasured earlier.finish → length.Nonneg)
  /-- So all have one exactly if none is unmeasured. -/
  nonneg_iff : (∀ length ∈ lengths settings commands, length.Nonneg) ↔ ¬ HasUnmeasured commands
  /-- The whole way and that of the commands that cut are numbers just then. -/
  distances_nonneg : ¬ HasUnmeasured commands →
    (totalDistance settings commands).Nonneg ∧ (cuttingDistance settings commands).Nonneg
  distances_nan : HasUnmeasured commands →
    totalDistance settings commands = .nan ∧ cuttingDistance settings commands = .nan
  /-- The way of the rapid commands always is one. -/
  rapid_nonneg : (rapidDistance settings commands).Nonneg

variable [LawfulNumerics]

/-! ### Straight moves -/

/-- **A straight move between finite points has a length**, even if that is infinite. -/
theorem nonneg_distance {p q : Point Binary64} (hp : ∀ axis, (p.on axis).isFinite = true)
    (hq : ∀ axis, (q.on axis).isFinite = true) : (distance p q).Nonneg := by
  refine LawfulNumerics.nonneg_norm _ fun axis => ?_
  rw [Point.zipWith_on]
  exact Binary64.isNaN_sub (hq axis) (Binary64.isNaN_of_isFinite (hp axis))

/-! ### Arcs -/

namespace Arc

variable {arc : Arc Binary64}

theorem nonneg_radius (h : arc.IsFinite) : arc.radius.Nonneg :=
  LawfulNumerics.nonneg_hypotenuse _ _ (Binary64.isNaN_of_isFinite (isFinite_offset h.i_finite))
    (Binary64.isNaN_of_isFinite (isFinite_offset h.j_finite))

/-- Seen from the centre, a finite point is at an angle of at most half a turn. -/
theorem upTo_angleOf (h : arc.IsFinite) {p : Point Binary64}
    (hp : ∀ axis, (p.on axis).isFinite = true) :
    Binary64.UpTo Binary64.pi.magnitude (arc.angleOf p) := by
  have hcentre : ∀ {given : Option Binary64} {start : Binary64}, start.isFinite = true →
      (∀ value ∈ given, value.isFinite = true) → (start + offset given).isNaN = false := by
    intro given start hstart hgiven
    exact Binary64.isNaN_add hstart (Binary64.isNaN_of_isFinite (isFinite_offset hgiven))
  exact LawfulNumerics.upTo_angle _ _
    (Binary64.isNaN_sub (hp .y) (hcentre (h.start_finite .y) h.j_finite))
    (Binary64.isNaN_sub (hp .x) (hcentre (h.start_finite .x) h.i_finite))

theorem isFinite_turn (h : arc.IsFinite) : arc.turn.isFinite = true :=
  isFinite_sweep (upTo_angleOf h h.start_finite) (upTo_angleOf h h.finish_finite) arc.clockwise

/-- An infinite rise makes up for a length in the plane that is no number. -/
theorem nonneg_hypotenuse_nan {rise : Binary64} (hnumber : rise.isNaN = false)
    (hinfinite : rise.isFinite = false) : (Numerics.hypotenuse .nan rise).Nonneg := by
  cases rise with
  | nan => cases hnumber
  | finite => cases hinfinite
  | infinite negative =>
      rw [LawfulNumerics.hypotenuse_nan_infinite]
      exact Binary64.nonneg_infinite

/-- An unmeasured arc has no length, -/
theorem length_eq_nan (minRadius : Binary64) (h : arc.IsUnmeasured) (hfinite : arc.IsFinite) :
    arc.length minRadius = .nan := by
  have hradius := (nonneg_radius hfinite).eq_infinite h.radius_infinite
  have hplanar : arc.planarLength = .nan := by
    rw [planarLength_eq]
    exact Binary64.abs_mul_eq_nan h.turn_zero h.radius_infinite
  rw [length_eq, h.centre, if_neg Bool.false_ne_true, hradius,
    if_neg (Binary64.not_infinite_lt minRadius), hplanar]
  exact LawfulNumerics.hypotenuse_nan _ h.rise_finite

/-- and every other one has one. -/
theorem nonneg_length (minRadius : Binary64) (h : ¬ arc.IsUnmeasured) (hfinite : arc.IsFinite) :
    (arc.length minRadius).Nonneg := by
  have hrise : (arc.finish.z - arc.start.z).isNaN = false :=
    Binary64.isNaN_sub (hfinite.finish_finite .z)
      (Binary64.isNaN_of_isFinite (hfinite.start_finite .z))
  rw [length_eq]
  split
  · exact nonneg_distance hfinite.start_finite hfinite.finish_finite
  · rename_i hcentre
    split
    · exact Binary64.nonneg_zero
    · rw [planarLength_eq]
      by_cases hlost : arc.turn.IsZero ∧ arc.radius.isInfinite = true
      · -- what the arc turns by is lost, and only an infinite rise makes up for it
        have hinfinite : (arc.finish.z - arc.start.z).isFinite = false := by
          rw [← Bool.not_eq_true]
          intro hrise
          exact h ⟨Bool.eq_false_iff.2 hcentre, hlost.2, hlost.1, hrise⟩
        rw [Binary64.abs_mul_eq_nan hlost.1 hlost.2]
        exact nonneg_hypotenuse_nan hrise hinfinite
      · have hplanar := Binary64.nonneg_abs_mul (isFinite_turn hfinite)
          (nonneg_radius hfinite) hlost
        exact LawfulNumerics.nonneg_hypotenuse _ _ hplanar.isNaN_eq hrise

end Arc

/-! ### Commands -/

namespace Command

variable {command earlier : Command}

theorem length_eq_nan (settings : Settings) (h : command.IsFinite) (hearlier : earlier.IsFinite)
    (hlost : command.IsUnmeasured earlier.finish) :
    command.length settings earlier.finish = .nan := by
  rw [length, if_pos hlost.isArc]
  exact Arc.length_eq_nan _ hlost.arc (isFinite_arc h hearlier)

theorem nonneg_length (settings : Settings) (h : command.IsFinite) (hearlier : earlier.IsFinite)
    (hnot : ¬ command.IsUnmeasured earlier.finish) :
    (command.length settings earlier.finish).Nonneg := by
  rw [length]
  split
  · rename_i harc
    exact Arc.nonneg_length _ (fun hlost => hnot ⟨harc, hlost⟩) (isFinite_arc h hearlier)
  · exact nonneg_distance hearlier.finish_finite h.finish_finite

end Command

section Finite

variable (hfinite : ∀ command ∈ commands, command.IsFinite)

include hfinite

/-- A length that is listed beside its command is no less than zero, or that command is
unmeasured. -/
theorem nonneg_or_unmeasured {command : Command} {length : Binary64}
    (h : (command, length) ∈ commands.zip (lengths settings commands)) :
    length.Nonneg ∨ (HasUnmeasured commands ∧ command.motion.isArc = true) := by
  rcases exists_earlier_of_mem_lengths h with hzero | ⟨front, before, rest, hcommands, rfl⟩
  · rw [hzero]
    exact .inl Binary64.nonneg_zero
  · obtain ⟨hbefore, hcommand⟩ := isFinite_pair hfinite hcommands
    by_cases hlost : command.IsUnmeasured before.finish
    · exact .inr ⟨⟨front, before, command, rest, hcommands, hlost⟩, hlost.isArc⟩
    · exact .inl (Command.nonneg_length settings hcommand hbefore hlost)

/-- The lengths of selected commands are no less than zero if no arc among them is unmeasured. -/
theorem nonneg_of_mem_lengthsOf {select : Command → Bool}
    (hselect : HasUnmeasured commands → ∀ command, select command = true →
      command.motion.isArc = false) :
    ∀ length ∈ lengthsOf settings select commands, length.Nonneg := by
  intro length hlength
  obtain ⟨⟨command, _⟩, hentry, rfl⟩ := List.mem_map.1 hlength
  obtain ⟨hzip, hchosen⟩ := List.mem_filter.1 hentry
  rcases nonneg_or_unmeasured hfinite hzip with hnonneg | ⟨hunmeasured, harc⟩
  · exact hnonneg
  · rw [hselect hunmeasured command hchosen] at harc
    cases harc

theorem nonneg_of_mem_lengths (hnone : ¬ HasUnmeasured commands) :
    ∀ length ∈ lengths settings commands, length.Nonneg := by
  intro length hlength
  have hsnd : (commands.zip (lengths settings commands)).map Prod.snd =
      lengths settings commands := List.map_snd_zip (by simp)
  rw [← hsnd] at hlength
  obtain ⟨⟨command, _⟩, hentry, rfl⟩ := List.mem_map.1 hlength
  exact (nonneg_or_unmeasured hfinite hentry).resolve_right fun h => hnone h.1

/-- The length of an unmeasured arc is among those of the commands that cut. -/
theorem nan_mem_lengthsOf (h : HasUnmeasured commands) :
    .nan ∈ lengthsOf settings Command.isCutting commands := by
  obtain ⟨front, earlier, command, rest, hcommands, hlost⟩ := h
  obtain ⟨hearlier, hcommand⟩ := isFinite_pair hfinite hcommands
  have hlength := getElem?_lengths settings front earlier command rest
  rw [← hcommands, Command.length_eq_nan settings hcommand hearlier hlost] at hlength
  have hindex : commands[front.length + 1]? = some command := by
    rw [hcommands, List.getElem?_append_right (by omega)]
    simp
  have hentry : (command, .nan) ∈ commands.zip (lengths settings commands) := by
    refine List.mem_of_getElem? (i := front.length + 1) ?_
    rw [List.getElem?_zip_eq_some]
    exact ⟨hindex, hlength⟩
  exact List.mem_map.2 ⟨_, List.mem_filter.2 ⟨hentry, hlost.isCutting⟩, rfl⟩

/-- **What becomes of the lengths of finite commands.** -/
theorem lengthsTold_of_isFinite (settings : Settings) : LengthsTold settings commands where
  first := by
    rintro first rest rfl
    rfl
  later := by
    intro front earlier command rest h
    obtain ⟨hearlier, hcommand⟩ := isFinite_pair hfinite h
    refine ⟨command.length settings earlier.finish, ?_, ?_, ?_⟩
    · rw [h, getElem?_lengths]
    · exact Command.length_eq_nan settings hcommand hearlier
    · exact Command.nonneg_length settings hcommand hearlier
  nonneg_iff := by
    refine ⟨fun hall hunmeasured => ?_, nonneg_of_mem_lengths hfinite⟩
    have hnan := hall .nan (mem_lengths_of_mem_lengthsOf (nan_mem_lengthsOf hfinite hunmeasured))
    cases hnan.isNaN_eq
  distances_nonneg := by
    intro hnone
    constructor
    · exact LawfulSum.nonneg_sum _ (nonneg_of_mem_lengths hfinite hnone)
    · exact LawfulSum.nonneg_sum _ (nonneg_of_mem_lengthsOf hfinite fun h => absurd h hnone)
  distances_nan := by
    intro hunmeasured
    have hcutting : .nan ∈ lengthsOf settings Command.isCutting commands :=
      nan_mem_lengthsOf hfinite hunmeasured
    exact ⟨LawfulSum.sum_eq_nan _ (mem_lengths_of_mem_lengthsOf hcutting),
      LawfulSum.sum_eq_nan _ hcutting⟩
  rapid_nonneg := by
    refine LawfulSum.nonneg_sum _ (nonneg_of_mem_lengthsOf hfinite fun _ command hrapid => ?_)
    rw [beq_iff_eq.1 hrapid]
    rfl

end Finite

/-! ### Programs -/

/-- **What becomes of the lengths of a program.**  All are no less than zero, and so are the
distances, unless an arc of the program is unmeasured. -/
theorem lengths_told (settings : Settings) (text : String) :
    LengthsTold settings (analyzeText settings text).commands :=
  lengthsTold_of_isFinite (fun _ h => isFinite_of_mem_commands h) settings

end Lengths

/-! ### A helix about a far centre -/

/-- An offset that is a double, but whose square root of two times is out of range. -/
def farOffset : Numeral := ⟨none, '1' :: '7' :: List.replicate 307 '0', false, []⟩

/-- The words of a helix that rises by one above the point where it starts. -/
def helixWords : List Word := [⟨'Z', ⟨none, ['1'], false, []⟩⟩, ⟨'I', farOffset⟩, ⟨'J', farOffset⟩]

/-- The code of this helix. -/
def helixCode : List Char := 'G' :: '2' :: helixWords.flatMap fun word => ' ' :: word.text

/-- A program with this helix. -/
def farHelix : String := String.ofList ("G0 X0\n".toList ++ helixCode ++ ['\n'])

/-- The command of this helix. -/
def helixCommand : Command := commandOf .clockwise 2 helixCode ['G', '2'] helixWords

theorem splitLines_farHelix :
    Text.splitLines farHelix = ["G0 X0\n".toList, helixCode ++ ['\n']].map String.ofList := by
  have hlines : Text.linesOf (Text.unifyNewlines ("G0 X0\n".toList ++ helixCode ++ ['\n'])) =
      ["G0 X0\n".toList, helixCode ++ ['\n']] := by
    decide +kernel
  unfold Text.splitLines farHelix
  rw [String.toList_ofList, hlines]

theorem readLine_helixCode :
    readLine 2 (String.ofList (helixCode ++ ['\n'])) = .motion helixCommand [] := by
  have hcode : stripComment (helixCode ++ ['\n']) = helixCode := by decide +kernel
  have hcapitals : Text.capitals helixCode = helixCode := by decide +kernel
  have hword : commandWord? helixCode = some ['G', '2'] := by decide +kernel
  have hwords : words helixCode = helixWords := by decide +kernel
  have hdiagnostics : wordDiagnostics helixCommand helixWords = [] := by decide +kernel
  rw [readLine, String.toList_ofList, hcode, readCode]
  dsimp only
  rw [hcapitals, hword, hwords]
  exact congrArg (Reading.motion helixCommand) hdiagnostics

/-- The run of the program before its helix. -/
def helixStart : Run := Run.empty.next {} "G0 X0\n"

/-- The outcome of the helix, and the machine after it. -/
def helixOutcome : Outcome × Machine := helixStart.machine.perform {} helixCommand []

theorem ofLines_farHelix : Run.ofLines {} (Text.splitLines farHelix) =
    helixStart.push helixOutcome.1 helixOutcome.2 := by
  have hnumber : ((helixStart.outcomes.size : Nat) : Int) + 1 = 2 := by decide +kernel
  have hnext : helixStart.next {} (String.ofList (helixCode ++ ['\n'])) =
      helixStart.push helixOutcome.1 helixOutcome.2 := by
    rw [Run.next, hnumber, Machine.step_of_motion readLine_helixCode, helixOutcome]
  rw [splitLines_farHelix, Run.ofLines, List.map_cons, List.map_cons, List.map_nil,
    String.ofList_toList, List.foldl_cons, List.foldl_cons, List.foldl_nil, ← helixStart, hnext]

section Standard

attribute [local instance] Numerics.standard

theorem getElem?_lengths_farHelix :
    (lengths {} (analyzeText {} farHelix).commands)[1]? = some .nan := by
  rw [analyzeText, analyzeLines, ofLines_farHelix]
  decide +kernel

/-- With the standard routines this is what becomes of the distances of this program. -/
theorem distances_farHelix : LawfulNumerics ∧
    totalDistance {} (analyzeText {} farHelix).commands = .nan ∧
    cuttingDistance {} (analyzeText {} farHelix).commands = .nan ∧
    (rapidDistance {} (analyzeText {} farHelix).commands).Nonneg := by
  have htold := lengths_told {} farHelix
  have hunmeasured : HasUnmeasured (analyzeText {} farHelix).commands := by
    by_contra hnone
    have hnan := htold.nonneg_iff.2 hnone .nan (List.mem_of_getElem? getElem?_lengths_farHelix)
    cases hnan.isNaN_eq
  obtain ⟨htotal, hcutting⟩ := htold.distances_nan hunmeasured
  exact ⟨.standard, htotal, hcutting, htold.rapid_nonneg⟩

/-- Not all lengths and distances of a program are numbers: this helix turns by nothing, and its
radius is out of range. -/
theorem unmeasured_helix :
    ¬ ((∀ length ∈ lengths {} (analyzeText {} farHelix).commands, length.Nonneg) ∧
      (totalDistance {} (analyzeText {} farHelix).commands).isNaN = false ∧
      (cuttingDistance {} (analyzeText {} farHelix).commands).isNaN = false ∧
      (rapidDistance {} (analyzeText {} farHelix).commands).isNaN = false) := by
  intro h
  have hnan := h.1 .nan (List.mem_of_getElem? getElem?_lengths_farHelix)
  cases hnan.isNaN_eq

end Standard

end Toolpath
