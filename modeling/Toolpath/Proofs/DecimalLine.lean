/-
**Lines that give decimal numbers.**

A line can be written as a motion word and words after it that each give a number with a fixed
count of places.  If all of these numbers are in range, and an arc has an offset, then there is
nothing to report about such a line, and it leads to the coordinates that it gives.  A program that
is put together from such lines, and from lines that lead nowhere, leads the tool along a route.

Main definitions:

* `Toolpath.DecimalWord` — a parameter with a count of parts;
* `Toolpath.decimalLine` — a motion word and such words;
* `Toolpath.lastGiven` — the last number that words give for a parameter;
* `Toolpath.Leads` — a line of a program, and where it leads.

Main results:

* `Toolpath.clearGoal?_decimalLine` — **a line leads to the coordinates that it gives**;
* `Toolpath.IsComment.leads` — a comment leads nowhere;
* `Toolpath.analyzeText_route` — **only the moves along the route of a program are reported**.
-/

import Toolpath.Proofs.ProgramText
import Toolpath.Proofs.Route

set_option relaxedAutoImplicit false
set_option autoImplicit false

namespace Toolpath

open Text

/-! ### Words -/

/-- A parameter with a count of parts, of which `10 ^ places` make one. -/
structure DecimalWord where
  address : Address
  places : Nat
  parts : Int

namespace DecimalWord

/-- The word as it is written, with a blank before it. -/
def written (w : DecimalWord) : WrittenWord where
  gap := [' ']
  address := w.address
  small := false
  numeral := decimal w.places w.parts
  gap_blank := List.forall_mem_singleton.2 (by decide)
  wellFormed := wellFormed_decimal w.places w.parts

/-- The number that the word gives. -/
def value (w : DecimalWord) : Binary64 := Binary64.ofParts w.places w.parts

theorem value_written (w : DecimalWord) : w.written.value = w.value :=
  value_decimal w.places w.parts

end DecimalWord

/-- The last number that words give for a parameter. -/
def lastGiven (address : Address) (ws : List DecimalWord) : Option Binary64 :=
  ((ws.filter fun w => w.address = address).map DecimalWord.value).getLast?

/-! ### Lines -/

/-- A motion word with words after it. -/
def writtenLine (digit : Fin 4) (ws : List DecimalWord) : WrittenLine where
  zeros := 0
  zeros_le := Nat.zero_le _
  digit := digit
  words := ws.map DecimalWord.written

/-- The line as it is written. -/
def decimalLine (digit : Fin 4) (ws : List DecimalWord) : String :=
  String.ofList (writtenLine digit ws).text

theorem values_writtenLine {digit : Fin 4} {ws : List DecimalWord}
    (hfinite : ∀ w ∈ ws, w.value.isFinite = true) (address : Address) :
    ((writtenLine digit ws).values address).getLast? = lastGiven address ws := by
  have hfilter : ws.filter (fun w => (decide (w.written.address = address) &&
      w.written.value.isFinite)) = ws.filter fun w => w.address = address := by
    refine List.filter_congr fun w hw => ?_
    rw [w.value_written, hfinite w hw, Bool.and_true]
    rfl
  have hvalue : WrittenWord.value ∘ DecimalWord.written = DecimalWord.value :=
    funext DecimalWord.value_written
  rw [WrittenLine.values, writtenLine, List.filter_map, List.map_map, hvalue, lastGiven, ← hfilter]
  rfl

/-- **A line leads to the coordinates that it gives**, if its numbers are in range, and if it has an
offset when it is an arc. -/
theorem clearGoal?_decimalLine {digit : Fin 4} {ws : List DecimalWord}
    (hfinite : ∀ w ∈ ws, w.value.isFinite = true)
    (harc : digit.val ∈ [2, 3] → (lastGiven .i ws).isSome = true) :
    clearGoal? (decimalLine digit ws) =
      some (some ⟨lastGiven .x ws, lastGiven .y ws, lastGiven .z ws⟩) := by
  have hvalue : digitsValue (writtenLine digit ws).digits ≤ 3 := by
    rw [WrittenLine.digitsValue_digits]
    exact Nat.le_of_lt_succ digit.isLt
  have hread : readLine 0 (String.ofList (writtenLine digit ws).text) = _ :=
    readLine_of_motionWord (writtenLine digit ws).startsWord (writtenLine digit ws).length_digits
      hvalue
  dsimp only at hread
  rw [WrittenLine.lineWords_text] at hread
  generalize hcommand : commandOf _ 0 _ _ ((writtenLine digit ws).words.map WrittenWord.word) =
    command at hread
  have hget : ∀ address, command.parameters.get address = lastGiven address ws := by
    intro address
    rw [← hcommand, parameters_commandOf, Parameters.get_ofWords, WrittenLine.valuesFor_words,
      values_writtenLine hfinite]
  have hmotion : command.motion = Motion.ofWord 'G' digit := by
    rw [← hcommand, WrittenLine.digitsValue_digits]
    rfl
  have hclear :
      wordDiagnostics command ((writtenLine digit ws).words.map WrittenWord.word) = [] := by
    have hwords : (((writtenLine digit ws).words.map WrittenWord.word).filter fun word =>
        !word.value.isFinite) = [] := by
      refine List.filter_eq_nil_iff.2 fun word hword => ?_
      obtain ⟨written, hwritten, rfl⟩ := List.mem_map.1 hword
      obtain ⟨w, hw, rfl⟩ := List.mem_map.1 hwritten
      have hin : w.written.word.value.isFinite = true := by
        have hsame : w.written.word.value = w.written.value := rfl
        rw [hsame, w.value_written, hfinite w hw]
      rw [hin]
      decide
    have hoffset : (command.motion.isArc && !command.hasOffset) = false := by
      rw [← Bool.not_eq_true, missesOffset_iff (Nat.le_of_lt_succ digit.isLt) hmotion]
      rintro ⟨hdigit, hnone, -⟩
      have hsome := harc hdigit
      rw [← hget, Parameters.get, hnone] at hsome
      cases hsome
    rw [wordDiagnostics, hwords, hoffset]
    rfl
  rw [hclear] at hread
  rw [clearGoal?, decimalLine, hread, Reading.clearGoal?, Parameters.coordinates, ← hget .x,
    ← hget .y, ← hget .z]
  rfl

/-- The characters of a line. -/
theorem toList_decimalLine (digit : Fin 4) (ws : List DecimalWord) :
    (decimalLine digit ws).toList = 'G' :: Nat.digitChar digit ::
      ws.flatMap fun w => ' ' :: w.address.letter :: (decimal w.places w.parts).text := by
  rw [decimalLine, String.toList_ofList, WrittenLine.text, writtenLine, List.flatMap_map]
  rfl

theorem isOneLine_decimalLine (digit : Fin 4) (ws : List DecimalWord) :
    IsOneLine (decimalLine digit ws) := by
  have hdigit : ∀ digit : Fin 4, Nat.digitChar digit ≠ '\r' ∧ Nat.digitChar digit ≠ '\n' := by
    decide
  have hletter : ∀ address : Address, address.letter ≠ '\r' ∧ address.letter ≠ '\n' := by
    intro address
    cases address <;> decide
  intro c hc
  rw [toList_decimalLine] at hc
  rcases List.mem_cons.1 hc with rfl | hc
  · decide
  rcases List.mem_cons.1 hc with rfl | hc
  · exact hdigit digit
  obtain ⟨w, -, hc⟩ := List.mem_flatMap.1 hc
  rcases List.mem_cons.1 hc with rfl | hc
  · decide
  rcases List.mem_cons.1 hc with rfl | hc
  · exact hletter w.address
  · exact isOneLine_numeral (wellFormed_decimal w.places w.parts) c
      (by rwa [String.toList_ofList])

/-! ### Lines of programs -/

/-- A line of a program: it holds no terminator, there is nothing to report about its words, and it
leads nowhere, or to some coordinates. -/
structure Leads (line : String) (goal : Option (Point (Option Binary64))) : Prop where
  isOneLine : IsOneLine line
  clearGoal?_eq : clearGoal? line = some goal

instance (line : String) (goal : Option (Point (Option Binary64))) : Decidable (Leads line goal) :=
  decidable_of_iff (IsOneLine line ∧ clearGoal? line = some goal)
    ⟨fun h => ⟨h.1, h.2⟩, fun h => ⟨h.1, h.2⟩⟩

/-- A line with decimal numbers leads to the coordinates that it gives. -/
theorem leads_decimalLine {digit : Fin 4} {ws : List DecimalWord}
    (hfinite : ∀ w ∈ ws, w.value.isFinite = true)
    (harc : digit.val ∈ [2, 3] → (lastGiven .i ws).isSome = true) :
    Leads (decimalLine digit ws)
      (some ⟨lastGiven .x ws, lastGiven .y ws, lastGiven .z ws⟩) :=
  ⟨isOneLine_decimalLine digit ws, clearGoal?_decimalLine hfinite harc⟩

/-- The line is a comment. -/
structure IsComment (line : String) : Prop where
  isOneLine : IsOneLine line
  starts : line.toList.head?.any startsComment = true

instance (line : String) : Decidable (IsComment line) :=
  decidable_of_iff (IsOneLine line ∧ line.toList.head?.any startsComment = true)
    ⟨fun h => ⟨h.1, h.2⟩, fun h => ⟨h.1, h.2⟩⟩

namespace IsComment

/-- More text makes a longer comment. -/
theorem append {front back : String} (h : IsComment front) (hback : IsOneLine back) :
    IsComment (front ++ back) := by
  refine ⟨h.isOneLine.append hback, ?_⟩
  have hstarts := h.starts
  rw [String.toList_append]
  cases hfront : front.toList with
  | nil =>
      rw [hfront] at hstarts
      cases hstarts
  | cons c rest => rwa [hfront] at hstarts

/-- A comment can go on with a number and more text. -/
theorem append_shortest {front back : String} (h : IsComment front) (c : Binary64)
    (hback : IsOneLine back) : IsComment (front ++ c.shortest ++ back) :=
  (h.append (isOneLine_shortest c)).append hback

/-- A comment leads nowhere. -/
theorem leads {line : String} (h : IsComment line) : Leads line none := by
  refine ⟨h.isOneLine, ?_⟩
  have hstarts := h.starts
  cases hlist : line.toList with
  | nil =>
      rw [hlist] at hstarts
      cases hstarts
  | cons c rest =>
      have hmark : startsComment c = true := by rwa [hlist] at hstarts
      rw [clearGoal?, readLine, stripComment_eq_trim, hlist, List.takeWhile_cons, hmark]
      rfl

end IsComment

/-- **Only the moves along the route of a program are reported**, the first one apart; and the
commands are the first one and those of the other moves that have length. -/
theorem analyzeText_route (settings : Settings) {lines : List String}
    {goals : List (Option (Point (Option Binary64)))} (h : List.Forall₂ Leads lines goals)
    (hne : movesFrom Point.origin 1 goals ≠ []) :
    (analyzeText settings (programText lines)).diagnostics =
        SegmentIndex.empty.reports settings.positionTolerance
          (movesFrom Point.origin 1 goals).tail ∧
      (analyzeText settings (programText lines)).commands.length =
        1 + (movesFrom Point.origin 1 goals).tail.countP
          (Move.isLong settings.positionTolerance) := by
  have hlines : lines ≠ [] := by
    rintro rfl
    cases h
    exact hne rfl
  have honeLine : ∀ line ∈ lines, IsOneLine line := by
    intro line hline
    obtain ⟨place, hplace, rfl⟩ := List.getElem_of_mem hline
    exact (h.get hplace (h.length_eq ▸ hplace)).isOneLine
  have hlead : LeadTo lines goals := h.imp fun _ _ hleads => hleads.clearGoal?_eq
  rw [analyzeText_programText settings hlines honeLine]
  exact analyzeLines_route settings hlead hne

end Toolpath
