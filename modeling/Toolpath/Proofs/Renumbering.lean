/-
**Lines that ask for nothing only shift the numbers.**

Blank lines, comments, codes that move nothing: such lines are counted, and that is all.  A program
and what is left of it without them have the same bounds, lengths and rates, and the same commands
and diagnostics, but for the line numbers in them.  These are only labels: wherever one is kept, in
a command, in a diagnostic or among the segments that were cut, another numbering of the lines puts
another label in its place, and nothing is decided by it.

Main definitions:

* `Toolpath.askingLines` — the lines that ask for a motion, or that cannot be read;
* `Toolpath.place` — the number of such a line in the whole program;
* `Toolpath.Machine.Renumbers` — two machines differ in the labels only;
* `Toolpath.InertButNumbers` — a program differs from its asking lines in the labels only.

Main results:

* `Toolpath.Machine.Renumbers.step` — **a step under another number** is the same step, labels
  apart;
* `Toolpath.Machine.follow_filter_asks` — lines that ask for nothing can be left out of a run;
* `Toolpath.inertButNumbers` — **lines that ask for nothing only shift the numbers**.
-/

import Toolpath.Proofs.TwoRuns
import Toolpath.Statistics

set_option relaxedAutoImplicit false
set_option autoImplicit false

namespace Toolpath

/-! ### Labels -/

/-- The verdict with the line that it tells replaced. -/
def Verdict.renumber (f : Int → Int) : Verdict → Verdict
  | duplicate first => duplicate (f first)
  | verdict => verdict

theorem Verdict.cause?_renumber (f : Int → Int) (verdict : Verdict) (s : Segment) :
    (verdict.renumber f).cause? s = (verdict.cause? s).map (Cause.renumber f) := by
  cases verdict <;> rfl

/-- The outcome with the lines that it tells replaced. -/
def Outcome.renumber (f : Int → Int) : Outcome → Outcome
  | idle looseWords => idle looseWords
  | unreadable line reason => unreadable (f line) reason
  | dropped ds => dropped (ds.map (Diagnostic.renumber f))
  | recorded command ds => recorded (command.renumber f) (ds.map (Diagnostic.renumber f))

namespace Outcome

theorem command?_renumber (f : Int → Int) (outcome : Outcome) :
    (outcome.renumber f).command? = outcome.command?.map (Command.renumber f) := by
  cases outcome <;> rfl

theorem diagnostics_renumber (f : Int → Int) (outcome : Outcome) :
    (outcome.renumber f).diagnostics = outcome.diagnostics.map (Diagnostic.renumber f) := by
  cases outcome <;> rfl

end Outcome

/-- The analysis with the lines that it tells replaced. -/
def Analysis.renumber (f : Int → Int) (analysis : Analysis) : Analysis :=
  { analysis with
    commands := analysis.commands.map (Command.renumber f)
    diagnostics := analysis.diagnostics.map (Diagnostic.renumber f) }

/-- The wording of a diagnostic quotes no line but the one where a segment was cut first. -/
theorem Diagnostic.message_renumber (f : Int → Int) (d : Diagnostic) :
    (d.renumber f).message =
      match d.cause with
      | .duplicateToolpath start finish first =>
          duplicateMark ++ " segment from " ++ start.listed coordinateText ++ " to " ++
            finish.listed coordinateText ++ " duplicates line " ++ toString (f first)
      | cause => cause.message := by
  obtain ⟨line, cause⟩ := d
  cases cause <;> rfl

/-- Lengths do not depend on the numbers of the lines. -/
theorem lengths_renumber [Numerics] (settings : Settings) (f : Int → Int)
    (commands : List Command) :
    lengths settings (commands.map (Command.renumber f)) = lengths settings commands := by
  have hfrom : ∀ (start : Point Binary64) (commands : List Command),
      lengthsFrom settings start (commands.map (Command.renumber f)) =
        lengthsFrom settings start commands := by
    intro start commands
    induction commands generalizing start with
    | nil => rfl
    | cons command rest ih =>
        rw [List.map_cons, lengthsFrom, lengthsFrom, ih]
        rfl
  cases commands with
  | nil => rfl
  | cons command rest =>
      rw [List.map_cons, lengths, lengths, hfrom]
      rfl

/-- Neither do rates. -/
theorem rates_renumber (settings : Settings) (f : Int → Int) (commands : List Command) :
    rates settings (commands.map (Command.renumber f)) = rates settings commands := by
  rw [rates, rates]
  generalize settings.defaultFeedRate = feed
  induction commands generalizing feed with
  | nil => rfl
  | cons command rest ih =>
      rw [List.map_cons, ratesFrom, ratesFrom, ih]
      rfl

/-! ### Steps under other numbers -/

namespace Machine

/-- The two machines are the same but for the lines that segments are remembered by. -/
structure Renumbers (tolerance : Binary64) (f : Int → Int) (machine other : Machine) : Prop where
  tool_eq : other.tool = machine.tool
  pendingFeed_eq : other.pendingFeed = machine.pendingFeed
  firstLine?_eq : ∀ s, other.segments.firstLine? tolerance s =
    (machine.segments.firstLine? tolerance s).map f

namespace Renumbers

variable {settings : Settings} {f : Int → Int} {machine other : Machine}

theorem start (tolerance : Binary64) (f : Int → Int) : Renumbers tolerance f {} {} := by
  refine ⟨rfl, rfl, fun s => ?_⟩
  have hnone : SegmentIndex.empty.firstLine? tolerance s = none := by
    rw [SegmentIndex.firstLine?]
    split
    · rw [SegmentIndex.bucket_empty]
      rfl
    · rfl
  exact hnone.trans (congrArg (Option.map f) hnone).symm

/-- The verdict about a move is the same, its label apart, and the machines stay the same. -/
theorem judge (h : Renumbers settings.positionTolerance f machine other) (s : Segment)
    (line : Int) :
    (other.judge settings s (f line)).1 = (machine.judge settings s line).1.renumber f ∧
      ∀ t, (other.judge settings s (f line)).2.firstLine? settings.positionTolerance t =
        ((machine.judge settings s line).2.firstLine? settings.positionTolerance t).map f := by
  rw [Machine.judge, Machine.judge, h.tool_eq]
  split
  · rw [SegmentIndex.judge, SegmentIndex.judge]
    split
    · exact ⟨rfl, h.firstLine?_eq⟩
    · rw [h.firstLine?_eq]
      cases machine.segments.firstLine? settings.positionTolerance s with
      | some first => exact ⟨rfl, h.firstLine?_eq⟩
      | none =>
          -- the segment is remembered by both, each time by the number of its own line
          refine ⟨rfl, fun t => ?_⟩
          rw [Option.map_none]
          dsimp only
          rw [SegmentIndex.firstLine?_insert, SegmentIndex.firstLine?_insert, h.firstLine?_eq,
            Option.map_or, apply_ite (Option.map f)]
          rfl
  · exact ⟨rfl, h.firstLine?_eq⟩

theorem perform (h : Renumbers settings.positionTolerance f machine other) (command : Command)
    (ds : List Diagnostic) :
    (other.perform settings (command.renumber f) (ds.map (Diagnostic.renumber f))).1 =
        (machine.perform settings command ds).1.renumber f ∧
      Renumbers settings.positionTolerance f (machine.perform settings command ds).2
        (other.perform settings (command.renumber f) (ds.map (Diagnostic.renumber f))).2 := by
  have hsegment : other.segment (command.renumber f) = machine.segment command := by
    rw [segment, segment, h.tool_eq]
    rfl
  have hline : (command.renumber f).line = f command.line := rfl
  have hparameters : (command.renumber f).parameters = command.parameters := rfl
  obtain ⟨hverdict, hfirst⟩ := h.judge (machine.segment command) command.line
  unfold Machine.perform
  dsimp only
  rw [hsegment, hline, hparameters, h.tool_eq, h.pendingFeed_eq]
  generalize machine.judge settings (machine.segment command) command.line = judged at *
  generalize other.judge settings (machine.segment command) (f command.line) = judged' at *
  obtain ⟨verdict, segments⟩ := judged
  obtain ⟨verdict', segments'⟩ := judged'
  obtain rfl : verdict' = verdict.renumber f := hverdict
  have hreported : ds.map (Diagnostic.renumber f) ++
      ((verdict.renumber f).cause? (machine.segment command)).toList.map
        (Diagnostic.mk (f command.line)) =
        (ds ++ (verdict.cause? (machine.segment command)).toList.map
          (Diagnostic.mk command.line)).map (Diagnostic.renumber f) := by
    rw [Verdict.cause?_renumber, List.map_append]
    cases verdict.cause? (machine.segment command) <;> rfl
  dsimp only
  rw [hreported]
  cases verdict with
  | fresh => exact ⟨rfl, rfl, rfl, hfirst⟩
  | redundant => exact ⟨rfl, rfl, rfl, hfirst⟩
  | duplicate first => exact ⟨rfl, rfl, rfl, hfirst⟩

/-- **A step under another number** is the same step, labels apart. -/
theorem step (h : Renumbers settings.positionTolerance f machine other) (number : Int)
    (line : String) :
    (other.step settings (f number) line).1 = (machine.step settings number line).1.renumber f ∧
      Renumbers settings.positionTolerance f (machine.step settings number line).2
        (other.step settings (f number) line).2 := by
  have hlabel := readLine_eq_renumber f number line
  cases hread : readLine number line with
  | idle looseWords =>
      rw [hread] at hlabel
      rw [step_of_idle hread, step_of_idle hlabel]
      exact ⟨rfl, h⟩
  | unreadable reason =>
      rw [hread] at hlabel
      rw [step_of_unreadable hread, step_of_unreadable hlabel]
      exact ⟨rfl, h⟩
  | motion command ds =>
      rw [hread] at hlabel
      rw [step_of_motion hread, step_of_motion hlabel]
      exact h.perform command ds

end Renumbers

/-- A run under other numbers is the same run, labels apart. -/
theorem follow_renumber {settings : Settings} (f : Int → Int) (lines : List NumberedLine) :
    (follow settings {} (lines.map fun line => ⟨f line.number, line.text⟩)).1 =
        (follow settings {} lines).1.map (Outcome.renumber f) ∧
      (follow settings {} (lines.map fun line => ⟨f line.number, line.text⟩)).2.tool =
        (follow settings {} lines).2.tool := by
  obtain ⟨hcommon, hkept⟩ := @related_follow settings
    (Renumbers settings.positionTolerance f) (fun line other => other = ⟨f line.number, line.text⟩)
    (fun outcome other => other = outcome.renumber f)
    (by
      rintro machine other line - h rfl
      exact h.step line.number line.text)
    lines _ (List.forall₂_map_right_iff.2 (List.forall₂_same.2 fun _ _ => rfl)) {} {}
    (Renumbers.start _ f)
  have hmap := map_eq_of_forall₂ (g := id) hcommon fun _ _ h => h.symm
  rw [List.map_id] at hmap
  exact ⟨hmap.symm, hkept.tool_eq⟩

end Machine

/-! ### Lines that ask for nothing -/

/-- The line asks for nothing. -/
def Reading.isIdle : Reading → Bool
  | idle _ => true
  | _ => false

/-- The line asks for a motion, or it cannot be read. -/
def asks (line : String) : Bool := !(readLine 0 line).isIdle

theorem asks_eq_isIdle_not (number : Int) (line : String) :
    asks line = !(readLine number line).isIdle := by
  rw [readLine_eq_renumber (fun _ => number) 0 line, asks]
  cases readLine 0 line <;> rfl

/-- The numbered line asks for a motion, or it cannot be read. -/
def NumberedLine.isAsking (line : NumberedLine) : Bool := asks line.text

namespace Machine

/-- Lines that ask for nothing can be left out of a run: no command and no diagnostic goes with
them, and the machine at the end stays what it is. -/
theorem follow_filter_asks (settings : Settings) (machine : Machine) (lines : List NumberedLine) :
    (machine.follow settings (lines.filter NumberedLine.isAsking)).1.filterMap
          Outcome.command? =
        (machine.follow settings lines).1.filterMap Outcome.command? ∧
      (machine.follow settings (lines.filter NumberedLine.isAsking)).1.flatMap
          Outcome.diagnostics =
        (machine.follow settings lines).1.flatMap Outcome.diagnostics ∧
      (machine.follow settings (lines.filter NumberedLine.isAsking)).2 =
        (machine.follow settings lines).2 := by
  induction lines generalizing machine with
  | nil => exact ⟨rfl, rfl, rfl⟩
  | cons line rest ih =>
      by_cases hasks : line.isAsking = true
      · obtain ⟨hcommands, hdiagnostics, hlast⟩ :=
          ih (machine.step settings line.number line.text).2
        rw [List.filter_cons_of_pos hasks, follow_cons, follow_cons]
        dsimp only
        rw [List.filterMap_cons, List.filterMap_cons, List.flatMap_cons, List.flatMap_cons,
          hcommands, hdiagnostics, hlast]
        exact ⟨rfl, rfl, rfl⟩
      · have hidle : ∃ looseWords, readLine line.number line.text = .idle looseWords := by
          rw [NumberedLine.isAsking, asks_eq_isIdle_not line.number] at hasks
          cases hread : readLine line.number line.text with
          | idle looseWords => exact ⟨looseWords, rfl⟩
          | _ => simp [hread, Reading.isIdle] at hasks
        obtain ⟨looseWords, hread⟩ := hidle
        rw [List.filter_cons_of_neg hasks, follow_cons, step_of_idle hread]
        exact ih machine

end Machine

/-- The lines of a program that ask for a motion, or that cannot be read. -/
def askingLines (lines : List String) : List String := lines.filter asks

/-- The numbers of these lines in the program. -/
def askingNumbers (lines : List String) : List Int :=
  ((numberedFrom 1 lines).filter NumberedLine.isAsking).map NumberedLine.number

/-- The number in the program of the asking line with this number among the asking lines; zero
stays zero. -/
def place (lines : List String) (number : Int) : Int :=
  (0 :: askingNumbers lines).getD number.toNat 0

section Place

variable {lines : List String}

theorem map_text_filter_isAsking (number : Int) (lines : List String) :
    ((numberedFrom number lines).filter NumberedLine.isAsking).map NumberedLine.text =
      askingLines lines := by
  have hasking : NumberedLine.isAsking = asks ∘ NumberedLine.text := funext fun line => by
    rw [NumberedLine.isAsking, Function.comp_apply]
  rw [hasking, ← List.filter_map, map_text_numberedFrom, askingLines]

theorem length_askingNumbers (lines : List String) :
    (askingNumbers lines).length = (askingLines lines).length := by
  rw [← map_text_filter_isAsking 1, List.length_map, askingNumbers, List.length_map]

theorem place_zero (lines : List String) : place lines 0 = 0 := rfl

theorem place_succ (lines : List String) (index : Nat) :
    place lines (1 + index) = (askingNumbers lines).getD index 0 := by
  have hnumber : (1 + (index : Int)).toNat = index + 1 := by omega
  rw [place, hnumber, List.getD_cons_succ]

/-- The asking lines, each with its number in the program. -/
theorem map_place_numberedFrom (lines : List String) :
    (numberedFrom 1 (askingLines lines)).map (fun line => ⟨place lines line.number, line.text⟩) =
      (numberedFrom 1 lines).filter NumberedLine.isAsking := by
  refine List.ext_getElem? fun index => ?_
  have htext := congrArg (fun texts => texts[index]?) (map_text_filter_isAsking 1 lines)
  rw [List.getElem?_map] at htext
  rw [List.getElem?_map, getElem?_numberedFrom, Option.map_map, ← htext, Option.map_map]
  have hnumber : place lines (1 + index) =
      ((((numberedFrom 1 lines).filter NumberedLine.isAsking)[index]?).map
        NumberedLine.number).getD 0 := by
    rw [place_succ, askingNumbers, List.getD_eq_getElem?_getD, List.getElem?_map]
  cases hline : ((numberedFrom 1 lines).filter NumberedLine.isAsking)[index]? with
  | none => rfl
  | some line =>
      rw [hline] at hnumber
      rw [Option.map_some, Function.comp_apply, Function.comp_apply, hnumber]
      rfl

theorem pairwise_numberedFrom (number : Int) (lines : List String) :
    (∀ line ∈ numberedFrom number lines, number ≤ line.number) ∧
      (numberedFrom number lines).Pairwise fun line other => line.number < other.number := by
  induction lines generalizing number with
  | nil => exact ⟨fun _ hline => absurd hline List.not_mem_nil, List.Pairwise.nil⟩
  | cons line rest ih =>
      obtain ⟨hle, hpairwise⟩ := ih (number + 1)
      rw [numberedFrom]
      refine ⟨fun other hother => ?_, .cons (fun other hother => ?_) hpairwise⟩
      · rcases List.mem_cons.1 hother with rfl | hother
        · exact Int.le_refl number
        · have := hle other hother
          omega
      · have := hle other hother
        dsimp only
        omega

/-- The numbers of the asking lines increase, and they are positive. -/
theorem pairwise_askingNumbers (lines : List String) :
    (0 :: askingNumbers lines).Pairwise fun number other => number < other := by
  obtain ⟨hle, hpairwise⟩ := pairwise_numberedFrom 1 lines
  refine .cons (fun number hnumber => ?_) ?_
  · obtain ⟨line, hline, rfl⟩ := List.mem_map.1 hnumber
    have := hle line (List.mem_filter.1 hline).1
    omega
  · exact List.pairwise_map.2 (hpairwise.filter _)

theorem place_lt {number other : Int} (hpos : 0 ≤ number) (hlt : number < other)
    (hle : other ≤ (askingLines lines).length) : place lines number < place lines other := by
  have hother : other.toNat < (0 :: askingNumbers lines).length := by
    rw [List.length_cons, length_askingNumbers]
    omega
  have hnumber : number.toNat < (0 :: askingNumbers lines).length := by omega
  have hsorted := List.pairwise_iff_getElem.1 (pairwise_askingNumbers lines) number.toNat
    other.toNat hnumber hother (by omega)
  rw [place, place, List.getD_eq_getElem?_getD, List.getD_eq_getElem?_getD,
    List.getElem?_eq_getElem hnumber, List.getElem?_eq_getElem hother]
  exact hsorted

/-- The line at the place of an asking line is this line. -/
theorem exists_index_place {index : Nat} (h : index < (askingLines lines).length) :
    ∃ own : Nat, place lines (index + 1) = own + 1 ∧
      lines[own]? = some (askingLines lines)[index] := by
  have hline := congrArg (fun numbered => numbered[index]?) (map_place_numberedFrom lines)
  rw [List.getElem?_map, getElem?_numberedFrom, List.getElem?_eq_getElem h, Option.map_some,
    Option.map_some] at hline
  have hmem := (List.mem_filter.1 (List.mem_of_getElem? hline.symm)).1
  obtain ⟨own, hown⟩ := List.mem_iff_getElem?.1 hmem
  rw [getElem?_numberedFrom, Option.map_eq_some_iff] at hown
  obtain ⟨text, htext, heq⟩ := hown
  obtain ⟨hnumber, rfl⟩ := NumberedLine.mk.inj heq
  refine ⟨own, ?_, htext⟩
  rw [Int.add_comm, ← hnumber, Int.add_comm]

end Place

/-! ### The whole program -/

/-- A program differs from its asking lines in the numbers of the lines only. -/
structure InertButNumbers [Numerics] (settings : Settings) (lines : List String) : Prop where
  /-- What is reported about the whole program stays at line zero. -/
  place_zero : place lines 0 = 0
  /-- The asking lines keep their order. -/
  place_lt : ∀ number other : Int, 0 ≤ number → number < other →
    other ≤ (askingLines lines).length → place lines number < place lines other
  /-- The place of an asking line is its own number in the program. -/
  line_at_place : ∀ (index : Nat) (h : index < (askingLines lines).length),
    ∃ own : Nat, place lines (index + 1) = own + 1 ∧
      lines[own]? = some (askingLines lines)[index]
  /-- The analysis of the program is that of its asking lines under their own numbers, all lines
  being counted. -/
  analysis_eq : analyzeLines settings lines =
    { (analyzeLines settings (askingLines lines)).renumber (place lines) with
      lineCount := lines.length }
  /-- A message changes in the line that a duplicate quotes, and nowhere else. -/
  message_eq : ∀ d : Diagnostic, (d.renumber (place lines)).message =
    match d.cause with
    | .duplicateToolpath start finish first =>
        duplicateMark ++ " segment from " ++ start.listed coordinateText ++ " to " ++
          finish.listed coordinateText ++ " duplicates line " ++ toString (place lines first)
    | cause => cause.message
  /-- The moves are as long as without the other lines. -/
  lengths_eq : lengths settings (analyzeLines settings lines).commands =
    lengths settings (analyzeLines settings (askingLines lines)).commands
  /-- They have the same rates. -/
  rates_eq : rates settings (analyzeLines settings lines).commands =
    rates settings (analyzeLines settings (askingLines lines)).commands

theorem analyzeLines_eq_renumber (settings : Settings) (lines : List String) :
    analyzeLines settings lines =
      { (analyzeLines settings (askingLines lines)).renumber (place lines) with
        lineCount := lines.length } := by
  obtain ⟨hcommands, hdiagnostics, hlast⟩ := Machine.follow_filter_asks settings {}
    (numberedFrom 1 lines)
  obtain ⟨houtcomes, htool⟩ := @Machine.follow_renumber settings (place lines)
    (numberedFrom 1 (askingLines lines))
  rw [map_place_numberedFrom] at houtcomes htool
  rw [analyzeLines_eq_ofFollowed, analyzeLines_eq_ofFollowed, Analysis.ofFollowed,
    Analysis.ofFollowed, Analysis.renumber, ← hcommands, ← hdiagnostics, ← hlast, houtcomes, htool]
  generalize Machine.follow settings {} (numberedFrom 1 (askingLines lines)) = followed
  have hmap : (followed.1.map (Outcome.renumber (place lines))).filterMap Outcome.command? =
      (followed.1.filterMap Outcome.command?).map (Command.renumber (place lines)) := by
    rw [List.filterMap_map, List.map_filterMap]
    exact List.filterMap_congr fun outcome _ => Outcome.command?_renumber _ outcome
  have hflat : (followed.1.map (Outcome.renumber (place lines))).flatMap Outcome.diagnostics =
      (followed.1.flatMap Outcome.diagnostics).map (Diagnostic.renumber (place lines)) := by
    rw [List.flatMap_map, List.map_flatMap]
    exact List.flatMap_congr fun outcome _ => Outcome.diagnostics_renumber _ outcome
  dsimp only
  rw [hmap, hflat, List.map_append, List.map_map]
  cases followed.2.tool.hasMoved with
  | true => rfl
  | false => rfl

/-- **Lines that ask for nothing only shift the numbers.** -/
theorem inertButNumbers [Numerics] (settings : Settings) (lines : List String) :
    InertButNumbers settings lines where
  place_zero := Toolpath.place_zero lines
  place_lt _ _ hpos hlt hle := Toolpath.place_lt hpos hlt hle
  line_at_place _ h := exists_index_place h
  analysis_eq := analyzeLines_eq_renumber settings lines
  message_eq := Diagnostic.message_renumber (place lines)
  lengths_eq := by
    rw [analyzeLines_eq_renumber]
    exact lengths_renumber settings _ _
  rates_eq := by
    rw [analyzeLines_eq_renumber]
    exact rates_renumber settings _ _

end Toolpath
