/-
**Only coordinates decide where the tool goes.**

Whether a move has length, and whether it follows a segment that was cut before, depends on the
coordinates that the lines give, and on nothing else that they say.  Two programs that give the same
coordinates at the same lines cut the same segments: their moves are dropped and reported at the
same lines, whichever of the four motions they ask for, and whatever their offsets, feed rates and
other words are.  A feed rate that waits for the next command differs, and decides nothing.

Main definitions:

* `Toolpath.goal?` — the coordinates that a motion gives;
* `Toolpath.Machine.SamePath` — the tool is at the same place, and has cut the same segments;
* `Toolpath.Outcome.SamePath`, `Toolpath.Analysis.SamePath` — the commands are at the same lines and
  end at the same points, and the same is reported about the path.

Main results:

* `Toolpath.Machine.SamePath.perform` — commands to the same goal do the same to the path;
* `Toolpath.Machine.SamePath.step` — so do lines;
* `Toolpath.analyzeLines_samePath` — **only coordinates decide where the tool goes**.
-/

import Toolpath.Proofs.TwoRuns

set_option relaxedAutoImplicit false
set_option autoImplicit false

namespace Toolpath

/-! ### Goals -/

/-- The coordinates among the parameters. -/
def Parameters.coordinates (parameters : Parameters) : Point (Option Binary64) :=
  ⟨parameters.x, parameters.y, parameters.z⟩

/-- The coordinates that a line gives, if it asks for a motion. -/
def goal? (line : String) : Option (Point (Option Binary64)) :=
  (readLine 0 line).command?.map fun command => command.parameters.coordinates

/-- The number of a line does not change the goal. -/
theorem goal?_eq_readLine (number : Int) (line : String) :
    goal? line =
      (readLine number line).command?.map fun command => command.parameters.coordinates := by
  rw [readLine_eq_renumber (fun _ => number) 0 line, goal?]
  cases readLine 0 line <;> rfl

/-- Where the tool goes depends on the coordinates only. -/
theorem Tool.target_eq_of_coordinates (tool : Tool) {parameters parameters' : Parameters}
    (h : parameters'.coordinates = parameters.coordinates) :
    tool.target parameters' = tool.target parameters := by
  obtain ⟨hx, hy, hz⟩ := Point.mk.inj h
  rw [target, target, hx, hy, hz]

/-! ### Paths -/

/-- The diagnostic is about the path of the tool. -/
def Diagnostic.isAboutPath (d : Diagnostic) : Bool := d.isRedundantMove || d.isDuplicateToolpath

/-- What there is to report about the path. -/
def Outcome.pathDiagnostics (outcome : Outcome) : List Diagnostic :=
  outcome.diagnostics.filter Diagnostic.isAboutPath

/-- The tool is at the same place, and has cut the same segments. -/
structure Machine.SamePath (machine other : Machine) : Prop where
  tool_eq : other.tool = machine.tool
  segments_eq : other.segments = machine.segments

/-- Both lines give a command or none does, the commands are at the same line and end at the same
point, and the same is reported about the path. -/
structure Outcome.SamePath (outcome other : Outcome) : Prop where
  line_eq : other.command?.map Command.line = outcome.command?.map Command.line
  finish_eq : other.command?.map Command.finish = outcome.command?.map Command.finish
  pathDiagnostics_eq : other.pathDiagnostics = outcome.pathDiagnostics

/-- The commands are at the same lines and end at the same points, so that their box is the same,
and the same is reported about the path. -/
structure Analysis.SamePath (analysis other : Analysis) : Prop where
  lines_eq : other.commands.map Command.line = analysis.commands.map Command.line
  finishes_eq : other.commands.map Command.finish = analysis.commands.map Command.finish
  bounds_eq : other.bounds = analysis.bounds
  pathDiagnostics_eq :
    other.diagnostics.filter Diagnostic.isAboutPath =
      analysis.diagnostics.filter Diagnostic.isAboutPath

/-! ### Steps -/

/-- Nothing that the words of a line have to report is about the path. -/
theorem filter_isAboutPath_words {number : Int} {line : String} {command : Command}
    {ds : List Diagnostic} (h : readLine number line = .motion command ds) :
    ds.filter Diagnostic.isAboutPath = [] := by
  refine List.filter_eq_nil_iff.2 fun d hd => ?_
  obtain ⟨-, -, hredundant, hduplicate⟩ := kind_of_mem_words h hd
  rw [Diagnostic.isAboutPath, hredundant, hduplicate]
  decide

namespace Machine

/-- A line that asks for no motion has nothing to do with the path. -/
theorem samePath_of_goal?_eq_none (settings : Settings) (machine : Machine) (number : Int)
    {line : String} (h : goal? line = none) :
    (Outcome.idle false).SamePath (machine.step settings number line).1 ∧
      (machine.step settings number line).2 = machine := by
  rw [goal?_eq_readLine number, Option.map_eq_none_iff] at h
  cases hread : readLine number line with
  | idle looseWords =>
      rw [step_of_idle hread]
      exact ⟨⟨rfl, rfl, rfl⟩, rfl⟩
  | unreadable reason =>
      have hpath : Diagnostic.isAboutPath ⟨number, .unreadableLine reason⟩ = false := by
        rw [Diagnostic.isAboutPath, Diagnostic.isRedundantMove_eq_false rfl (by simp),
          Diagnostic.isDuplicateToolpath_eq_false rfl (by simp)]
        rfl
      rw [step_of_unreadable hread]
      refine ⟨⟨rfl, rfl, ?_⟩, rfl⟩
      rw [Outcome.pathDiagnostics, Outcome.diagnostics, List.filter_cons_of_neg (by simp [hpath])]
      rfl
  | motion command ds =>
      rw [hread] at h
      cases h

namespace SamePath

variable {settings : Settings} {machine other : Machine}

/-- **Commands to the same goal do the same to the path.** -/
theorem perform (h : SamePath machine other) {command command' : Command}
    (hline : command'.line = command.line)
    (hgoal : command'.parameters.coordinates = command.parameters.coordinates)
    {ds ds' : List Diagnostic}
    (hds : ds'.filter Diagnostic.isAboutPath = ds.filter Diagnostic.isAboutPath) :
    (machine.perform settings command ds).1.SamePath (other.perform settings command' ds').1 ∧
      SamePath (machine.perform settings command ds).2 (other.perform settings command' ds').2 := by
  have htarget := machine.tool.target_eq_of_coordinates hgoal
  have hsegment : other.segment command' = machine.segment command := by
    rw [segment, segment, h.tool_eq, htarget]
  have hmove : other.tool.move command'.parameters = machine.tool.move command.parameters := by
    rw [Tool.move, Tool.move, h.tool_eq, htarget]
  have hjudge : other.judge settings (machine.segment command) command.line =
      machine.judge settings (machine.segment command) command.line := by
    rw [judge, judge, h.tool_eq, h.segments_eq]
  unfold Machine.perform
  dsimp only
  rw [hsegment, hmove, hline, hjudge]
  generalize machine.judge settings (machine.segment command) command.line = judged
  obtain ⟨verdict, segments⟩ := judged
  have hreported : ∀ extra : List Diagnostic,
      (ds' ++ extra).filter Diagnostic.isAboutPath = (ds ++ extra).filter Diagnostic.isAboutPath :=
    fun extra => by rw [List.filter_append, List.filter_append, hds]
  dsimp only
  split
  · exact ⟨⟨rfl, rfl, hreported _⟩, rfl, rfl⟩
  · refine ⟨⟨congrArg some hline, congrArg some ?_, hreported _⟩, rfl, rfl⟩
    rw [Tool.resolve, Tool.resolve, h.tool_eq]
    exact htarget

/-- **Lines with the same goal do the same to the path.** -/
theorem step (h : SamePath machine other) (number : Int) {line line' : String}
    (hgoal : goal? line' = goal? line) :
    (machine.step settings number line).1.SamePath (other.step settings number line').1 ∧
      SamePath (machine.step settings number line).2 (other.step settings number line').2 := by
  cases hown : goal? line with
  | none =>
      -- neither line has anything to do with the path
      obtain ⟨⟨hline, hfinish, hreported⟩, hafter⟩ :=
        samePath_of_goal?_eq_none settings machine number hown
      obtain ⟨⟨hline', hfinish', hreported'⟩, hafter'⟩ :=
        samePath_of_goal?_eq_none settings other number (hgoal.trans hown)
      rw [hafter, hafter']
      exact ⟨⟨hline'.trans hline.symm, hfinish'.trans hfinish.symm,
        hreported'.trans hreported.symm⟩, h⟩
  | some goal =>
      rw [hown] at hgoal
      rw [goal?_eq_readLine number, Option.map_eq_some_iff] at hown hgoal
      obtain ⟨command, hcommand, hcoordinates⟩ := hown
      obtain ⟨command', hcommand', hcoordinates'⟩ := hgoal
      obtain ⟨ds, hread⟩ := exists_readLine hcommand
      obtain ⟨ds', hread'⟩ := exists_readLine hcommand'
      rw [step_of_motion hread, step_of_motion hread']
      refine h.perform ?_ (hcoordinates'.trans hcoordinates.symm) ?_
      · rw [line_of_readLine hread, line_of_readLine hread']
      · rw [filter_isAboutPath_words hread, filter_isAboutPath_words hread']

end SamePath

end Machine

/-! ### Runs -/

/-- Outcomes that do the same to the path one by one show the same path. -/
theorem Analysis.samePath_ofFollowed (settings : Settings) (count : Nat)
    {outcomes outcomes' : List Outcome} {machine other : Machine}
    (houtcomes : List.Forall₂ Outcome.SamePath outcomes outcomes')
    (hmachine : machine.SamePath other) :
    (ofFollowed settings count (outcomes, machine)).SamePath
      (ofFollowed settings count (outcomes', other)) := by
  have hpart : ∀ {α : Type} (part : Command → α), (∀ outcome other : Outcome,
      outcome.SamePath other → other.command?.map part = outcome.command?.map part) →
      (outcomes'.filterMap Outcome.command?).map part =
        (outcomes.filterMap Outcome.command?).map part := by
    intro α part hpart
    have hmap := map_eq_of_forall₂ houtcomes fun _ _ h => (hpart _ _ h).symm
    have hparts := congrArg (List.filterMap id) hmap
    rw [List.filterMap_map, List.filterMap_map] at hparts
    rw [List.map_filterMap, List.map_filterMap]
    exact hparts.symm
  have hfinishes := hpart Command.finish fun _ _ h => h.finish_eq
  have hreported : (outcomes'.flatMap Outcome.diagnostics).filter Diagnostic.isAboutPath =
      (outcomes.flatMap Outcome.diagnostics).filter Diagnostic.isAboutPath := by
    have hmap := map_eq_of_forall₂ houtcomes fun _ _ h => h.pathDiagnostics_eq.symm
    rw [List.filter_flatMap, List.filter_flatMap, List.flatMap_def, List.flatMap_def]
    exact congrArg List.flatten hmap.symm
  refine ⟨hpart Command.line fun _ _ h => h.line_eq, hfinishes, congrArg Bounds.around hfinishes,
    ?_⟩
  rw [ofFollowed, ofFollowed]
  dsimp only
  rw [List.filter_append, List.filter_append, hreported, hmachine.tool_eq]

/-- **Only coordinates decide where the tool goes**: programs whose lines have the same goals one by
one have commands at the same lines that end at the same points, the same box, and the same moves
without length and duplicate segments. -/
theorem analyzeLines_samePath (settings : Settings) {lines lines' : List String}
    (h : lines'.map goal? = lines.map goal?) :
    (analyzeLines settings lines).SamePath (analyzeLines settings lines') := by
  have hlines : List.Forall₂ (fun line line' => goal? line' = goal? line) lines lines' := by
    rw [← List.forall₂_eq_eq_eq, List.forall₂_map_left_iff, List.forall₂_map_right_iff] at h
    exact h.flip
  obtain ⟨houtcomes, hmachine⟩ := @Machine.related_follow settings Machine.SamePath
    (fun l l' => l.number = l'.number ∧ goal? l'.text = goal? l.text) Outcome.SamePath
    (by
      rintro machine other ⟨number, line⟩ ⟨_, line'⟩ hkept ⟨rfl, hgoal⟩
      exact hkept.step number hgoal)
    _ _ (forall₂_numberedFrom hlines 1) {} {} ⟨rfl, rfl⟩
  rw [analyzeLines_eq_ofFollowed, analyzeLines_eq_ofFollowed, ← hlines.length_eq]
  exact Analysis.samePath_ofFollowed settings lines.length houtcomes hmachine

/-- An arc with an offset and a feed rate follows the path of a straight move, and a rapid move goes
back along it. -/
theorem analyzeLines_samePath_arc :
    ["G2 X1 I5 F100", "M3", "G0 X0"].map goal? = ["G1 X1", "G17", "G1 X0 S2"].map goal? ∧
      (analyzeLines {} ["G1 X1", "G17", "G1 X0 S2"]).SamePath
        (analyzeLines {} ["G2 X1 I5 F100", "M3", "G0 X0"]) := by
  have hgoals : ["G2 X1 I5 F100", "M3", "G0 X0"].map goal? =
      ["G1 X1", "G17", "G1 X0 S2"].map goal? := by decide +kernel
  exact ⟨hgoals, analyzeLines_samePath {} hgoals⟩

end Toolpath
