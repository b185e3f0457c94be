/-
**Two runs side by side.**

Two programs can be compared line by line.  If there is a relation between machines which every
pair of lines keeps, whatever the machines are, and if what comes of the two lines is alike, then it
is alike along the whole of both runs.  The lines bring their own numbers here, so that the two
programs need not be numbered the same way.

Main definitions:

* `Toolpath.NumberedLine`, `Toolpath.numberedFrom` — lines with the numbers that they are reported
  by;
* `Toolpath.Machine.follow` — the outcomes of numbered lines, and the machine after them.

Main results:

* `Toolpath.Machine.related_follow` — **what every pair of lines keeps, two runs keep**;
* `Toolpath.analyzeLines_eq_ofFollowed` — an analysis is that of its numbered lines;
* `Toolpath.readLine_eq_renumber` — what a line says does not depend on its number.
-/

import Mathlib.Data.List.Forall2
import Toolpath.Proofs.Isolation

set_option relaxedAutoImplicit false
set_option autoImplicit false

namespace Toolpath

/-! ### Numbered lines -/

/-- A line with the number that it is reported by. -/
structure NumberedLine where
  number : Int
  text : String
  deriving DecidableEq

/-- Lines that are numbered one after another, from the given number on. -/
def numberedFrom : Int → List String → List NumberedLine
  | _, [] => []
  | number, line :: rest => ⟨number, line⟩ :: numberedFrom (number + 1) rest

@[simp] theorem length_numberedFrom (number : Int) (lines : List String) :
    (numberedFrom number lines).length = lines.length := by
  induction lines generalizing number with
  | nil => rfl
  | cons line rest ih => rw [numberedFrom, List.length_cons, ih, List.length_cons]

theorem getElem?_numberedFrom (number : Int) (lines : List String) (index : Nat) :
    (numberedFrom number lines)[index]? =
      lines[index]?.map (NumberedLine.mk (number + index)) := by
  induction lines generalizing number index with
  | nil => rfl
  | cons line rest ih =>
      cases index with
      | zero => simp [numberedFrom]
      | succ index =>
          have hnumber : number + 1 + (index : Int) = number + (index + 1 : Nat) := by omega
          rw [numberedFrom, List.getElem?_cons_succ, List.getElem?_cons_succ, ih, hnumber]

@[simp] theorem map_text_numberedFrom (number : Int) (lines : List String) :
    (numberedFrom number lines).map NumberedLine.text = lines := by
  induction lines generalizing number with
  | nil => rfl
  | cons line rest ih => rw [numberedFrom, List.map_cons, ih]

/-- Lines that are related one by one are so with their numbers. -/
theorem forall₂_numberedFrom {alike : String → String → Prop} {lines lines' : List String}
    (h : List.Forall₂ alike lines lines') (number : Int) :
    List.Forall₂ (fun l l' => l.number = l'.number ∧ alike l.text l'.text)
      (numberedFrom number lines) (numberedFrom number lines') := by
  induction h generalizing number with
  | nil => exact .nil
  | cons hline _ ih => exact .cons ⟨rfl, hline⟩ (ih (number + 1))

/-- What related members have in common, related lists have in common. -/
theorem map_eq_of_forall₂ {α β γ : Type} {related : α → β → Prop} {f : α → γ} {g : β → γ}
    {as : List α} {bs : List β} (h : List.Forall₂ related as bs)
    (hcommon : ∀ a b, related a b → f a = g b) : as.map f = bs.map g := by
  induction h with
  | nil => rfl
  | cons hhead _ ih => rw [List.map_cons, List.map_cons, hcommon _ _ hhead, ih]

/-! ### Runs of numbered lines -/

namespace Machine

variable {settings : Settings}

/-- The outcomes of numbered lines that are read from a machine on, and the machine after them. -/
def follow (settings : Settings) : Machine → List NumberedLine → List Outcome × Machine
  | machine, [] => ([], machine)
  | machine, line :: rest =>
      let first := machine.step settings line.number line.text
      let others := follow settings first.2 rest
      (first.1 :: others.1, others.2)

@[simp] theorem follow_nil (machine : Machine) : machine.follow settings [] = ([], machine) := rfl

theorem follow_cons (machine : Machine) (line : NumberedLine) (rest : List NumberedLine) :
    machine.follow settings (line :: rest) =
      ((machine.step settings line.number line.text).1 ::
          ((machine.step settings line.number line.text).2.follow settings rest).1,
        ((machine.step settings line.number line.text).2.follow settings rest).2) := rfl

/-- Lines that are numbered one after another are read on as they are without their numbers. -/
theorem follow_numberedFrom (machine : Machine) (number : Int) (lines : List String) :
    machine.follow settings (numberedFrom number lines) =
      (machine.outcomesOf settings number lines, machine.afterLines settings number lines) := by
  induction lines generalizing machine number with
  | nil => rfl
  | cons line rest ih => rw [numberedFrom, follow_cons, ih, outcomesOf, afterLines]

/-- **What every pair of lines keeps, two runs keep**: a relation between the machines, and what
the outcomes have in common. -/
theorem related_follow {kept : Machine → Machine → Prop}
    {alike : NumberedLine → NumberedLine → Prop} {common : Outcome → Outcome → Prop}
    (hstep : ∀ machine machine' l l', kept machine machine' → alike l l' →
      common (machine.step settings l.number l.text).1
          (machine'.step settings l'.number l'.text).1 ∧
        kept (machine.step settings l.number l.text).2 (machine'.step settings l'.number l'.text).2)
    {lines lines' : List NumberedLine} (hlines : List.Forall₂ alike lines lines')
    {machine machine' : Machine} (hstart : kept machine machine') :
    List.Forall₂ common (machine.follow settings lines).1 (machine'.follow settings lines').1 ∧
      kept (machine.follow settings lines).2 (machine'.follow settings lines').2 := by
  induction hlines generalizing machine machine' with
  | nil => exact ⟨.nil, hstart⟩
  | cons hline _ ih =>
      obtain ⟨hcommon, hkept⟩ := hstep _ _ _ _ hstart hline
      obtain ⟨hothers, hlast⟩ := ih hkept
      rw [follow_cons, follow_cons]
      exact ⟨.cons hcommon hothers, hlast⟩

end Machine

/-! ### Analyses of numbered lines -/

/-- What the outcomes of so many lines and the machine after them show. -/
def Analysis.ofFollowed (settings : Settings) (count : Nat) (followed : List Outcome × Machine) :
    Analysis where
  settings := settings
  bounds := Bounds.around ((followed.1.filterMap Outcome.command?).map Command.finish)
  lineCount := count
  commands := followed.1.filterMap Outcome.command?
  diagnostics := followed.1.flatMap Outcome.diagnostics ++
    if followed.2.tool.hasMoved then [] else [⟨wholeProgram, .noMovement⟩]

/-- The analysis of a program is that of its lines with their numbers. -/
theorem analyzeLines_eq_ofFollowed (settings : Settings) (lines : List String) :
    analyzeLines settings lines =
      .ofFollowed settings lines.length (Machine.follow settings {} (numberedFrom 1 lines)) := by
  have hmachine : (Run.ofLines settings lines).machine =
      (Machine.follow settings {} (numberedFrom 1 lines)).2 := by
    rw [Machine.follow_numberedFrom]
    exact Run.machine_append settings [] lines
  have houtcomes : (Run.ofLines settings lines).outcomes.toList =
      (Machine.follow settings {} (numberedFrom 1 lines)).1 := by
    have hnil := Run.outcomes_append settings [] lines
    rw [List.nil_append] at hnil
    rw [hnil, Machine.follow_numberedFrom]
    simp [Run.empty]
  rw [analyzeLines, Analysis.ofRun, Run.size_outcomes_ofLines, Run.bounds_ofLines, Run.commands,
    Run.diagnostics, hmachine, houtcomes]
  rfl

/-! ### Numbers -/

/-- The cause with the line that it tells replaced. -/
def Cause.renumber (f : Int → Int) : Cause → Cause
  | duplicateToolpath start finish first => duplicateToolpath start finish (f first)
  | note text related => note text (related.map f)
  | cause => cause

/-- The diagnostic with its own line and the line that it tells replaced. -/
def Diagnostic.renumber (f : Int → Int) (d : Diagnostic) : Diagnostic :=
  ⟨f d.line, d.cause.renumber f⟩

/-- The command with its line replaced. -/
def Command.renumber (f : Int → Int) (command : Command) : Command :=
  { command with line := f command.line }

/-- The reading with the number of its line replaced. -/
def Reading.renumber (f : Int → Int) : Reading → Reading
  | idle looseWords => idle looseWords
  | unreadable reason => unreadable reason
  | motion command ds => motion (command.renumber f) (ds.map (Diagnostic.renumber f))

theorem commandOf_renumber (f : Int → Int) (motion : Motion) (number : Int)
    (code token : List Char) (ws : List Word) :
    (commandOf motion number code token ws).renumber f =
      commandOf motion (f number) code token ws := rfl

theorem wordDiagnostics_renumber (f : Int → Int) (command : Command) (ws : List Word) :
    wordDiagnostics (command.renumber f) ws =
      (wordDiagnostics command ws).map (Diagnostic.renumber f) := by
  have hline : (command.renumber f).line = f command.line := rfl
  have hmotion : (command.renumber f).motion = command.motion := rfl
  have htoken : (command.renumber f).token = command.token := rfl
  have hoffset : (command.renumber f).hasOffset = command.hasOffset := rfl
  rw [wordDiagnostics, wordDiagnostics, hline, hmotion, htoken, hoffset, List.map_append,
    List.map_map]
  cases command.motion.isArc && !command.hasOffset with
  | true => rfl
  | false => rfl

/-- **What a line says does not depend on its number**, which only labels it. -/
theorem readLine_eq_renumber (f : Int → Int) (number : Int) (line : String) :
    readLine (f number) line = (readLine number line).renumber f := by
  rw [readLine, readLine, readCode, readCode]
  dsimp only
  split
  · rfl
  · split
    · rfl
    · split
      · rw [Reading.renumber, ← wordDiagnostics_renumber, commandOf_renumber]
      · rfl

end Toolpath
