/-
**How a line is presented does not matter.**

A line may be written in capitals or in small letters, blanks may stand around it, and a comment may
follow it.  None of this changes what the program does: the code of the line in capitals stays what
it is, and everything but the copy of the code that a command keeps is read from there.

Main definitions:

* `Toolpath.Restyled` — a line is another one with other letter cases, blanks around it or a
  comment;
* `Toolpath.Command.withoutRaw` — a command without the copy of its code, and likewise for readings,
  outcomes and analyses.

Main results:

* `Toolpath.stripComment_eq_trim` — a line may be cut before it is trimmed;
* `Toolpath.upperCode_of_restyled` — a restyled line has the same code in capitals;
* `Toolpath.Machine.step_withoutRaw` — lines with the same code in capitals do the same;
* `Toolpath.analyzeLines_restyled` — **how the lines are presented does not matter**.
-/

import Mathlib.Logic.Relation
import Toolpath.Proofs.CommandWord
import Toolpath.Proofs.TwoRuns

set_option relaxedAutoImplicit false
set_option autoImplicit false

namespace Toolpath

open Text

/-! ### Trimming and cutting -/

namespace Text

variable {blanks : List Char}

theorem trim_blanks_append (h : ∀ c ∈ blanks, isBlank c = true) (text : List Char) :
    trim (blanks ++ text) = trim text := by
  rw [trim, trim, List.dropWhile_append_of_pos h]

theorem trimEnd_append_blanks (h : ∀ c ∈ blanks, isBlank c = true) (text : List Char) :
    trimEnd (text ++ blanks) = trimEnd text := by
  rw [trimEnd, trimEnd, List.reverse_append,
    List.dropWhile_append_of_pos fun c hc => h c (List.mem_reverse.1 hc)]

theorem trim_append_blanks (h : ∀ c ∈ blanks, isBlank c = true) (text : List Char) :
    trim (text ++ blanks) = trim text := by
  rw [trim, trim, List.dropWhile_append]
  split
  · rename_i hblank
    rw [List.dropWhile_eq_nil_iff.2 h, List.isEmpty_iff.1 hblank]
  · exact trimEnd_append_blanks h _

/-- A text is what trimming leaves of it between blanks. -/
theorem exists_blanks_trim (text : List Char) :
    ∃ before after, (∀ c ∈ before, isBlank c = true) ∧ (∀ c ∈ after, isBlank c = true) ∧
      text = before ++ trim text ++ after := by
  refine ⟨text.takeWhile isBlank,
    ((text.dropWhile isBlank).reverse.takeWhile isBlank).reverse,
    fun c hc => List.mem_takeWhile_imp hc,
    fun c hc => List.mem_takeWhile_imp (List.mem_reverse.1 hc), ?_⟩
  rw [trim, trimEnd, List.append_assoc, ← List.reverse_append, List.takeWhile_append_dropWhile,
    List.reverse_reverse, List.takeWhile_append_dropWhile]

end Text

/-- Blanks start no comment. -/
theorem startsComment_of_blank {c : Char} (h : isBlank c = true) : startsComment c = false := by
  cases hc : startsComment c with
  | false => rfl
  | true =>
      rw [startsComment, Bool.or_eq_true, beq_iff_eq, beq_iff_eq] at hc
      rcases hc with rfl | rfl
      · exact absurd h (by decide)
      · exact absurd h (by decide)

/-- **A line may be cut before it is trimmed**: the code of a line is what stands before the first
comment, trimmed. -/
theorem stripComment_eq_trim (line : List Char) :
    stripComment line = trim (line.takeWhile fun c => !startsComment c) := by
  obtain ⟨before, after, hbefore, hafter, hline⟩ := exists_blanks_trim line
  have hkept : ∀ {blanks : List Char}, (∀ c ∈ blanks, isBlank c = true) →
      ∀ c ∈ blanks, (!startsComment c) = true := fun hblanks c hc => by
    rw [startsComment_of_blank (hblanks c hc)]
    rfl
  rw [stripComment]
  conv_rhs => rw [hline]
  rw [List.append_assoc, List.takeWhile_append_of_pos (hkept hbefore), trim_blanks_append hbefore,
    List.takeWhile_append]
  split
  · -- there is no comment, and the blanks after the line are kept by the cut
    rename_i hall
    rw [List.takeWhile_eq_self_iff.2 (hkept hafter), trim_append_blanks hafter,
      (List.takeWhile_prefix _).eq_of_length hall]
  · rfl

/-! ### Letter cases -/

/-- What holds of the ASCII characters and their capitals holds of all characters and theirs. -/
theorem toUpper_induction {α : Type} (f : Char → α)
    (hascii : ∀ n < 128, f (Char.ofNat n).toUpper = f (Char.ofNat n)) (c : Char) :
    f c.toUpper = f c := by
  by_cases hc : c.toNat < 128
  · have := hascii c.toNat hc
    rwa [Char.ofNat_toNat] at this
  · have hsmall : ¬ ('a'.val ≤ c.val ∧ c.val ≤ 'z'.val) := fun h => hc (by
      have hle : c.val.toNat ≤ 'z'.val.toNat := h.2
      exact Nat.lt_of_le_of_lt hle (by decide))
    exact congrArg f (dif_neg hsmall)

theorem isBlank_toUpper (c : Char) : isBlank c.toUpper = isBlank c :=
  toUpper_induction isBlank (by decide) c

theorem startsComment_toUpper (c : Char) : startsComment c.toUpper = startsComment c :=
  toUpper_induction startsComment (by decide) c

theorem capitalForm_toUpper (c : Char) : capitalForm c.toUpper = capitalForm c :=
  toUpper_induction capitalForm (by decide) c

theorem capitals_map_toUpper (text : List Char) :
    capitals (text.map Char.toUpper) = capitals text := by
  rw [capitals, List.flatMap_map, capitals]
  exact List.flatMap_congr fun c _ => capitalForm_toUpper c

theorem stripComment_map_toUpper (line : List Char) :
    stripComment (line.map Char.toUpper) = (stripComment line).map Char.toUpper := by
  have hblank : isBlank ∘ Char.toUpper = isBlank := funext isBlank_toUpper
  have hcomment : (fun c => !startsComment c) ∘ Char.toUpper = fun c => !startsComment c :=
    funext fun c => congrArg not (startsComment_toUpper c)
  have htrim : ∀ text : List Char, trim (text.map Char.toUpper) = (trim text).map Char.toUpper := by
    intro text
    rw [trim, trim, trimEnd, trimEnd, List.dropWhile_map, hblank, ← List.map_reverse,
      List.dropWhile_map, hblank, List.map_reverse]
  rw [stripComment, stripComment, htrim, List.takeWhile_map, hcomment, htrim]

/-! ### Restyled lines -/

/-- The second line is the first one, presented in another way. -/
inductive Restyled : String → String → Prop
  /-- ASCII letters change their case. -/
  | recased {line line' : String}
      (h : line'.toList.map Char.toUpper = line.toList.map Char.toUpper) : Restyled line line'
  /-- Blanks are put before the line. -/
  | indented {blanks : List Char} (h : ∀ c ∈ blanks, isBlank c = true) (line : String) :
      Restyled line (String.ofList (blanks ++ line.toList))
  /-- Blanks are put after the line. -/
  | spaced {blanks : List Char} (h : ∀ c ∈ blanks, isBlank c = true) (line : String) :
      Restyled line (String.ofList (line.toList ++ blanks))
  /-- A comment with any text is put after the line. -/
  | commented {mark : Char} (h : startsComment mark = true) (text : List Char) (line : String) :
      Restyled line (String.ofList (line.toList ++ mark :: text))

/-- **A restyled line has the same code in capitals.** -/
theorem upperCode_of_restyled {line line' : String} (h : Restyled line line') :
    upperCode line' = upperCode line := by
  cases h with
  | recased h =>
      rw [upperCode, ← capitals_map_toUpper, ← stripComment_map_toUpper, h,
        stripComment_map_toUpper, capitals_map_toUpper, ← upperCode]
  | indented h =>
      rw [upperCode, String.toList_ofList, stripComment, trim_blanks_append h, ← stripComment,
        ← upperCode]
  | spaced h =>
      rw [upperCode, String.toList_ofList, stripComment, trim_append_blanks h, ← stripComment,
        ← upperCode]
  | @commented mark h text =>
      have hcut : (line.toList ++ mark :: text).takeWhile (fun c => !startsComment c) =
          line.toList.takeWhile fun c => !startsComment c := by
        rw [List.takeWhile_append, List.takeWhile_cons_of_neg (by rw [h]; decide)]
        split
        · rename_i hall
          rw [List.append_nil, (List.takeWhile_prefix _).eq_of_length hall]
        · rfl
      rw [upperCode, String.toList_ofList, stripComment_eq_trim, hcut, ← stripComment_eq_trim,
        ← upperCode]

/-- So has a line that is restyled again and again. -/
theorem upperCode_of_reflTransGen {line line' : String}
    (h : Relation.ReflTransGen Restyled line line') : upperCode line' = upperCode line := by
  induction h with
  | refl => rfl
  | tail _ hlast ih => rw [upperCode_of_restyled hlast, ih]

/-! ### Everything but the copies of the code -/

/-- The command without the copy of the code of its line. -/
def Command.withoutRaw (command : Command) : Command := { command with raw := "" }

/-- The reading without the copy of the code of the line. -/
def Reading.withoutRaw : Reading → Reading
  | motion command ds => motion command.withoutRaw ds
  | reading => reading

/-- The outcome without the copy of the code of the line. -/
def Outcome.withoutRaw : Outcome → Outcome
  | recorded command ds => recorded command.withoutRaw ds
  | outcome => outcome

/-- The analysis without the copies of the code of the lines. -/
def Analysis.withoutRaw (analysis : Analysis) : Analysis :=
  { analysis with commands := analysis.commands.map Command.withoutRaw }

theorem Outcome.command?_withoutRaw (outcome : Outcome) :
    outcome.withoutRaw.command? = outcome.command?.map Command.withoutRaw := by
  cases outcome <;> rfl

theorem Outcome.diagnostics_withoutRaw (outcome : Outcome) :
    outcome.withoutRaw.diagnostics = outcome.diagnostics := by
  cases outcome <;> rfl

theorem commandOf_withoutRaw (motion : Motion) (number : Int) (code code' token : List Char)
    (ws : List Word) :
    (commandOf motion number code' token ws).withoutRaw =
      (commandOf motion number code token ws).withoutRaw := rfl

theorem wordDiagnostics_withoutRaw (command : Command) (ws : List Word) :
    wordDiagnostics command.withoutRaw ws = wordDiagnostics command ws := rfl

/-- The code in capitals tells all that a line says, but for the code as it is written. -/
theorem readLine_withoutRaw {line line' : String} (h : upperCode line' = upperCode line)
    (number : Int) : (readLine number line').withoutRaw = (readLine number line).withoutRaw := by
  rw [upperCode, upperCode] at h
  rw [readLine, readLine, readCode, readCode]
  dsimp only
  rw [h]
  split
  · rfl
  · split
    · rfl
    · split
      · rw [Reading.withoutRaw, Reading.withoutRaw, ← wordDiagnostics_withoutRaw,
          commandOf_withoutRaw _ number (stripComment line.toList), wordDiagnostics_withoutRaw]
      · rfl

namespace Machine

/-- What becomes of a command does not depend on the copy of its code. -/
theorem perform_withoutRaw (settings : Settings) (machine : Machine) (command : Command)
    (ds : List Diagnostic) :
    machine.perform settings command.withoutRaw ds =
      ((machine.perform settings command ds).1.withoutRaw,
        (machine.perform settings command ds).2) := by
  have hline : command.withoutRaw.line = command.line := rfl
  have hparameters : command.withoutRaw.parameters = command.parameters := rfl
  have hsegment : machine.segment command.withoutRaw = machine.segment command := rfl
  unfold perform
  dsimp only
  rw [hline, hparameters, hsegment]
  split
  · rfl
  · rfl

/-- **Lines with the same code in capitals do the same**, and leave the same machine. -/
theorem step_withoutRaw {line line' : String} (h : upperCode line' = upperCode line)
    (settings : Settings) (machine : Machine) (number : Int) :
    (machine.step settings number line').1.withoutRaw =
        (machine.step settings number line).1.withoutRaw ∧
      (machine.step settings number line').2 = (machine.step settings number line).2 := by
  have hread := readLine_withoutRaw h number
  cases hline : readLine number line with
  | idle looseWords =>
      cases hline' : readLine number line' with
      | idle looseWords' =>
          rw [hline, hline'] at hread
          rw [step_of_idle hline, step_of_idle hline', Reading.idle.inj hread]
          exact ⟨rfl, rfl⟩
      | _ => simp [hline, hline', Reading.withoutRaw] at hread
  | unreadable reason =>
      cases hline' : readLine number line' with
      | unreadable reason' =>
          rw [hline, hline'] at hread
          rw [step_of_unreadable hline, step_of_unreadable hline', Reading.unreadable.inj hread]
          exact ⟨rfl, rfl⟩
      | _ => simp [hline, hline', Reading.withoutRaw] at hread
  | motion command ds =>
      cases hline' : readLine number line' with
      | motion command' ds' =>
          rw [hline, hline'] at hread
          obtain ⟨hcommand, hds⟩ := Reading.motion.inj hread
          have hperform := perform_withoutRaw settings machine command' ds'
          rw [hcommand, hds, perform_withoutRaw, Prod.mk.injEq] at hperform
          rw [step_of_motion hline, step_of_motion hline', hds]
          exact ⟨hperform.1.symm, hperform.2.symm⟩
      | _ => simp [hline, hline', Reading.withoutRaw] at hread

end Machine

/-- Outcomes without the copies of the code show the same but for these copies. -/
theorem Analysis.ofFollowed_withoutRaw (settings : Settings) (count : Nat)
    (outcomes : List Outcome) (machine : Machine) :
    ofFollowed settings count (outcomes.map Outcome.withoutRaw, machine) =
      (ofFollowed settings count (outcomes, machine)).withoutRaw := by
  have hcommands : (outcomes.map Outcome.withoutRaw).filterMap Outcome.command? =
      (outcomes.filterMap Outcome.command?).map Command.withoutRaw := by
    rw [List.filterMap_map, List.map_filterMap]
    exact List.filterMap_congr fun outcome _ => outcome.command?_withoutRaw
  have hdiagnostics : (outcomes.map Outcome.withoutRaw).flatMap Outcome.diagnostics =
      outcomes.flatMap Outcome.diagnostics := by
    rw [List.flatMap_map]
    exact List.flatMap_congr fun outcome _ => outcome.diagnostics_withoutRaw
  have hfinish : Command.finish ∘ Command.withoutRaw = Command.finish := rfl
  rw [ofFollowed, ofFollowed, withoutRaw]
  dsimp only
  rw [hcommands, hdiagnostics, List.map_map, hfinish]

/-- **How the lines are presented does not matter.**  Lines that are restyled one by one have the
same analysis, but for the copies of the code in the commands. -/
theorem analyzeLines_restyled (settings : Settings) {lines lines' : List String}
    (h : List.Forall₂ (Relation.ReflTransGen Restyled) lines lines') :
    (analyzeLines settings lines').withoutRaw = (analyzeLines settings lines).withoutRaw := by
  obtain ⟨hcommon, hlast⟩ := @Machine.related_follow settings
    (fun machine machine' => machine = machine')
    (fun l l' => l.number = l'.number ∧ Relation.ReflTransGen Restyled l.text l'.text)
    (fun outcome outcome' => outcome'.withoutRaw = outcome.withoutRaw)
    (by
      rintro machine _ ⟨number, line⟩ ⟨_, line'⟩ rfl ⟨rfl, hline⟩
      obtain ⟨houtcome, hafter⟩ := Machine.step_withoutRaw
        (upperCode_of_reflTransGen hline) settings machine number
      exact ⟨houtcome, hafter.symm⟩)
    _ _ (forall₂_numberedFrom h 1) {} {} rfl
  have houtcomes := map_eq_of_forall₂ hcommon fun _ _ houtcome => houtcome.symm
  rw [analyzeLines_eq_ofFollowed, analyzeLines_eq_ofFollowed, ← h.length_eq,
    ← Analysis.ofFollowed_withoutRaw, ← Analysis.ofFollowed_withoutRaw, houtcomes, hlast]

/-- Small letters with a remark after them, and capitals that are indented. -/
theorem analyzeLines_restyled_remark :
    List.Forall₂ (Relation.ReflTransGen Restyled) ["G0 X1", "G3 Y2"] ["g0 x1;away", "\t G3 Y2"] ∧
      (analyzeLines {} ["g0 x1;away", "\t G3 Y2"]).withoutRaw =
        (analyzeLines {} ["G0 X1", "G3 Y2"]).withoutRaw := by
  have hremark : Restyled "g0 x1" "g0 x1;away" := .commented (by decide) "away".toList "g0 x1"
  have hblanks : ∀ c ∈ ['\t', ' '], isBlank c = true := List.all_eq_true.1 (by decide)
  have hindent : Restyled "G3 Y2" "\t G3 Y2" := .indented hblanks "G3 Y2"
  have hlines : List.Forall₂ (Relation.ReflTransGen Restyled) ["G0 X1", "G3 Y2"]
      ["g0 x1;away", "\t G3 Y2"] :=
    .cons (.tail (.single (.recased (by decide))) hremark) (.cons (.single hindent) .nil)
  exact ⟨hlines, analyzeLines_restyled {} hlines⟩

end Toolpath
