/-
**Which lines are motions.**

A line asks for a motion exactly if its code, in capitals, starts with the letter G and a run of
decimal digits that is read as a number from zero to three.  The run is maximal, its digits may be
of any script, and there may be up to 4300 of them; more cannot be read, after whichever command
letter they stand.  Every other line is passed over.

Main definitions:

* `Toolpath.DigitRun` — digits, and a text after them that does not go on with a digit;
* `Toolpath.StartsWord` — a text starts with a letter and a run of digits;
* `Toolpath.upperCode` — the code of a line in capitals;
* `Toolpath.ReadsCommandWord` — how a line is read by the command word that it starts with.

Main results:

* `Toolpath.commandWord?_eq_some_iff` — the command word is a command letter with a run of digits;
* `Toolpath.Motion.ofToken_word` — what a command word asks for, or why its number is not read;
* `Toolpath.readsCommandWord` — **a line is read by the command word that it starts with**.
-/

import Mathlib.Data.List.TakeWhile
import Toolpath.Machine
import Toolpath.Proofs.Characters
import Toolpath.Proofs.Reading

set_option relaxedAutoImplicit false
set_option autoImplicit false

namespace Toolpath

open Text

/-! ### Runs of digits -/

/-- All of these are decimal digits, and what comes after them does not start with one. -/
structure DigitRun (digits rest : List Char) : Prop where
  decimal : ∀ d ∈ digits, isDecimalDigit d = true
  maximal : ∀ c ∈ rest.head?, isDecimalDigit c = false

namespace DigitRun

variable {digits rest : List Char}

theorem takeWhile_eq (h : DigitRun digits rest) :
    (digits ++ rest).takeWhile isDecimalDigit = digits := by
  have hrest : rest.takeWhile isDecimalDigit = [] := by
    cases rest with
    | nil => rfl
    | cons c rest => rw [List.takeWhile_cons_of_neg (by simp [h.maximal c rfl])]
  rw [List.takeWhile_append_of_pos h.decimal, hrest, List.append_nil]

theorem dropWhile_eq (h : DigitRun digits rest) :
    (digits ++ rest).dropWhile isDecimalDigit = rest := by
  have hsplit := List.takeWhile_append_dropWhile (p := isDecimalDigit) (l := digits ++ rest)
  rw [h.takeWhile_eq] at hsplit
  exact List.append_cancel_left hsplit

/-- Every text starts with a run of digits, perhaps an empty one. -/
theorem of_text (text : List Char) :
    DigitRun (text.takeWhile isDecimalDigit) (text.dropWhile isDecimalDigit) := by
  refine ⟨fun d hd => List.mem_takeWhile_imp hd, fun c hc => ?_⟩
  have hnot := List.head?_dropWhile_not isDecimalDigit text
  rw [Option.mem_def.1 hc] at hnot
  exact hnot

end DigitRun

/-! ### Command words -/

/-- A text starts with a letter, and right after it with a run of digits that is not empty. -/
def StartsWord (letter : Char) (digits text : List Char) : Prop :=
  digits ≠ [] ∧ ∃ rest, text = letter :: (digits ++ rest) ∧ DigitRun digits rest

theorem isCommandLetter_iff {c : Char} : isCommandLetter c = true ↔ c ∈ ['G', 'M', 'T'] := by
  simp [isCommandLetter, or_assoc]

/-- **The command word is a command letter with the run of digits after it.** -/
theorem commandWord?_eq_some_iff {text token : List Char} :
    commandWord? text = some token ↔ ∃ letter ∈ ['G', 'M', 'T'], ∃ digits,
      StartsWord letter digits text ∧ token = letter :: digits := by
  constructor
  · intro h
    cases text with
    | nil => cases h
    | cons letter tail =>
        rw [commandWord?, Option.ite_none_right_eq_some, Bool.and_eq_true, Bool.not_eq_true',
          List.isEmpty_eq_false_iff] at h
        obtain ⟨⟨hletter, hne⟩, htoken⟩ := h
        refine ⟨letter, isCommandLetter_iff.1 hletter, tail.takeWhile isDecimalDigit,
          ⟨hne, tail.dropWhile isDecimalDigit, ?_, .of_text tail⟩, (Option.some.inj htoken).symm⟩
        rw [List.takeWhile_append_dropWhile]
  · rintro ⟨letter, hletter, digits, ⟨hne, rest, rfl, hrun⟩, rfl⟩
    rw [commandWord?, hrun.takeWhile_eq, isCommandLetter_iff.2 hletter,
      List.isEmpty_eq_false_iff.2 hne]
    rfl

/-- A text starts with one word at most. -/
theorem StartsWord.unique {letter letter' : Char} {digits digits' text : List Char}
    (h : StartsWord letter digits text) (h' : StartsWord letter' digits' text) :
    letter = letter' ∧ digits = digits' := by
  obtain ⟨-, rest, rfl, hrun⟩ := h
  obtain ⟨-, rest', htext, hrun'⟩ := h'
  obtain ⟨hletter, htail⟩ := List.cons.inj htext
  refine ⟨hletter, ?_⟩
  rw [← hrun.takeWhile_eq, htail, hrun'.takeWhile_eq]

/-! ### The number of a command word -/

theorem capitalForm_of_commandLetter {letter : Char} (h : letter ∈ ['G', 'M', 'T']) :
    capitalForm letter = [letter] := by
  simp only [List.mem_cons, List.not_mem_nil, or_false] at h
  rcases h with rfl | rfl | rfl <;> decide

/-- **What a command word asks for**, unless it has too many digits. -/
theorem Motion.ofToken_word {letter : Char} {digits : List Char}
    (hletter : letter ∈ ['G', 'M', 'T']) (hne : digits ≠ [])
    (hdecimal : ∀ d ∈ digits, isDecimalDigit d = true) :
    Motion.ofToken (letter :: digits) =
      if 4300 < digits.length then .error (.tooManyDigits digits.length)
      else .ok (Motion.ofWord letter (digitsValue digits)) := by
  have hcapitals : capitals (letter :: digits) = letter :: digits := by
    rw [capitals_cons, capitalForm_of_commandLetter hletter,
      capitals_eq_self fun d hd => capitalForm_of_decimalDigit (hdecimal d hd)]
    rfl
  -- decimal digits count as digits, and they are the only ones that are read
  have hlike : digits.all isDigitLike = true := by
    refine List.all_eq_true.2 fun d hd => ?_
    rw [isDigitLike, hdecimal d hd, Bool.true_or]
  have hall : digits.all isDecimalDigit = true := List.all_eq_true.2 hdecimal
  rw [Motion.ofToken, hcapitals]
  dsimp only
  rw [List.isEmpty_eq_false_iff.2 hne, hlike, if_neg (by decide), readNumber, hall,
    if_neg (by decide), maxDigits]
  split
  · rfl
  · rfl

/-- Only the words G0 to G3 ask for a motion. -/
theorem Motion.isMotion_ofWord_iff {letter : Char} {number : Nat} :
    (Motion.ofWord letter number).isMotion = true ↔ letter = 'G' ∧ number ≤ 3 := by
  unfold Motion.ofWord
  by_cases hletter : letter = 'G'
  · rw [if_pos hletter, and_iff_right hletter]
    match number with
    | 0 | 1 | 2 | 3 => decide
    | number + 4 => simp [Motion.isMotion]
  · rw [if_neg hletter]
    simp [Motion.isMotion, hletter]

theorem Motion.getElem?_ofWord {number : Nat} (h : number ≤ 3) :
    [Motion.rapid, .linear, .clockwise, .counterclockwise][number]? =
      some (Motion.ofWord 'G' number) := by
  match number with
  | 0 | 1 | 2 | 3 => rfl

/-! ### Lines -/

/-- The code of a line in capitals. -/
def upperCode (line : String) : List Char := capitals (stripComment line.toList)

section

variable {number : Int} {line : String}

/-- A line that starts with no command word is passed over. -/
theorem readLine_of_no_word
    (h : ¬ ∃ letter ∈ ['G', 'M', 'T'], ∃ digits, StartsWord letter digits (upperCode line)) :
    readLine number line = .idle (!(lineWords line).isEmpty) := by
  have hnone : commandWord? (upperCode line) = none := by
    refine Option.eq_none_iff_forall_ne_some.2 fun token htoken => h ?_
    obtain ⟨letter, hletter, digits, hword, -⟩ := commandWord?_eq_some_iff.1 htoken
    exact ⟨letter, hletter, digits, hword⟩
  rw [readLine, readCode]
  dsimp only
  rw [← upperCode, hnone]
  rfl

/-- The reading of a line goes by what its command word asks for. -/
theorem readLine_of_word {letter : Char} {digits : List Char} (hletter : letter ∈ ['G', 'M', 'T'])
    (hword : StartsWord letter digits (upperCode line)) :
    readLine number line =
      match Motion.ofToken (letter :: digits) with
      | .error reason => .unreadable reason
      | .ok motion =>
          if motion.isMotion then
            let command := commandOf motion number (stripComment line.toList) (letter :: digits)
              (lineWords line)
            .motion command (wordDiagnostics command (lineWords line))
          else .idle false := by
  have htoken : commandWord? (upperCode line) = some (letter :: digits) :=
    commandWord?_eq_some_iff.2 ⟨letter, hletter, digits, hword, rfl⟩
  rw [readLine, readCode]
  dsimp only
  rw [← upperCode, htoken]
  rfl

theorem readLine_of_tooManyDigits {letter : Char} {digits : List Char}
    (hletter : letter ∈ ['G', 'M', 'T']) (hword : StartsWord letter digits (upperCode line))
    (hlength : 4300 < digits.length) :
    readLine number line = .unreadable (.tooManyDigits digits.length) := by
  obtain ⟨hne, rest, -, hrun⟩ := id hword
  rw [readLine_of_word hletter hword, Motion.ofToken_word hletter hne hrun.decimal, if_pos hlength]

/-- **The reading of a line that starts with one of the words G0 to G3.** -/
theorem readLine_of_motionWord {digits : List Char}
    (hword : StartsWord 'G' digits (upperCode line)) (hlength : digits.length ≤ 4300)
    (hvalue : digitsValue digits ≤ 3) :
    readLine number line =
      let command := commandOf (Motion.ofWord 'G' (digitsValue digits)) number
        (stripComment line.toList) ('G' :: digits) (lineWords line)
      .motion command (wordDiagnostics command (lineWords line)) := by
  obtain ⟨hne, rest, -, hrun⟩ := id hword
  rw [readLine_of_word (by decide) hword, Motion.ofToken_word (by decide) hne hrun.decimal,
    if_neg (by omega)]
  dsimp only
  rw [if_pos (Motion.isMotion_ofWord_iff.2 ⟨rfl, hvalue⟩)]

theorem readLine_of_otherWord {letter : Char} {digits : List Char}
    (hletter : letter ∈ ['G', 'M', 'T']) (hword : StartsWord letter digits (upperCode line))
    (hlength : digits.length ≤ 4300) (hother : ¬ (letter = 'G' ∧ digitsValue digits ≤ 3)) :
    readLine number line = .idle false := by
  obtain ⟨hne, rest, -, hrun⟩ := id hword
  rw [readLine_of_word hletter hword, Motion.ofToken_word hletter hne hrun.decimal,
    if_neg (by omega)]
  dsimp only
  rw [if_neg fun h => hother (Motion.isMotion_ofWord_iff.1 h)]

end

/-- How a line can be read, by the command word that it starts with. -/
inductive WordReading (number : Int) (line : String) : Reading → Prop
  /-- There is no command word. -/
  | noWord {looseWords : Bool}
      (hnone : ¬ ∃ letter ∈ ['G', 'M', 'T'], ∃ digits, StartsWord letter digits (upperCode line)) :
      WordReading number line (.idle looseWords)
  /-- The number of the command word has too many digits. -/
  | tooManyDigits {letter : Char} {digits : List Char} (hletter : letter ∈ ['G', 'M', 'T'])
      (hword : StartsWord letter digits (upperCode line)) (hlength : 4300 < digits.length) :
      WordReading number line (.unreadable (.tooManyDigits digits.length))
  /-- The command word is one of G0 to G3. -/
  | motion {command : Command} {ds : List Diagnostic} {digits : List Char}
      (hword : StartsWord 'G' digits (upperCode line)) (hlength : digits.length ≤ 4300)
      (hvalue : digitsValue digits ≤ 3)
      (hmotion : command.motion = Motion.ofWord 'G' (digitsValue digits))
      (htoken : command.token = String.ofList ('G' :: digits)) :
      WordReading number line (.motion command ds)
  /-- The command word is another one. -/
  | otherWord {letter : Char} {digits : List Char}
      (hword : StartsWord letter digits (upperCode line)) (hlength : digits.length ≤ 4300)
      (hother : ¬ (letter = 'G' ∧ digitsValue digits ≤ 3)) :
      WordReading number line (.idle false)

theorem wordReading_readLine (number : Int) (line : String) :
    WordReading number line (readLine number line) := by
  by_cases hword : ∃ letter ∈ ['G', 'M', 'T'], ∃ digits, StartsWord letter digits (upperCode line)
  · obtain ⟨letter, hletter, digits, hword⟩ := hword
    by_cases hlength : 4300 < digits.length
    · rw [readLine_of_tooManyDigits hletter hword hlength]
      exact .tooManyDigits hletter hword hlength
    · rw [Nat.not_lt] at hlength
      by_cases hmotion : letter = 'G' ∧ digitsValue digits ≤ 3
      · obtain ⟨rfl, hvalue⟩ := hmotion
        rw [readLine_of_motionWord hword hlength hvalue]
        exact .motion hword hlength hvalue rfl rfl
      · rw [readLine_of_otherWord hletter hword hlength hmotion]
        exact .otherWord hword hlength hmotion
  · rw [readLine_of_no_word hword]
    exact .noWord hword

/-- How a line is read by the command word that it starts with. -/
structure ReadsCommandWord (number : Int) (line : String) : Prop where
  /-- The motions are the words G0 to G3, in up to 4300 digits. -/
  motion_iff : (∃ command ds, readLine number line = .motion command ds) ↔
    ∃ digits, StartsWord 'G' digits (upperCode line) ∧ digits.length ≤ 4300 ∧
      digitsValue digits ≤ 3
  /-- The command has the motion of the number, and its word as it is written. -/
  motion_eq : ∀ command ds, readLine number line = .motion command ds →
    ∀ digits, StartsWord 'G' digits (upperCode line) →
      [Motion.rapid, .linear, .clockwise, .counterclockwise][digitsValue digits]? =
          some command.motion ∧
        command.token = String.ofList ('G' :: digits)
  /-- More than 4300 digits cannot be read, after any command letter, and all else can. -/
  unreadable_iff : ∀ reason, readLine number line = .unreadable reason ↔
    ∃ letter ∈ ['G', 'M', 'T'], ∃ digits, StartsWord letter digits (upperCode line) ∧
      4300 < digits.length ∧ reason = .tooManyDigits digits.length
  /-- Every other line is passed over: nothing is reported about it, and nothing changes. -/
  idle_of_other :
    (¬ ∃ digits, StartsWord 'G' digits (upperCode line) ∧ digits.length ≤ 4300 ∧
      digitsValue digits ≤ 3) →
    (¬ ∃ letter ∈ ['G', 'M', 'T'], ∃ digits, StartsWord letter digits (upperCode line) ∧
      4300 < digits.length) →
    (∃ looseWords, readLine number line = .idle looseWords) ∧
      ∀ (settings : Settings) (machine : Machine),
        (machine.step settings number line).1.diagnostics = [] ∧
          (machine.step settings number line).2 = machine

/-- **A line is read by the command word that it starts with.** -/
theorem readsCommandWord (number : Int) (line : String) : ReadsCommandWord number line := by
  have hreading := wordReading_readLine number line
  refine ⟨⟨?_, ?_⟩, ?_, fun reason => ⟨?_, ?_⟩, ?_⟩
  · rintro ⟨command, ds, hread⟩
    rw [hread] at hreading
    cases hreading with
    | motion hword hlength hvalue => exact ⟨_, hword, hlength, hvalue⟩
  · rintro ⟨digits, hword, hlength, hvalue⟩
    exact ⟨_, _, readLine_of_motionWord hword hlength hvalue⟩
  · intro command ds hread digits hword
    rw [hread] at hreading
    cases hreading with
    | motion hown _ hvalue hmotion htoken =>
        obtain ⟨-, rfl⟩ := hword.unique hown
        rw [hmotion, htoken]
        exact ⟨Motion.getElem?_ofWord hvalue, rfl⟩
  · intro hread
    rw [hread] at hreading
    cases hreading with
    | tooManyDigits hletter hword hlength => exact ⟨_, hletter, _, hword, hlength, rfl⟩
  · rintro ⟨letter, hletter, digits, hword, hlength, rfl⟩
    exact readLine_of_tooManyDigits hletter hword hlength
  · intro hmotion hunreadable
    cases hread : readLine number line with
    | idle looseWords =>
        refine ⟨⟨looseWords, rfl⟩, fun settings machine => ?_⟩
        rw [Machine.step_of_idle hread]
        exact ⟨rfl, rfl⟩
    | unreadable reason =>
        rw [hread] at hreading
        cases hreading with
        | tooManyDigits hletter hword hlength =>
            exact absurd ⟨_, hletter, _, hword, hlength⟩ hunreadable
    | motion command ds =>
        rw [hread] at hreading
        cases hreading with
        | motion hword hlength hvalue => exact absurd ⟨_, hword, hlength, hvalue⟩ hmotion

-- the digits of a command word may be of any script
example : ((readLine 1 "g٠١ X1").command?.map Command.motion) = some .linear := by decide +kernel

end Toolpath
