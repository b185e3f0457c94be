/-
**Written lines are read as they are written.**

A line can be written as a motion word and parameter words after it, with or without white space
between them.  Reading it gives a command with the motion of its number, and the last finite number
of every parameter; what is reported is each word whose number is too large, and an arc without any
offset.

Main definitions:

* `Toolpath.WrittenWord`, `Toolpath.WrittenLine` — words and lines in their parts;
* `Toolpath.WrittenLine.text` — how a line is written;
* `Toolpath.ReadsAsWritten` — a command and its diagnostics say what is written.

Main results:

* `Toolpath.WrittenLine.lineWords_text` — the words that are read are the ones that are written;
* `Toolpath.WrittenLine.readsAsWritten` — **written lines are read as they are written**.
-/

import Toolpath.Proofs.LastWord
import Toolpath.Proofs.WordText

set_option relaxedAutoImplicit false
set_option autoImplicit false

namespace Toolpath

open Text

/-! ### Letters -/

namespace Address

/-- The capital letter of a parameter. -/
def letter : Address → Char
  | .x => 'X'
  | .y => 'Y'
  | .z => 'Z'
  | .i => 'I'
  | .j => 'J'
  | .k => 'K'
  | .f => 'F'
  | .s => 'S'
  | .e => 'E'

/-- The small letter of a parameter. -/
def smallLetter : Address → Char
  | .x => 'x'
  | .y => 'y'
  | .z => 'z'
  | .i => 'i'
  | .j => 'j'
  | .k => 'k'
  | .f => 'f'
  | .s => 's'
  | .e => 'e'

@[simp] theorem ofLetter?_letter (address : Address) : ofLetter? address.letter = some address := by
  cases address <;> decide

end Address

theorem isWordLetter_letter (address : Address) : isWordLetter address.letter = true := by
  rw [isWordLetter, Address.ofLetter?_letter]
  rfl

/-- The letters that start a parameter word. -/
theorem mem_of_isWordLetter {c : Char} (h : isWordLetter c = true) :
    c ∈ ['X', 'Y', 'Z', 'I', 'J', 'K', '\u212a', 'F', 'S', 'E', '\u0130'] := by
  by_contra hnot
  simp only [List.mem_cons, List.not_mem_nil, or_false, not_or] at hnot
  simp [isWordLetter, Address.ofLetter?, hnot] at h

theorem apart_wordLetters :
    ['X', 'Y', 'Z', 'I', 'J', 'K', '\u212a', 'F', 'S', 'E', '\u0130'].all fun c =>
      !isDecimalDigit c && !isBlank c := by
  decide +kernel

/-- No digit and no white space starts a parameter word. -/
theorem isWordLetter_eq_false {c : Char} (h : isDecimalDigit c = true ∨ isBlank c = true) :
    isWordLetter c = false := by
  rw [← Bool.not_eq_true]
  intro hletter
  have hapart := List.all_eq_true.1 apart_wordLetters c (mem_of_isWordLetter hletter)
  rw [Bool.and_eq_true, Bool.not_eq_true', Bool.not_eq_true'] at hapart
  rw [hapart.1, hapart.2] at h
  simp at h

/-- No digit and no white space starts a comment. -/
theorem startsComment_eq_false {c : Char} (h : isDecimalDigit c = true ∨ isBlank c = true) :
    startsComment c = false := by
  rw [← Bool.not_eq_true]
  intro hcomment
  rw [startsComment, Bool.or_eq_true, beq_iff_eq, beq_iff_eq] at hcomment
  rcases hcomment with rfl | rfl
  · exact absurd h (by decide)
  · exact absurd h (by decide)

/-- A text that starts and ends with no blank, and in which no comment starts, is all code. -/
theorem stripComment_eq_self {text : List Char} (hhead : ∀ c ∈ text.head?, isBlank c = false)
    (hlast : ∀ c ∈ text.getLast?, isBlank c = false) (h : ∀ c ∈ text, startsComment c = false) :
    stripComment text = text := by
  have hcode : text.takeWhile (fun c => !startsComment c) = text :=
    List.takeWhile_eq_self_iff.2 fun c hc => by rw [h c hc]; rfl
  rw [stripComment, trim_eq_self hhead hlast, hcode, trim_eq_self hhead hlast]

theorem plain_of_sign {c : Char} (h : c ∈ ['+', '-', '.']) :
    capitalForm c = [c] ∧ isBlank c = false ∧ startsComment c = false := by
  simp only [List.mem_cons, List.not_mem_nil, or_false] at h
  rcases h with rfl | rfl | rfl <;> decide

/-- The characters of a numeral are their own capitals, and no trimming and no comment takes them
away. -/
theorem Numeral.WellFormed.plain {numeral : Numeral} (h : numeral.WellFormed) {c : Char}
    (hc : c ∈ numeral.text) :
    capitalForm c = [c] ∧ isBlank c = false ∧ startsComment c = false := by
  rcases h.mem_text hc with hc | hc
  · exact ⟨capitalForm_of_decimalDigit hc, isBlank_of_decimalDigit hc,
      startsComment_eq_false (.inl hc)⟩
  · exact plain_of_sign hc

/-! ### Words -/

/-- A parameter word as it is written, with the white space before it. -/
structure WrittenWord where
  /-- The white space before the word, if there is any. -/
  gap : List Char
  address : Address
  /-- The letter is a small one. -/
  small : Bool
  numeral : Numeral
  gap_blank : ∀ c ∈ gap, isBlank c = true
  wellFormed : numeral.WellFormed

namespace WrittenWord

/-- The letter that is written. -/
def letter (w : WrittenWord) : Char :=
  if w.small then w.address.smallLetter else w.address.letter

/-- The letter and the numeral. -/
def written (w : WrittenWord) : List Char := w.letter :: w.numeral.text

/-- The word with the white space before it. -/
def text (w : WrittenWord) : List Char := w.gap ++ w.written

/-- The word that is read. -/
def word (w : WrittenWord) : Word := ⟨w.address.letter, w.numeral⟩

/-- The value of the word. -/
def value (w : WrittenWord) : Binary64 := w.numeral.value

variable (w : WrittenWord)

theorem capitalForm_letter : capitalForm w.letter = [w.address.letter] := by
  unfold letter
  cases w.address <;> cases w.small <;> decide

theorem letter_ends : isBlank w.letter = false ∧ startsComment w.letter = false := by
  unfold letter
  cases w.address <;> cases w.small <;> decide

/-- No trimming and no comment takes a written character away. -/
theorem stays {c : Char} (hc : c ∈ w.written) : isBlank c = false ∧ startsComment c = false := by
  rcases List.mem_cons.1 hc with rfl | hc
  · exact w.letter_ends
  · exact (w.wellFormed.plain hc).2

theorem startsComment_of_mem_text {c : Char} (hc : c ∈ w.text) : startsComment c = false := by
  rcases List.mem_append.1 hc with hc | hc
  · exact startsComment_eq_false (.inr (w.gap_blank c hc))
  · exact (w.stays hc).2

theorem isBlank_getLast {c : Char} (hc : c ∈ w.text.getLast?) : isBlank c = false := by
  have hne : w.written ≠ [] := List.cons_ne_nil _ _
  rw [text, List.getLast?_append_of_ne_nil _ hne] at hc
  exact (w.stays (List.mem_of_getLast? hc)).1

/-- In capitals, a written word is the word that is read. -/
theorem capitals_written : capitals w.written = w.word.text := by
  have hnumeral : capitals w.numeral.text = w.numeral.text :=
    capitals_eq_self fun c hc => (w.wellFormed.plain hc).1
  rw [written, capitals_cons, w.capitalForm_letter, hnumeral]
  rfl

theorem capitals_text : capitals w.text = w.gap ++ w.word.text := by
  have hgap : capitals w.gap = w.gap :=
    capitals_eq_self fun c hc => capitalForm_of_blank (w.gap_blank c hc)
  rw [text, capitals_append, hgap, capitals_written]

end WrittenWord

/-- Words that are written one after another, in capitals. -/
def upperWords (ws : List WrittenWord) : List Char := capitals (ws.flatMap WrittenWord.text)

theorem upperWords_cons (w : WrittenWord) (ws : List WrittenWord) :
    upperWords (w :: ws) = w.gap ++ (w.word.text ++ upperWords ws) := by
  rw [upperWords, List.flatMap_cons, capitals_append, w.capitals_text, List.append_assoc]
  rfl

/-- No numeral goes on with the word that is written after it. -/
theorem ends_upperWords (ws : List WrittenWord) : Numeral.Ends (upperWords ws) := by
  intro c hc
  cases ws with
  | nil => cases hc
  | cons w ws =>
      rw [upperWords_cons] at hc
      cases hgap : w.gap with
      | nil =>
          rw [hgap] at hc
          obtain rfl : w.address.letter = c := Option.some.inj hc
          cases w.address <;> decide
      | cons blank gap =>
          rw [hgap] at hc
          obtain rfl : blank = c := Option.some.inj hc
          have hblank : isBlank blank = true :=
            w.gap_blank blank (by rw [hgap]; exact List.mem_cons_self ..)
          constructor
          · rw [← Bool.not_eq_true]
            intro hdigit
            rw [isBlank_of_decimalDigit hdigit] at hblank
            cases hblank
          · rintro rfl
            exact absurd hblank (by decide)

/-- **The words that are read are the ones that are written.** -/
theorem words_upperWords (ws : List WrittenWord) :
    words (upperWords ws) = ws.map WrittenWord.word := by
  induction ws with
  | nil => rfl
  | cons w ws ih =>
      have hgap : ∀ c ∈ w.gap, isWordLetter c = false :=
        fun c hc => isWordLetter_eq_false (.inr (w.gap_blank c hc))
      rw [upperWords_cons, words_append_of_noLetter hgap,
        words_text_append (isWordLetter_letter w.address) w.wellFormed (ends_upperWords ws), ih,
        List.map_cons]

/-! ### Lines -/

/-- A motion word and parameter words as they are written. -/
structure WrittenLine where
  /-- The zeros before the digit of the motion word. -/
  zeros : Nat
  zeros_le : zeros ≤ 4299
  /-- The digit that names the motion. -/
  digit : Fin 4
  words : List WrittenWord

namespace WrittenLine

/-- The digits of the motion word. -/
def digits (line : WrittenLine) : List Char :=
  List.replicate line.zeros '0' ++ [Nat.digitChar line.digit]

/-- The motion word. -/
def token (line : WrittenLine) : List Char := 'G' :: line.digits

/-- How the line is written. -/
def text (line : WrittenLine) : List Char := line.token ++ line.words.flatMap WrittenWord.text

/-- The finite numbers that are written for a parameter, in their order. -/
def values (line : WrittenLine) (address : Address) : List Binary64 :=
  (line.words.filter fun w => w.address = address && w.value.isFinite).map WrittenWord.value

variable (line : WrittenLine)

theorem decimalDigit?_digit : decimalDigit? (Nat.digitChar line.digit) = some line.digit.val := by
  generalize line.digit = digit
  revert digit
  decide

theorem decimal_digits : ∀ d ∈ line.digits, isDecimalDigit d = true := by
  intro d hd
  rcases List.mem_append.1 hd with hd | hd
  · obtain rfl := List.eq_of_mem_replicate hd
    decide
  · obtain rfl := List.mem_singleton.1 hd
    rw [isDecimalDigit, decimalDigit?_digit]
    rfl

theorem digitsValue_replicate (zeros : Nat) : digitsValue (List.replicate zeros '0') = 0 := by
  induction zeros with
  | zero => rfl
  | succ zeros ih =>
      rw [List.replicate_succ', digitsValue_append_singleton, ih]
      decide

theorem digitsValue_digits : digitsValue line.digits = line.digit := by
  rw [digits, digitsValue_append_singleton, digitsValue_replicate, decimalDigit?_digit,
    Option.getD_some, Nat.mul_zero, Nat.zero_add]

theorem length_digits : line.digits.length ≤ 4300 := by
  have hzeros := line.zeros_le
  rw [digits, List.length_append, List.length_replicate, List.length_singleton]
  omega

/-- No comment starts in a written line. -/
theorem startsComment_of_mem_text {c : Char} (hc : c ∈ line.text) : startsComment c = false := by
  rcases List.mem_append.1 hc with hc | hc
  · rcases List.mem_cons.1 hc with rfl | hc
    · decide
    · exact startsComment_eq_false (.inl (line.decimal_digits c hc))
  · obtain ⟨w, -, hw⟩ := List.mem_flatMap.1 hc
    exact w.startsComment_of_mem_text hw

/-- A written line ends with its last word, and so with no blank. -/
theorem isBlank_getLast {c : Char} (hc : c ∈ line.text.getLast?) : isBlank c = false := by
  rw [text] at hc
  rcases List.eq_nil_or_concat line.words with hwords | ⟨ws, w, hwords⟩
  · rw [hwords, List.flatMap_nil, List.append_nil, token, digits, ← List.cons_append,
      List.getLast?_concat] at hc
    obtain rfl := Option.some.inj hc
    exact isBlank_of_decimalDigit (line.decimal_digits _ (by simp [digits]))
  · have hne : w.text ≠ [] := List.append_ne_nil_of_right_ne_nil _ (List.cons_ne_nil _ _)
    rw [hwords, List.concat_eq_append, List.flatMap_append, List.flatMap_singleton,
      ← List.append_assoc, List.getLast?_append_of_ne_nil _ hne] at hc
    exact w.isBlank_getLast hc

/-- All of a written line is code. -/
theorem stripComment_text : stripComment line.text = line.text := by
  have hhead : ∀ c ∈ line.text.head?, isBlank c = false := by
    intro c hc
    rw [← Option.some.inj hc]
    decide
  exact stripComment_eq_self hhead (fun c hc => line.isBlank_getLast hc) fun c hc =>
    line.startsComment_of_mem_text hc

/-- The motion word is in capitals already. -/
theorem capitals_text : capitals line.text = line.token ++ upperWords line.words := by
  rw [text, capitals_append, token, capitals_cons,
    capitals_eq_self fun d hd => capitalForm_of_decimalDigit (line.decimal_digits d hd)]
  rfl

theorem upperCode_text :
    upperCode (String.ofList line.text) = line.token ++ upperWords line.words := by
  rw [upperCode, String.toList_ofList, stripComment_text, capitals_text]

theorem startsWord : StartsWord 'G' line.digits (upperCode (String.ofList line.text)) := by
  refine ⟨by simp [digits], upperWords line.words, ?_, line.decimal_digits, ?_⟩
  · rw [upperCode_text, token, List.cons_append]
  · exact fun c hc => (ends_upperWords line.words c hc).1

/-- **The words that are read are the ones that are written.** -/
theorem lineWords_text :
    lineWords (String.ofList line.text) = line.words.map WrittenWord.word := by
  have htoken : ∀ c ∈ line.token, isWordLetter c = false := by
    intro c hc
    rcases List.mem_cons.1 hc with rfl | hc
    · decide
    · exact isWordLetter_eq_false (.inl (line.decimal_digits c hc))
  have hwords : lineWords (String.ofList line.text) =
      Toolpath.words (upperCode (String.ofList line.text)) := rfl
  rw [hwords, upperCode_text, words_append_of_noLetter htoken, words_upperWords]

/-- The numbers that are read for a parameter are the ones that are written. -/
theorem valuesFor_words (address : Address) :
    valuesFor address (line.words.map WrittenWord.word) = line.values address := by
  rw [valuesFor, List.filter_map, List.map_map, values]
  congr 1
  refine List.filter_congr fun w _ => ?_
  simp [WrittenWord.word, Word.value, WrittenWord.value]

end WrittenLine

/-! ### Reading a written line -/

/-- A command and its diagnostics say what is written on the line with a number. -/
structure ReadsAsWritten (number : Int) (line : WrittenLine) (command : Command)
    (ds : List Diagnostic) : Prop where
  /-- The command has the motion of the digit. -/
  motion_eq : [Motion.rapid, .linear, .clockwise, .counterclockwise][line.digit.val]? =
    some command.motion
  /-- A parameter has the last finite number that is written for it, if there is one. -/
  parameter_eq : ∀ address, command.parameters.get address = (line.values address).getLast?
  /-- The number of a word is the correct rounding of what its numeral writes. -/
  value_roundsTo : ∀ w ∈ line.words,
    Binary64.RoundsTo (w.numeral.sign == some '-') w.numeral.exact w.value
  /-- What is reported is every word whose number is too large, in order and in capitals, and then
  an arc without any offset. -/
  report_eq : ds.map (fun d => (d.line, d.message)) =
    (line.words.filter fun w => !w.value.isFinite).map
        (fun w => (number, "Invalid parameter value: " ++ String.ofList (capitals w.written))) ++
      if line.digit.val ∈ [2, 3] ∧ command.parameters.i = none ∧ command.parameters.j = none ∧
          command.parameters.k = none then
        [(number, "Arc command " ++ String.ofList line.token ++
          " missing I, J, or K offset parameters.")]
      else []

/-- An arc without any offset, by the number of its motion word. -/
theorem missesOffset_iff {command : Command} {number : Nat} (h : number ≤ 3)
    (hmotion : command.motion = Motion.ofWord 'G' number) :
    (command.motion.isArc && !command.hasOffset) = true ↔
      number ∈ [2, 3] ∧ command.parameters.i = none ∧ command.parameters.j = none ∧
        command.parameters.k = none := by
  have harc : command.motion.isArc = true ↔ number ∈ [2, 3] := by
    rw [hmotion]
    match number with
    | 0 | 1 | 2 | 3 => decide
  rw [Bool.and_eq_true, harc]
  simp [Command.hasOffset, Command.hasCentreOffset, and_assoc]

/-- What is reported about the words of a written line. -/
theorem map_wordDiagnostics {command : Command} {line : WrittenLine}
    (hmotion : command.motion = Motion.ofWord 'G' line.digit)
    (htoken : command.token = String.ofList line.token) :
    (wordDiagnostics command (line.words.map WrittenWord.word)).map (fun d => (d.line, d.message)) =
      (line.words.filter fun w => !w.value.isFinite).map
          (fun w =>
            (command.line, "Invalid parameter value: " ++ String.ofList (capitals w.written))) ++
        if line.digit.val ∈ [2, 3] ∧ command.parameters.i = none ∧ command.parameters.j = none ∧
            command.parameters.k = none then
          [(command.line, "Arc command " ++ String.ofList line.token ++
            " missing I, J, or K offset parameters.")]
        else [] := by
  have hdigit : line.digit.val ≤ 3 := Nat.le_of_lt_succ line.digit.isLt
  rw [wordDiagnostics, List.map_append, List.map_map, List.filter_map, List.map_map]
  congr 1
  · refine List.map_congr_left fun w _ => ?_
    rw [w.capitals_written]
    rfl
  · rw [if_congr (missesOffset_iff hdigit hmotion) rfl rfl, ← htoken]
    split <;> rfl

namespace WrittenLine

/-- **Written lines are read as they are written.** -/
theorem readsAsWritten (number : Int) (line : WrittenLine) :
    ∃ command ds, readLine number (String.ofList line.text) = .motion command ds ∧
      ReadsAsWritten number line command ds := by
  have hvalue : digitsValue line.digits ≤ 3 := by
    rw [digitsValue_digits]
    exact Nat.le_of_lt_succ line.digit.isLt
  refine ⟨_, _, readLine_of_motionWord line.startsWord line.length_digits hvalue, ?_, ?_, ?_, ?_⟩
  · rw [← digitsValue_digits]
    exact Motion.getElem?_ofWord hvalue
  · intro address
    rw [lineWords_text, ← valuesFor_words]
    exact Parameters.get_ofWords _ address
  · intro w _
    exact w.numeral.value_roundsTo
  · rw [lineWords_text, digitsValue_digits]
    exact map_wordDiagnostics rfl rfl

-- words need nothing between them
example : (lineWords "G1X5.Y.5x-2").map Word.text = ["X5.".toList, "Y.5".toList, "X-2".toList] := by
  decide +kernel

end WrittenLine

end Toolpath
