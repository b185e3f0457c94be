/-
**Programs that are written line by line.**

A program is written as its lines with a line feed after each.  Reading it finds the same lines
again, if none of them holds a terminator; and the line feed at the end of a line is blank, so that
the line says the same with it and without it.  This module also says of the parts that lines are
put together from that they hold no terminator: numbers, however they are written, are among them.

Main definitions:

* `Toolpath.IsOneLine` — a text holds no terminator.

Main results:

* `Toolpath.splitLines_programText` — the lines of a program that is written are found again;
* `Toolpath.analyzeText_programText` — **its analysis is that of its lines**;
* `Toolpath.isOneLine_numeral`, `Toolpath.isOneLine_shortest` — numbers hold no terminator.
-/

import Toolpath.Proofs.FixedPlaces
import Toolpath.Proofs.Newlines
import Toolpath.Proofs.Presentation
import Toolpath.Sample

set_option relaxedAutoImplicit false
set_option autoImplicit false

namespace Toolpath

open Text

/-! ### Lines and terminators -/

/-- The text holds no terminator. -/
def IsOneLine (line : String) : Prop := ∀ c ∈ line.toList, c ≠ '\r' ∧ c ≠ '\n'

instance (line : String) : Decidable (IsOneLine line) :=
  List.decidableBAll (fun c => c ≠ '\r' ∧ c ≠ '\n') line.toList

theorem IsOneLine.append {front back : String} (hfront : IsOneLine front) (hback : IsOneLine back) :
    IsOneLine (front ++ back) := by
  intro c hc
  rw [String.toList_append] at hc
  rcases List.mem_append.1 hc with hc | hc
  · exact hfront c hc
  · exact hback c hc

/-- The characters of lines with a line feed after each. -/
theorem toList_programText {lines : List String} (hne : lines ≠ []) :
    (programText lines).toList = (lines.map fun line => line.toList ++ ['\n']).flatten := by
  induction lines with
  | nil => exact absurd rfl hne
  | cons line rest ih =>
      rw [programText, String.toList_append, String.toList_intercalate] at *
      cases rest with
      | nil => simp [List.intercalate]
      | cons next rest =>
          have hrest := ih (List.cons_ne_nil next rest)
          rw [List.map_cons, List.map_cons] at hrest ⊢
          rw [List.map_cons, List.flatten_cons, List.map_cons, ← hrest]
          simp [List.intercalate]

/-- The lines of a program that is written are found again, each with its line feed. -/
theorem splitLines_programText {lines : List String} (hne : lines ≠ [])
    (h : ∀ line ∈ lines, IsOneLine line) :
    splitLines (programText lines) = lines.map fun line => line ++ "\n" := by
  have hshape : AreLines (lines.map fun line => line.toList ++ ['\n']) := by
    clear hne
    induction lines with
    | nil => exact .nil
    | cons line rest ih =>
        refine .cons (fun hlf => ?_)
          (ih fun other hother => h other (List.mem_cons_of_mem _ hother))
        exact (h line (List.mem_cons_self ..) _ hlf).2 rfl
  have hcr : '\r' ∉ (lines.map fun line => line.toList ++ ['\n']).flatten := by
    intro hmem
    obtain ⟨text, htext, hmem⟩ := List.mem_flatten.1 hmem
    obtain ⟨line, hline, rfl⟩ := List.mem_map.1 htext
    rcases List.mem_append.1 hmem with hmem | hmem
    · exact (h line hline _ hmem).1 rfl
    · exact absurd hmem (by decide)
  rw [splitLines, toList_programText hne, unifyNewlines_eq_self hcr, hshape.linesOf_flatten,
    List.map_map]
  refine List.map_congr_left fun line _ => ?_
  rw [Function.comp_apply, String.ofList_append, String.ofList_toList]

/-! ### Line feeds at the ends of lines -/

/-- A line says the same with a line feed at its end. -/
theorem readLine_append_lineFeed (number : Int) (line : String) :
    readLine number (line ++ "\n") = readLine number line := by
  have hblank : ∀ c ∈ ['\n'], isBlank c = true := List.forall_mem_singleton.2 (by decide)
  have hstrip : stripComment (line ++ "\n").toList = stripComment line.toList := by
    have hfeed : "\n".toList = ['\n'] := by decide
    rw [String.toList_append, stripComment, stripComment, hfeed, trim_append_blanks hblank]
  rw [readLine, readLine, hstrip]

/-- Line feeds at the ends of the lines change nothing. -/
theorem analyzeLines_map_lineFeed (settings : Settings) (lines : List String) :
    analyzeLines settings (lines.map fun line => line ++ "\n") = analyzeLines settings lines := by
  have hnext : ∀ (run : Run) (line : String),
      run.next settings (line ++ "\n") = run.next settings line := fun run line => by
    rw [Run.next, Run.next, Machine.step, Machine.step, readLine_append_lineFeed]
  rw [analyzeLines, analyzeLines, Run.ofLines, List.foldl_map, Run.ofLines]
  simp only [hnext]

/-- **The analysis of a program that is written is that of its lines.** -/
theorem analyzeText_programText (settings : Settings) {lines : List String} (hne : lines ≠ [])
    (h : ∀ line ∈ lines, IsOneLine line) :
    analyzeText settings (programText lines) = analyzeLines settings lines := by
  rw [analyzeText, splitLines_programText hne h, analyzeLines_map_lineFeed]

/-! ### Numbers -/

/-- A character that numbers are written with, in any format. -/
def isNumberCharacter (c : Char) : Bool :=
  isDecimalDigit c || ['+', '-', '.', 'e', 'i', 'n', 'f', 'a'].contains c

theorem isNumberCharacter_of_digit {c : Char} (h : isDecimalDigit c = true) :
    isNumberCharacter c = true := by
  rw [isNumberCharacter, h, Bool.true_or]

theorem isOneLine_of_number {text : List Char} (h : ∀ c ∈ text, isNumberCharacter c = true) :
    IsOneLine (String.ofList text) := by
  intro c hc
  rw [String.toList_ofList] at hc
  have hnumber := h c hc
  constructor <;> rintro rfl <;> exact absurd hnumber (by decide)

theorem isOneLine_numeral {numeral : Numeral} (h : numeral.WellFormed) :
    IsOneLine (String.ofList numeral.text) := by
  refine isOneLine_of_number fun c hc => ?_
  rcases h.mem_text hc with hdigit | hsign
  · exact isNumberCharacter_of_digit hdigit
  · have hall : ['+', '-', '.'].all isNumberCharacter = true := by decide
    exact List.all_eq_true.1 hall c hsign

theorem isOneLine_toString (n : Nat) : IsOneLine (toString n) := by
  rw [Nat.toString_eq_ofList_toDigits]
  exact isOneLine_of_number fun c hc =>
    isNumberCharacter_of_digit (isDecimalDigit_of_mem_toDigits hc)

namespace Binary64

theorem all_replicate_zero (n : Nat) :
    (List.replicate n '0').all isNumberCharacter = true :=
  List.all_eq_true.2 fun c hc => by
    rw [List.eq_of_mem_replicate hc]
    decide

theorem all_toDigits (n : Nat) : (Nat.toDigits 10 n).all isNumberCharacter = true :=
  List.all_eq_true.2 fun _ hc => isNumberCharacter_of_digit (isDecimalDigit_of_mem_toDigits hc)

theorem all_paddedDigits (width n : Nat) :
    (paddedDigits width n).all isNumberCharacter = true :=
  List.all_eq_true.2 fun _ hc => isNumberCharacter_of_digit (isDecimalDigit_of_mem_paddedDigits hc)

theorem all_signText (negative : Bool) : (signText negative).all isNumberCharacter = true := by
  cases negative <;> decide

section Layouts

variable {digits : List Char}

theorem all_take (h : digits.all isNumberCharacter = true) (n : Nat) :
    (digits.take n).all isNumberCharacter = true :=
  List.all_eq_true.2 fun c hc => List.all_eq_true.1 h c (List.mem_of_mem_take hc)

theorem all_drop (h : digits.all isNumberCharacter = true) (n : Nat) :
    (digits.drop n).all isNumberCharacter = true :=
  List.all_eq_true.2 fun c hc => List.all_eq_true.1 h c (List.mem_of_mem_drop hc)

theorem all_positionalLayout (h : digits.all isNumberCharacter = true) (exponent : Int) :
    (positionalLayout digits exponent).all isNumberCharacter = true := by
  have hpoint : isNumberCharacter '.' = true := by decide
  have hzero : isNumberCharacter '0' = true := by decide
  unfold positionalLayout
  dsimp only
  split
  · rw [List.all_append, List.all_cons, List.all_cons, hzero, hpoint, all_replicate_zero, h]
    rfl
  · rw [List.all_append, List.all_append, List.all_cons, all_take h, all_replicate_zero, hpoint]
    split
    · exact hzero
    · exact all_drop h _

theorem all_exponentText (exponent : Int) :
    (exponentText exponent).all isNumberCharacter = true := by
  have hmark : isNumberCharacter 'e' = true := by decide
  have hsign : isNumberCharacter (if exponent < 0 then '-' else '+') = true := by
    split <;> decide
  rw [exponentText, List.all_cons, List.all_cons, hmark, hsign]
  split
  · exact all_paddedDigits 2 _
  · exact all_toDigits _

theorem all_scientificLayout (h : digits.all isNumberCharacter = true) (exponent : Int) :
    (scientificLayout digits exponent).all isNumberCharacter = true := by
  have hpoint : isNumberCharacter '.' = true := by decide
  rw [scientificLayout, List.all_append, List.all_append, all_take h, all_exponentText]
  split
  · rfl
  · rw [List.all_cons, hpoint, all_drop h]
    rfl

end Layouts

/-- A number in the fewest digits is written with the characters of numbers. -/
theorem all_shortest (x : Binary64) : x.shortest.toList.all isNumberCharacter = true := by
  cases x with
  | nan => decide
  | infinite negative => cases negative <;> decide
  | finite negative units hunits =>
      rw [shortest]
      split
      · rw [String.toList_ofList, List.all_append, all_signText]
        decide
      · dsimp only
        generalize firstReadingBack units (decimalExponent units) (List.range' 1 17) = found
        have hdigits : ((Nat.toDigits 10 found.1).reverse.dropWhile (· == '0')).reverse.all
            isNumberCharacter = true := by
          rw [List.all_reverse]
          refine List.all_eq_true.2 fun c hc => ?_
          have hmem := List.mem_reverse.1 ((List.dropWhile_suffix _).mem hc)
          exact List.all_eq_true.1 (all_toDigits found.1) c hmem
        rw [String.toList_ofList, List.all_append, all_signText, Bool.true_and]
        split
        · exact all_positionalLayout hdigits _
        · exact all_scientificLayout hdigits _

end Binary64

/-- A number in the fewest digits holds no terminator. -/
theorem isOneLine_shortest (x : Binary64) : IsOneLine x.shortest := by
  rw [← String.ofList_toList (s := x.shortest)]
  exact isOneLine_of_number (List.all_eq_true.1 x.all_shortest)

end Toolpath
