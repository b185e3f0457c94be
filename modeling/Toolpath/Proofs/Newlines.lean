/-
**Lines are split at newlines and nowhere else.**

The lines of a text are a list of a fixed shape: each but the last one is some characters without a
line feed and then a line feed, and the last one may lack its line feed, but then it has characters.
A list of this shape is what its own text is split into.  Together with the text that the lines make
up, in which every terminator is one line feed, the shape settles where the text is split, whatever
other separators stand in it.

Main definitions:

* `Toolpath.Text.mergePairs`, `Toolpath.Text.withLineFeeds` — a text in which line feeds replace the
  pairs of a carriage return and a line feed, and then all other carriage returns;
* `Toolpath.Text.AreLines` — the shape of the lines of a text;
* `Toolpath.Text.SplitsAtNewlines` — all that can be said about the lines of a text.

Main results:

* `Toolpath.Text.unifyNewlines_eq_withLineFeeds` — one pass over a text does both replacements;
* `Toolpath.Text.AreLines.linesOf_flatten` — **lines are found again in their own text**;
* `Toolpath.Text.exists_linesOf_eq` — what holds no line feed stays within a line;
* `Toolpath.Text.splitsAtNewlines` — **a text is split at newlines and nowhere else**.
-/

import Toolpath.Proofs.FileLines

set_option relaxedAutoImplicit false
set_option autoImplicit false

namespace Toolpath

namespace Text

/-! ### Line feeds for terminators -/

/-- The text with one line feed for every carriage return and line feed after it. -/
def mergePairs : List Char → List Char
  | [] => []
  | [c] => [c]
  | c :: d :: rest =>
      if c = '\r' ∧ d = '\n' then '\n' :: mergePairs rest else c :: mergePairs (d :: rest)

/-- The text with a line feed for every such pair, and for every carriage return that remains. -/
def withLineFeeds (text : List Char) : List Char :=
  (mergePairs text).map fun c => if c = '\r' then '\n' else c

/-- **One pass over a text does both replacements.** -/
theorem unifyNewlines_eq_withLineFeeds (text : List Char) :
    unifyNewlines text = withLineFeeds text := by
  unfold withLineFeeds
  fun_induction mergePairs text with
  | case1 => rfl
  | case2 c =>
      rw [unifyNewlines_singleton, List.map_singleton]
      split <;> rfl
  | case3 c d rest hpair ih =>
      obtain ⟨rfl, rfl⟩ := hpair
      rw [unifyNewlines_cons, if_pos rfl, List.head?_cons, if_pos rfl, unifyNewlines_cons,
        if_neg (by decide), ih]
      rfl
  | case4 c d rest hpair ih =>
      rw [unifyNewlines_cons, List.map_cons, ih]
      by_cases hcr : c = '\r'
      · have hlf : d ≠ '\n' := fun h => hpair ⟨hcr, h⟩
        rw [if_pos hcr, if_pos hcr, List.head?_cons, if_neg fun h => hlf (Option.some.inj h)]
      · rw [if_neg hcr, if_neg hcr]

/-! ### The shape of lines -/

/-- The shape of the lines of a text. -/
inductive AreLines : List (List Char) → Prop
  | nil : AreLines []
  /-- The last line may lack its line feed. -/
  | unfinished {line : List Char} (hne : line ≠ []) (hlf : '\n' ∉ line) : AreLines [line]
  /-- Any other line has one, at its end. -/
  | cons {front : List Char} {rest : List (List Char)} (hlf : '\n' ∉ front)
      (hrest : AreLines rest) : AreLines ((front ++ ['\n']) :: rest)

theorem areLines_consLine {lines : List (List Char)} (h : AreLines lines) (c : Char) :
    AreLines (consLine c lines) := by
  by_cases hc : c = '\n'
  · rw [hc, consLine_lf, ← List.nil_append ['\n']]
    exact .cons List.not_mem_nil h
  · cases h with
    | nil =>
        rw [consLine_nil hc]
        exact .unfinished (List.cons_ne_nil c []) (by simp [Ne.symm hc])
    | unfinished hne hlf =>
        rw [consLine_cons hc]
        exact .unfinished (List.cons_ne_nil c _) (by simp [Ne.symm hc, hlf])
    | cons hlf hrest =>
        rw [consLine_cons hc, ← List.cons_append]
        exact .cons (by simp [Ne.symm hc, hlf]) hrest

/-- The lines of a text have their shape. -/
theorem areLines_linesOf (text : List Char) : AreLines (linesOf text) := by
  induction text with
  | nil => exact .nil
  | cons c rest ih => exact areLines_consLine ih c

/-- A text without line feeds is one line. -/
theorem linesOf_unfinished {line : List Char} (hne : line ≠ []) (hlf : '\n' ∉ line) :
    linesOf line = [line] := by
  induction line with
  | nil => exact absurd rfl hne
  | cons c rest ih =>
      rw [List.mem_cons, not_or] at hlf
      rw [linesOf_cons]
      cases rest with
      | nil => exact consLine_nil (Ne.symm hlf.1)
      | cons d rest => rw [ih (List.cons_ne_nil d rest) hlf.2, consLine_cons (Ne.symm hlf.1)]

namespace AreLines

variable {lines : List (List Char)}

/-- **Lines are found again in their own text.** -/
theorem linesOf_flatten (h : AreLines lines) : linesOf lines.flatten = lines := by
  induction h with
  | nil => rfl
  | unfinished hne hlf => rw [List.flatten_singleton, linesOf_unfinished hne hlf]
  | cons hlf _ ih =>
      rw [List.flatten_cons, List.append_assoc, List.singleton_append, linesOf_line hlf, ih]

theorem ne_nil (h : AreLines lines) {line : List Char} (hline : line ∈ lines) : line ≠ [] := by
  induction h with
  | nil => cases hline
  | unfinished hne =>
      rw [List.mem_singleton.1 hline]
      exact hne
  | cons _ _ ih =>
      rcases List.mem_cons.1 hline with rfl | hline
      · exact List.append_ne_nil_of_right_ne_nil _ (List.cons_ne_nil _ _)
      · exact ih hline

/-- A line feed is the last character of a line. -/
theorem not_mem_dropLast (h : AreLines lines) {line : List Char} (hline : line ∈ lines) :
    '\n' ∉ line.dropLast := by
  induction h with
  | nil => cases hline
  | unfinished _ hlf =>
      rw [List.mem_singleton.1 hline]
      exact fun hmem => hlf (List.dropLast_subset _ hmem)
  | cons hlf _ ih =>
      rcases List.mem_cons.1 hline with rfl | hline
      · rwa [List.dropLast_concat]
      · exact ih hline

/-- Every line but the last one ends with a line feed. -/
theorem getLast?_of_mem_dropLast (h : AreLines lines) {line : List Char}
    (hline : line ∈ lines.dropLast) : line.getLast? = some '\n' := by
  induction h with
  | nil => cases hline
  | unfinished => cases hline
  | @cons front rest hlf _ ih =>
      cases rest with
      | nil => cases hline
      | cons next rest =>
          rw [List.dropLast_cons_of_ne_nil (List.cons_ne_nil next rest)] at hline
          rcases List.mem_cons.1 hline with rfl | hline
          · exact List.getLast?_concat
          · exact ih hline

end AreLines

/-! ### Within a line -/

/-- What comes before the next line feed stands in front of the first line of the rest. -/
theorem linesOf_append_of_not_mem {plain : List Char} (hne : plain ≠ []) (hlf : '\n' ∉ plain)
    (back : List Char) :
    linesOf (plain ++ back) =
      (plain ++ (linesOf back).headD []) :: (linesOf back).tail := by
  induction plain with
  | nil => exact absurd rfl hne
  | cons c rest ih =>
      rw [List.mem_cons, not_or] at hlf
      rw [List.cons_append, linesOf_cons]
      cases rest with
      | nil =>
          rw [List.nil_append]
          cases linesOf back with
          | nil => exact consLine_nil (Ne.symm hlf.1)
          | cons line others => exact consLine_cons (Ne.symm hlf.1) line others
      | cons d rest => rw [ih (List.cons_ne_nil d rest) hlf.2, consLine_cons (Ne.symm hlf.1)]; rfl

/-- **What holds no line feed stays within a line**, between what comes before and after it. -/
theorem exists_linesOf_eq (front : List Char) {plain : List Char} (hne : plain ≠ [])
    (hlf : '\n' ∉ plain) (back : List Char) :
    ∃ before head tail after,
      linesOf (front ++ plain ++ back) = before ++ (head ++ plain ++ tail) :: after ∧
        before.flatten ++ head = front ∧ tail ++ after.flatten = back := by
  induction front with
  | nil =>
      refine ⟨[], [], (linesOf back).headD [], (linesOf back).tail, ?_, rfl, ?_⟩
      · exact linesOf_append_of_not_mem hne hlf back
      · have hback := flatten_linesOf back
        cases hlines : linesOf back with
        | nil => rwa [hlines] at hback
        | cons line others => rwa [hlines] at hback
  | cons c front ih =>
      obtain ⟨before, head, tail, after, hlines, hfront, hback⟩ := ih
      rw [List.append_assoc, List.cons_append, ← List.append_assoc, linesOf_cons, hlines]
      by_cases hc : c = '\n'
      · refine ⟨['\n'] :: before, head, tail, after, ?_, ?_, hback⟩
        · rw [hc, consLine_lf]
          rfl
        · rw [hc, List.flatten_cons, List.append_assoc, hfront]
          rfl
      · -- the character belongs to the first line, which may be the one around the middle
        cases before with
        | nil =>
            refine ⟨[], c :: head, tail, after, ?_, congrArg (c :: ·) hfront, hback⟩
            exact consLine_cons hc _ _
        | cons line others =>
            refine ⟨(c :: line) :: others, head, tail, after, ?_, congrArg (c :: ·) hfront, hback⟩
            exact consLine_cons hc _ _

/-! ### Texts -/

/-- All that can be said about the lines that a text is split into. -/
structure SplitsAtNewlines (text : String) (lines : List String) : Prop where
  /-- The lines make up the text with a line feed for every terminator. -/
  join_eq : (String.join lines).toList = withLineFeeds text.toList
  ne_empty : ∀ line ∈ lines, line ≠ ""
  no_cr : ∀ line ∈ lines, '\r' ∉ line.toList
  /-- A line feed is the last character of its line. -/
  lf_last : ∀ line ∈ lines, '\n' ∉ line.toList.dropLast
  /-- Every line but the last one ends with a line feed. -/
  ends_lf : ∀ line ∈ lines.dropLast, line.toList.getLast? = some '\n'
  /-- There is a line for every terminator, and one more for what comes after the last one. -/
  length_eq : lines.length = terminatorCount '\r' '\n' text.toList +
    if endsOpen '\r' '\n' text.toList then 1 else 0
  /-- Characters that are neither carriage returns nor line feeds stay together in one line,
  whatever they are and whatever stands around them. -/
  stays_whole : ∀ front plain back, text.toList = front ++ plain ++ back → plain ≠ [] →
    (∀ c ∈ plain, c ≠ '\r' ∧ c ≠ '\n') →
    ∃ before head tail after, lines = before ++ String.ofList (head ++ plain ++ tail) :: after ∧
      (String.join before).toList ++ head = withLineFeeds front ∧
        tail ++ (String.join after).toList = withLineFeeds back
  /-- The text that the lines make up is split into the same lines. -/
  split_join : splitLines (String.join lines) = lines

theorem toList_join_map_ofList (lines : List (List Char)) :
    (String.join (lines.map String.ofList)).toList = lines.flatten := by
  rw [String.toList_join, List.flatMap_map]
  simp [List.flatMap_def]

theorem toList_join_splitLines (text : String) :
    (String.join (splitLines text)).toList = unifyNewlines text.toList := by
  rw [splitLines, toList_join_map_ofList, flatten_linesOf]

/-- Lines are counted by their terminators. -/
theorem length_splitLines (text : String) :
    (splitLines text).length = terminatorCount '\r' '\n' text.toList +
      if endsOpen '\r' '\n' text.toList then 1 else 0 := by
  rw [splitLines, List.length_map, length_linesOf_unifyNewlines]

/-- **A text is split at newlines and nowhere else.** -/
theorem splitsAtNewlines (text : String) : SplitsAtNewlines text (splitLines text) := by
  have hlines := areLines_linesOf (unifyNewlines text.toList)
  have hmem : ∀ line ∈ splitLines text, line.toList ∈ linesOf (unifyNewlines text.toList) := by
    intro line hline
    obtain ⟨own, hown, rfl⟩ := List.mem_map.1 hline
    rwa [String.toList_ofList]
  refine ⟨?_, fun line hline => ?_, fun line hline hcr => ?_, fun line hline => ?_,
    fun line hline => ?_, length_splitLines text, fun front plain back htext hne hplain => ?_, ?_⟩
  · rw [toList_join_splitLines, unifyNewlines_eq_withLineFeeds]
  · rintro rfl
    exact hlines.ne_nil (hmem _ hline) rfl
  · -- a carriage return in a line would be one in the text of all lines
    refine cr_not_mem_unifyNewlines text.toList ?_
    rw [← flatten_linesOf (unifyNewlines text.toList)]
    exact List.mem_flatten_of_mem (hmem line hline) hcr
  · exact hlines.not_mem_dropLast (hmem line hline)
  · rw [splitLines, ← List.map_dropLast] at hline
    obtain ⟨own, hown, rfl⟩ := List.mem_map.1 hline
    rw [String.toList_ofList]
    exact hlines.getLast?_of_mem_dropLast hown
  · have hlf : '\n' ∉ plain := fun h => (hplain _ h).2 rfl
    have hcr : '\r' ∉ plain := fun h => (hplain _ h).1 rfl
    have hfront : front.getLast? = some '\r' → (plain ++ back).head? ≠ some '\n' := by
      obtain ⟨c, rest, rfl⟩ := List.exists_cons_of_ne_nil hne
      exact fun _ h => (hplain c List.mem_cons_self).2 (Option.some.inj h)
    have hback : plain.getLast? = some '\r' → back.head? ≠ some '\n' :=
      fun h => absurd (List.mem_of_getLast? h) hcr
    have hunify : unifyNewlines text.toList =
        withLineFeeds front ++ plain ++ withLineFeeds back := by
      rw [htext, List.append_assoc, unifyNewlines_append hfront, unifyNewlines_append hback,
        unifyNewlines_eq_self hcr, ← List.append_assoc, unifyNewlines_eq_withLineFeeds,
        unifyNewlines_eq_withLineFeeds]
    obtain ⟨before, head, tail, after, hsplit, hbefore, hafter⟩ :=
      exists_linesOf_eq (withLineFeeds front) hne hlf (withLineFeeds back)
    refine ⟨before.map String.ofList, head, tail, after.map String.ofList, ?_, ?_, ?_⟩
    · rw [splitLines, hunify, hsplit, List.map_append, List.map_cons]
    · rw [toList_join_map_ofList, hbefore]
    · rw [toList_join_map_ofList, hafter]
  · rw [splitLines, toList_join_splitLines, unifyNewlines_unifyNewlines, ← splitLines]

-- vertical tabs, form feeds and the separators beyond ASCII stay within their lines
example : splitLines "a\x0bb\x0cc\x1cd\r\r\ne\u0085f\n\r\u2028g" =
    ["a\x0bb\x0cc\x1cd\n", "\n", "e\u0085f\n", "\n", "\u2028g"] := by
  decide +kernel

end Text

end Toolpath
