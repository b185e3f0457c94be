/-
**Lines of a file.**

A file is read as the text that its bytes encode, with every terminator turned into a line feed; the
text is then split into lines, which looks for terminators once more and finds nothing to change.
What counts as a terminator can be told from the bytes, however badly the rest of them is encoded.
So the bytes between two terminators make a line of their own: other bytes in their place change
this line, and no other.  Only if nothing is left between a carriage return and a line feed, the
two become one terminator, and the line is gone.

Main definitions:

* `Toolpath.terminatorCount`, `Toolpath.endsOpen` — the terminators of a text or of bytes, and
  whether something comes after the last one;
* `Toolpath.programLines` — the lines that are read from bytes;
* `Toolpath.Between` — bytes stand between two terminators;
* `Toolpath.ReadsAsText` — a file is read as the text that its bytes encode.

Main results:

* `Toolpath.Text.linesOf_around` — what stands between two terminators is a line;
* `Toolpath.length_programLines` — lines are counted in the bytes;
* `Toolpath.programLines_around` — **bytes between two terminators make a line of their own**;
* `Toolpath.readsAsText` — **a file is read as the text that its bytes encode**.
-/

import Toolpath.Proofs.Utf8
import Toolpath.Session

set_option relaxedAutoImplicit false
set_option autoImplicit false

namespace Toolpath

/-! ### Counting terminators -/

section Counting

variable {α : Type} [DecidableEq α]

/-- How many terminators there are.  The second of the two characters is one, and so is the first
one, unless the second one comes right after it. -/
def terminatorCount (cr lf : α) : List α → Nat
  | [] => 0
  | c :: rest =>
      (if c = lf ∨ (c = cr ∧ rest.head? ≠ some lf) then 1 else 0) + terminatorCount cr lf rest

/-- Something comes after the last terminator. -/
def endsOpen (cr lf : α) (text : List α) : Bool :=
  text.getLast?.any fun c => c != cr && c != lf

/-- Terminators are counted without what comes before them. -/
theorem terminatorCount_append {cr lf : α} {front : List α} (h : ∀ c ∈ front, c ≠ cr ∧ c ≠ lf)
    (back : List α) : terminatorCount cr lf (front ++ back) = terminatorCount cr lf back := by
  induction front with
  | nil => rfl
  | cons c front ih =>
      obtain ⟨hcr, hlf⟩ := h c List.mem_cons_self
      rw [List.cons_append, terminatorCount, ih fun d hd => h d (List.mem_cons_of_mem c hd),
        if_neg (by simp [hcr, hlf]), Nat.zero_add]

theorem endsOpen_eq_true_iff {cr lf : α} {text : List α} :
    endsOpen cr lf text = true ↔
      text ≠ [] ∧ text.getLast? ≠ some cr ∧ text.getLast? ≠ some lf := by
  rw [endsOpen, ← List.getLast?_isSome]
  cases text.getLast? with
  | none => simp
  | some c => simp

end Counting

namespace Text

/-! ### Terminators of a text -/

/-- A carriage return is dropped before a line feed, and turned into one elsewhere. -/
theorem unifyNewlines_cons (c : Char) (rest : List Char) :
    unifyNewlines (c :: rest) =
      if c = '\r' then
        if rest.head? = some '\n' then unifyNewlines rest else '\n' :: unifyNewlines rest
      else c :: unifyNewlines rest := by
  cases rest with
  | nil =>
      rw [unifyNewlines_singleton]
      split <;> rfl
  | cons d rest =>
      rw [unifyNewlines_cons_cons, unifyBefore, List.head?_cons]
      split
      · rename_i hcr
        by_cases hlf : d = '\n'
        · rw [if_pos hlf, if_pos (congrArg some hlf)]
          rfl
        · rw [if_neg hlf, if_neg fun h => hlf (Option.some.inj h)]
          rfl
      · rfl

/-- No carriage return is left. -/
theorem cr_not_mem_unifyNewlines (text : List Char) : '\r' ∉ unifyNewlines text := by
  induction text with
  | nil => exact List.not_mem_nil
  | cons c rest ih =>
      rw [unifyNewlines_cons]
      split
      · split
        · exact ih
        · simp [ih]
      · rename_i hc
        simp [ih, Ne.symm hc]

/-- Without carriage returns there is nothing to turn. -/
theorem unifyNewlines_eq_self {text : List Char} (h : '\r' ∉ text) : unifyNewlines text = text := by
  induction text with
  | nil => rfl
  | cons c rest ih =>
      rw [List.mem_cons, not_or] at h
      rw [unifyNewlines_cons, if_neg (Ne.symm h.1), ih h.2]

/-- Looking for terminators once more changes nothing. -/
theorem unifyNewlines_unifyNewlines (text : List Char) :
    unifyNewlines (unifyNewlines text) = unifyNewlines text :=
  unifyNewlines_eq_self (cr_not_mem_unifyNewlines text)

/-- Texts can be taken one after another, unless a terminator is split between them. -/
theorem unifyNewlines_append {front back : List Char}
    (h : front.getLast? = some '\r' → back.head? ≠ some '\n') :
    unifyNewlines (front ++ back) = unifyNewlines front ++ unifyNewlines back := by
  induction front with
  | nil => rfl
  | cons c front ih =>
      rw [List.cons_append, unifyNewlines_cons, unifyNewlines_cons]
      cases front with
      | nil =>
          by_cases hcr : c = '\r'
          · subst hcr
            rw [List.nil_append, if_pos rfl, if_pos rfl, if_neg (h rfl)]
            rfl
          · rw [if_neg hcr, if_neg hcr]
            rfl
      | cons d front =>
          rw [ih (by rwa [List.getLast?_cons_of_ne_nil (List.cons_ne_nil d front)] at h),
            List.cons_append, List.head?_cons, List.head?_cons]
          split
          · split
            · rfl
            · rfl
          · rfl

/-- A text that starts with a terminator starts with a line feed once it is turned. -/
theorem exists_unifyNewlines_eq_cons {text : List Char}
    (h : text.head? = some '\r' ∨ text.head? = some '\n') :
    ∃ rest, unifyNewlines text = '\n' :: rest := by
  induction text with
  | nil => simp at h
  | cons c rest ih =>
      rw [List.head?_cons, Option.some.injEq, Option.some.injEq] at h
      rw [unifyNewlines_cons]
      by_cases hcr : c = '\r'
      · rw [if_pos hcr]
        split
        · rename_i hlf
          exact ih (Or.inr hlf)
        · exact ⟨_, rfl⟩
      · rw [if_neg hcr, h.resolve_left hcr]
        exact ⟨_, rfl⟩

/-- The last character is kept, or turned. -/
theorem getLast?_unifyNewlines (text : List Char) :
    (unifyNewlines text).getLast? =
      text.getLast?.map fun c => if c = '\r' then '\n' else c := by
  induction text with
  | nil => rfl
  | cons c rest ih =>
      rw [unifyNewlines_cons]
      cases rest with
      | nil =>
          rw [List.getLast?_singleton, Option.map_some]
          split
          · rfl
          · rfl
      | cons d rest =>
          have hne : unifyNewlines (d :: rest) ≠ [] := by
            rw [← List.getLast?_isSome, ih]
            simp
          rw [List.getLast?_cons_of_ne_nil (List.cons_ne_nil d rest), ← ih]
          split
          · split
            · rfl
            · exact List.getLast?_cons_of_ne_nil hne
          · exact List.getLast?_cons_of_ne_nil hne

/-- Every terminator is one line feed once the text is turned. -/
theorem count_unifyNewlines (text : List Char) :
    (unifyNewlines text).count '\n' = terminatorCount '\r' '\n' text := by
  induction text with
  | nil => rfl
  | cons c rest ih =>
      rw [unifyNewlines_cons, terminatorCount, ← ih]
      by_cases hcr : c = '\r'
      · subst hcr
        rw [if_pos rfl]
        by_cases hlf : rest.head? = some '\n'
        · simp [hlf]
        · rw [if_neg hlf, List.count_cons_self, if_pos (Or.inr ⟨rfl, hlf⟩), Nat.add_comm]
      · rw [if_neg hcr, List.count_cons]
        by_cases hlf : c = '\n'
        · simp [hlf, Nat.add_comm]
        · simp [hlf, hcr]

/-! ### Lines of a text -/

theorem consLine_lf (lines : List (List Char)) : consLine '\n' lines = ['\n'] :: lines := rfl

theorem consLine_nil {c : Char} (h : c ≠ '\n') : consLine c [] = [[c]] := by
  simp [consLine, h]

theorem consLine_cons {c : Char} (h : c ≠ '\n') (line : List Char) (rest : List (List Char)) :
    consLine c (line :: rest) = (c :: line) :: rest := by
  simp [consLine, h]

@[simp] theorem consLine_ne_nil (c : Char) (lines : List (List Char)) : consLine c lines ≠ [] := by
  intro h
  have hflatten := flatten_consLine c lines
  rw [h] at hflatten
  cases hflatten

theorem consLine_append (c : Char) {lines : List (List Char)} (h : lines ≠ [])
    (others : List (List Char)) : consLine c (lines ++ others) = consLine c lines ++ others := by
  obtain ⟨line, rest, rfl⟩ := List.exists_cons_of_ne_nil h
  by_cases hlf : c = '\n'
  · rw [hlf, consLine_lf, consLine_lf, ← List.cons_append]
  · rw [List.cons_append, consLine_cons hlf, consLine_cons hlf, List.cons_append]

/-- After a line feed another line starts. -/
theorem linesOf_append {front : List Char} (h : ∀ c ∈ front.getLast?, c = '\n')
    (back : List Char) : linesOf (front ++ back) = linesOf front ++ linesOf back := by
  induction front with
  | nil => rfl
  | cons c front ih =>
      cases front with
      | nil =>
          rw [h c rfl]
          rfl
      | cons d front =>
          rw [List.getLast?_cons_of_ne_nil (List.cons_ne_nil d front)] at h
          have hne : linesOf (d :: front) ≠ [] := consLine_ne_nil d (linesOf front)
          rw [List.cons_append, linesOf_cons, ih h, consLine_append c hne, ← linesOf_cons]

/-- What comes before a line feed belongs to its line. -/
theorem linesOf_line {text : List Char} (h : '\n' ∉ text) (rest : List Char) :
    linesOf (text ++ '\n' :: rest) = (text ++ ['\n']) :: linesOf rest := by
  induction text with
  | nil => rfl
  | cons c text ih =>
      rw [List.mem_cons, not_or] at h
      rw [List.cons_append, linesOf_cons, ih h.2, consLine_cons (Ne.symm h.1), List.cons_append]

/-- There is a line for every line feed, and one more for what comes after the last one. -/
theorem length_linesOf (text : List Char) :
    (linesOf text).length =
      text.count '\n' + if text.getLast?.any (· != '\n') then 1 else 0 := by
  induction text with
  | nil => rfl
  | cons c rest ih =>
      rw [linesOf_cons]
      cases rest with
      | nil =>
          by_cases hlf : c = '\n'
          · rw [hlf]
            rfl
          · rw [linesOf_nil, consLine_nil hlf]
            simp [hlf]
      | cons d rest =>
          rw [List.getLast?_cons_of_ne_nil (List.cons_ne_nil d rest)]
          by_cases hlf : c = '\n'
          · rw [hlf, consLine_lf, List.length_cons, ih, List.count_cons_self, Nat.add_right_comm]
          · obtain ⟨line, others, hlines⟩ :=
              List.exists_cons_of_ne_nil (consLine_ne_nil d (linesOf rest))
            rw [linesOf_cons, hlines] at ih ⊢
            rw [consLine_cons hlf, List.length_cons, ← List.length_cons (a := line), ih,
              List.count_cons_of_ne hlf]

/-- Lines are counted by their terminators: one for each, and one more for what comes after the last
one. -/
theorem length_linesOf_unifyNewlines (text : List Char) :
    (linesOf (unifyNewlines text)).length =
      terminatorCount '\r' '\n' text + if endsOpen '\r' '\n' text then 1 else 0 := by
  have hopen : (unifyNewlines text).getLast?.any (· != '\n') = endsOpen '\r' '\n' text := by
    rw [getLast?_unifyNewlines, endsOpen]
    cases text.getLast? with
    | none => rfl
    | some c => by_cases hcr : c = '\r' <;> simp [hcr]
  rw [length_linesOf, count_unifyNewlines, hopen]

/-- **What stands between two terminators is a line**, unless nothing keeps the two apart. -/
theorem linesOf_around {front mid back : List Char}
    (hfront : front.getLast? = some '\r' ∨ front.getLast? = some '\n')
    (hback : back.head? = some '\r' ∨ back.head? = some '\n')
    (hmid : '\r' ∉ mid ∧ '\n' ∉ mid)
    (hapart : front.getLast? = some '\r' → back.head? = some '\n' → mid ≠ []) :
    linesOf (unifyNewlines (front ++ mid ++ back)) =
      linesOf (unifyNewlines front) ++
        (mid ++ ['\n']) :: (linesOf (unifyNewlines back)).tail := by
  obtain ⟨rest, hrest⟩ := exists_unifyNewlines_eq_cons hback
  have hbefore : front.getLast? = some '\r' → (mid ++ back).head? ≠ some '\n' := by
    intro hcr hlf
    cases mid with
    | nil => exact hapart hcr hlf rfl
    | cons c mid =>
        rw [List.cons_append, List.head?_cons] at hlf
        exact hmid.2 (Option.some.inj hlf ▸ List.mem_cons_self)
  have hafter : mid.getLast? = some '\r' → back.head? ≠ some '\n' := fun hcr =>
    absurd (List.mem_of_getLast? hcr) hmid.1
  have hends : ∀ c ∈ (unifyNewlines front).getLast?, c = '\n' := by
    intro c hc
    rw [getLast?_unifyNewlines] at hc
    rcases hfront with hfront | hfront
    all_goals
      rw [hfront] at hc
      exact (Option.some.inj hc).symm
  rw [List.append_assoc, unifyNewlines_append hbefore, unifyNewlines_append hafter,
    unifyNewlines_eq_self hmid.1, hrest, linesOf_append hends, linesOf_line hmid.2]
  rfl

end Text

/-! ### Lines of bytes -/

open Text Text.Utf8

/-- The byte of a carriage return. -/
def carriageReturn : UInt8 := 13

/-- The byte of a line feed. -/
def lineFeed : UInt8 := 10

/-- The byte is part of a terminator. -/
def isTerminating (byte : UInt8) : Bool := byte == carriageReturn || byte == lineFeed

/-- The lines that are read from bytes, each with one line feed for its terminator. -/
def programLines (bytes : List UInt8) : List String := splitLines (textOfBytes bytes)

theorem programLines_eq (bytes : List UInt8) :
    programLines bytes = (linesOf (unifyNewlines (decode bytes))).map String.ofList := by
  rw [programLines, splitLines, textOfBytes, String.toList_ofList, unifyNewlines_unifyNewlines]

/-- The lines that are read from bytes are those of the text that they encode. -/
theorem splitLines_decode (bytes : List UInt8) :
    splitLines (String.ofList (decode bytes)) = programLines bytes := by
  rw [programLines_eq, splitLines, String.toList_ofList]

theorem carriageReturn_lt : carriageReturn.toNat < leastFollowing := by decide

theorem lineFeed_lt : lineFeed.toNat < leastFollowing := by decide

theorem isTerminating_iff {byte : UInt8} :
    isTerminating byte = true ↔ byte = carriageReturn ∨ byte = lineFeed := by
  rw [isTerminating, Bool.or_eq_true, beq_iff_eq, beq_iff_eq]

theorem lt_of_isTerminating {byte : UInt8} (h : isTerminating byte = true) :
    byte.toNat < leastFollowing := by
  rcases isTerminating_iff.1 h with rfl | rfl
  · exact carriageReturn_lt
  · exact lineFeed_lt

/-- **A text has the terminators of its bytes**, even if they encode no text. -/
theorem terminatorCount_decode (bytes : List UInt8) :
    terminatorCount '\r' '\n' (decode bytes) = terminatorCount carriageReturn lineFeed bytes := by
  induction bytes using bytes_induction with
  | nil => rfl
  | cons first rest ih =>
      have hcr : (readCharacter first rest).1 = '\r' ↔ first = carriageReturn :=
        readCharacter_eq_iff carriageReturn_lt first rest
      have hlf : (readCharacter first rest).1 = '\n' ↔ first = lineFeed :=
        readCharacter_eq_iff lineFeed_lt first rest
      have hplain : ∀ byte ∈ rest.take (readCharacter first rest).2,
          byte ≠ carriageReturn ∧ byte ≠ lineFeed := by
        intro byte hbyte
        have hle := le_of_mem_take_readCharacter first rest byte hbyte
        exact ⟨fun h => absurd carriageReturn_lt (Nat.not_lt.2 (h ▸ hle)),
          fun h => absurd lineFeed_lt (Nat.not_lt.2 (h ▸ hle))⟩
      have hrest := terminatorCount_append hplain (rest.drop (readCharacter first rest).2)
      rw [List.take_append_drop] at hrest
      -- after a carriage return the next character is read from the next byte
      have hnext : first = carriageReturn →
          ((decode (rest.drop (readCharacter first rest).2)).head? ≠ some '\n' ↔
            rest.head? ≠ some lineFeed) := by
        rintro rfl
        have hcount : (readCharacter carriageReturn rest).2 = 0 := rfl
        rw [hcount, List.drop_zero]
        exact not_congr (head?_decode_eq_iff lineFeed_lt rest)
      have hcounts := or_congr hlf ((and_congr_left' hcr).trans (and_congr_right hnext))
      rw [decode_cons, terminatorCount, terminatorCount, ih, hrest]
      simp only [hcounts]

/-- Something comes after the last terminator of a text exactly if it does so in the bytes. -/
theorem endsOpen_decode (bytes : List UInt8) :
    endsOpen '\r' '\n' (decode bytes) = endsOpen carriageReturn lineFeed bytes := by
  have hcr : (decode bytes).getLast? = some '\r' ↔ bytes.getLast? = some carriageReturn :=
    getLast?_decode_eq_iff carriageReturn_lt bytes
  have hlf : (decode bytes).getLast? = some '\n' ↔ bytes.getLast? = some lineFeed :=
    getLast?_decode_eq_iff lineFeed_lt bytes
  rw [Bool.eq_iff_iff, endsOpen_eq_true_iff, endsOpen_eq_true_iff, ne_eq, ne_eq, ne_eq,
    decode_eq_nil_iff, hcr, hlf]

/-- **Lines are counted in the bytes**: one for every terminator, and one more for what comes after
the last one. -/
theorem length_programLines (bytes : List UInt8) :
    (programLines bytes).length =
      terminatorCount carriageReturn lineFeed bytes +
        if endsOpen carriageReturn lineFeed bytes then 1 else 0 := by
  rw [programLines_eq, List.length_map, length_linesOf_unifyNewlines, terminatorCount_decode,
    endsOpen_decode]

/-! ### Lines between terminators -/

/-- Bytes stand between two terminators, and keep them apart. -/
structure Between (front mid back : List UInt8) : Prop where
  front_ends : ∃ byte ∈ front.getLast?, isTerminating byte = true
  back_starts : ∃ byte ∈ back.head?, isTerminating byte = true
  plain : ∀ byte ∈ mid, isTerminating byte = false
  /-- A carriage return right before a line feed would make one terminator with it. -/
  apart : front.getLast? = some carriageReturn → back.head? = some lineFeed → mid ≠ []

/-- Other bytes in the middle change one line: the one after the terminators of the front. -/
def ChangesOneLine (front mid mid' back : List UInt8) : Prop :=
  ∃ before own own' after, before.length = terminatorCount carriageReturn lineFeed front ∧
    programLines (front ++ mid ++ back) = before ++ own :: after ∧
      programLines (front ++ mid' ++ back) = before ++ own' :: after

section Between

variable {front mid mid' back : List UInt8}

/-- Bytes between two terminators are read apart from the bytes around them. -/
theorem Between.decode_eq (h : Between front mid back) :
    decode (front ++ mid ++ back) = decode front ++ decode mid ++ decode back := by
  obtain ⟨last, hlast, hends⟩ := h.front_ends
  obtain ⟨first, hfirst, hstarts⟩ := h.back_starts
  have hback : ∀ byte ∈ back.head?, byte.toNat < leastFollowing := fun byte hbyte =>
    Option.some.inj (hfirst.symm.trans hbyte) ▸ lt_of_isTerminating hstarts
  rw [decode_append (front ++ mid) hback,
    decode_append_of_getLast? ⟨last, hlast, lt_of_isTerminating hends⟩]

/-- **Bytes between two terminators make a line of their own**, and what they are makes no
difference to the lines before and after. -/
theorem programLines_around (h : Between front mid back) :
    programLines (front ++ mid ++ back) =
      programLines front ++
        String.ofList (decode mid ++ ['\n']) :: (programLines back).tail := by
  obtain ⟨last, hlast, hends⟩ := h.front_ends
  obtain ⟨first, hfirst, hstarts⟩ := h.back_starts
  have hcr : (decode front).getLast? = some '\r' ↔ front.getLast? = some carriageReturn :=
    getLast?_decode_eq_iff carriageReturn_lt front
  have hlf : (decode front).getLast? = some '\n' ↔ front.getLast? = some lineFeed :=
    getLast?_decode_eq_iff lineFeed_lt front
  have hcr' : (decode back).head? = some '\r' ↔ back.head? = some carriageReturn :=
    head?_decode_eq_iff carriageReturn_lt back
  have hlf' : (decode back).head? = some '\n' ↔ back.head? = some lineFeed :=
    head?_decode_eq_iff lineFeed_lt back
  have hplain : ∀ byte, isTerminating byte = true → byte ∉ mid := fun byte hbyte hmem => by
    rw [h.plain byte hmem] at hbyte
    cases hbyte
  have hfront : (decode front).getLast? = some '\r' ∨ (decode front).getLast? = some '\n' := by
    rw [hcr, hlf, Option.mem_def.1 hlast, Option.some.injEq, Option.some.injEq]
    exact isTerminating_iff.1 hends
  have hback : (decode back).head? = some '\r' ∨ (decode back).head? = some '\n' := by
    rw [hcr', hlf', Option.mem_def.1 hfirst, Option.some.injEq, Option.some.injEq]
    exact isTerminating_iff.1 hstarts
  have hmid : '\r' ∉ decode mid ∧ '\n' ∉ decode mid :=
    ⟨fun hmem => hplain carriageReturn rfl (mem_of_mem_decode carriageReturn_lt hmem),
      fun hmem => hplain lineFeed rfl (mem_of_mem_decode lineFeed_lt hmem)⟩
  have hapart : (decode front).getLast? = some '\r' → (decode back).head? = some '\n' →
      decode mid ≠ [] := by
    rw [hcr, hlf', ne_eq, decode_eq_nil_iff]
    exact h.apart
  rw [programLines_eq, h.decode_eq, linesOf_around hfront hback hmid hapart, List.map_append,
    List.map_cons, List.map_tail, ← programLines_eq, ← programLines_eq]

/-- Other bytes between the same terminators change one line. -/
theorem changesOneLine (h : Between front mid back) (h' : Between front mid' back) :
    ChangesOneLine front mid mid' back := by
  refine ⟨programLines front, _, _, _, ?_, programLines_around h, programLines_around h'⟩
  obtain ⟨last, hlast, hends⟩ := h.front_ends
  have hclosed : endsOpen carriageReturn lineFeed front = false := by
    rw [← Bool.not_eq_true, endsOpen_eq_true_iff, Option.mem_def.1 hlast]
    rcases isTerminating_iff.1 hends with rfl | rfl
    · simp
    · simp
  rw [length_programLines, hclosed]
  rfl

end Between

/-- The bytes of a line that ends with a carriage return. -/
def openingBytes : List UInt8 := encode "G0 X0\r".toList

/-- The bytes of the next line, without its terminator. -/
def middleBytes : List UInt8 := encode "G1 X1".toList

/-- The line feed after them, and the bytes of a last line. -/
def closingBytes : List UInt8 := encode "\nG1 X2".toList

/-- **A line that is left empty may be lost**: a carriage return before it and the line feed after
it become one terminator, and the lines after it move up. -/
theorem emptied_line_lost :
    Between openingBytes middleBytes closingBytes ∧ (∀ byte ∈ [], isTerminating byte = false) ∧
      programLines (openingBytes ++ middleBytes ++ closingBytes) = ["G0 X0\n", "G1 X1\n", "G1 X2"] ∧
      programLines (openingBytes ++ [] ++ closingBytes) = ["G0 X0\n", "G1 X2"] ∧
      ¬ ChangesOneLine openingBytes middleBytes [] closingBytes := by
  have hplain : ∀ byte ∈ middleBytes, (!isTerminating byte) = true :=
    List.all_eq_true.1 (by decide)
  have hbetween : Between openingBytes middleBytes closingBytes :=
    ⟨⟨carriageReturn, by decide, by decide⟩, ⟨lineFeed, by decide, by decide⟩,
      fun byte hbyte => by simpa using hplain byte hbyte, fun _ _ => by decide⟩
  have hthree : programLines (openingBytes ++ middleBytes ++ closingBytes) =
      ["G0 X0\n", "G1 X1\n", "G1 X2"] := by decide +kernel
  have htwo : programLines (openingBytes ++ [] ++ closingBytes) = ["G0 X0\n", "G1 X2"] := by
    decide +kernel
  refine ⟨hbetween, fun byte hbyte => absurd hbyte List.not_mem_nil, hthree, htwo, ?_⟩
  rintro ⟨before, own, own', after, -, hlines, hlines'⟩
  have hlength : (before ++ own :: after).length = (before ++ own' :: after).length := by
    rw [List.length_append, List.length_append, List.length_cons, List.length_cons]
  rw [← hlines, ← hlines', hthree, htwo] at hlength
  cases hlength

/-! ### Files -/

/-- A file is read as the text that its bytes encode. -/
structure ReadsAsText (settings : Settings) (files : Files) (path : String)
    (bytes : List UInt8) : Prop where
  /-- The file is analyzed as the text that its bytes encode, bytes that encode none being
  replaced. -/
  analysis_eq : analyzeFile settings files path =
    .ok (analyzeText settings (String.ofList (decode bytes)))
  /-- The bytes of a text are analyzed as the text. -/
  analysis_of_encode : ∀ text : String, bytes = encode text.toList →
    analyzeFile settings files path = .ok (analyzeText settings text)
  /-- The lines that are read are these. -/
  lines_eq : analyzeFile settings files path = .ok (analyzeLines settings (programLines bytes))
  /-- Lines are counted by the terminators among the bytes. -/
  lineCount_eq : (analyzeFile settings files path).map Analysis.lineCount =
    .ok (terminatorCount carriageReturn lineFeed bytes +
      if endsOpen carriageReturn lineFeed bytes then 1 else 0 : Nat)
  /-- Other bytes between two terminators change this line only. -/
  changesOneLine : ∀ front mid mid' back, bytes = front ++ mid ++ back →
    Between front mid back → Between front mid' back → ChangesOneLine front mid mid' back

/-- **A file is read as the text that its bytes encode**, if there is a file. -/
theorem readsAsText {files : Files} {path : String} {bytes : List UInt8}
    (hpath : Text.trim path.toList ≠ [])
    (hfile : files.find? (Path.ofString path) = some (.file bytes)) (settings : Settings) :
    ReadsAsText settings files path bytes := by
  have hlines : analyzeFile settings files path =
      .ok (analyzeLines settings (programLines bytes)) := by
    rw [analyzeFile, Files.readProgram_of_file hpath hfile]
    rfl
  have htext : analyzeFile settings files path =
      .ok (analyzeText settings (String.ofList (decode bytes))) := by
    rw [hlines, analyzeText, splitLines_decode]
  refine ⟨htext, ?_, hlines, ?_, fun _ _ _ _ _ => changesOneLine⟩
  · rintro text rfl
    rw [htext, decode_encode, String.ofList_toList]
  · have hcount : (analyzeLines settings (programLines bytes)).lineCount =
        ((programLines bytes).length : Int) :=
      congrArg Nat.cast (Run.size_outcomes_ofLines settings (programLines bytes))
    rw [hlines, Except.map, hcount, length_programLines]

/-- Bytes with an encoding that is broken off before a terminator. -/
def brokenOff : List UInt8 := encode "G0 X1".toList ++ [0xe2, 0x82] ++ encode "\r\nG1 Y2".toList

theorem readsAsText_brokenOff :
    Text.trim "a.nc".toList ≠ [] ∧
      (Files.mk fun _ => some (.file brokenOff)).find? (Path.ofString "a.nc") =
        some (.file brokenOff) ∧
      ReadsAsText {} ⟨fun _ => some (.file brokenOff)⟩ "a.nc" brokenOff :=
  ⟨by decide, rfl, readsAsText (by decide) rfl {}⟩

end Toolpath
