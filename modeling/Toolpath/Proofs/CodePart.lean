/-
**The code part of a line.**

The code of a line is what stands before its first comment, without the blanks around it.  The line
is trimmed before it is cut as well as after, and that comes to the same as cutting it first,
wherever blanks and comments stand.  So nothing more is taken away from code when it is stripped
again, and a motion is read from the copy of the code that its command keeps just as it was read
from the line.

Main definitions:

* `Toolpath.Text.IsTrimmed` — one text is another one without the blanks at its two ends;
* `Toolpath.IsCodePart` — the longest start of a line in which there is no mark of a comment;
* `Toolpath.KeepsCode` — what stripping keeps of a line.

Main results:

* `Toolpath.Text.isTrimmed_iff` — trimming leaves the one text without blanks at its ends;
* `Toolpath.isCodePart_iff` — cutting a line leaves its longest start without a mark;
* `Toolpath.stripComment_stripComment` — stripping twice is stripping once;
* `Toolpath.readLine_raw` — a motion can be read again from the code of its command;
* `Toolpath.keepsCode` — **stripping keeps exactly the code**.
-/

import Toolpath.Proofs.Presentation

set_option relaxedAutoImplicit false
set_option autoImplicit false

namespace Toolpath

open Text

/-! ### Trimmed texts -/

namespace Text

/-- A text is another one without the blanks at its two ends. -/
structure IsTrimmed (text core : List Char) : Prop where
  /-- Only blanks are taken away, and only from the ends. -/
  between : ∃ before after, (∀ c ∈ before, isBlank c = true) ∧ (∀ c ∈ after, isBlank c = true) ∧
    text = before ++ core ++ after
  /-- No blank is left at the start. -/
  head : ∀ c ∈ core.head?, isBlank c = false
  /-- No blank is left at the end. -/
  last : ∀ c ∈ core.getLast?, isBlank c = false

/-- What is left after the blanks at the start does not start with a blank. -/
theorem isBlank_head_dropWhile (text : List Char) :
    ∀ c ∈ (text.dropWhile isBlank).head?, isBlank c = false := by
  intro c hc
  have hhead := List.head?_dropWhile_not isBlank text
  rw [Option.mem_def.1 hc] at hhead
  simpa using hhead

theorem isTrimmed_trim (text : List Char) : IsTrimmed text (trim text) where
  between := exists_blanks_trim text
  head := by
    intro c hc
    have hstart : (trim text).dropWhile isBlank = trim text :=
      dropWhile_trimEnd (dropWhile_dropWhile text)
    rw [← hstart] at hc
    exact isBlank_head_dropWhile _ c hc
  last := by
    intro c hc
    rw [trim, trimEnd, List.getLast?_reverse] at hc
    exact isBlank_head_dropWhile _ c hc

/-- **Trimming leaves the one text without blanks at its ends.** -/
theorem isTrimmed_iff {text core : List Char} : IsTrimmed text core ↔ core = trim text := by
  constructor
  · rintro ⟨⟨before, after, hbefore, hafter, rfl⟩, hhead, hlast⟩
    rw [List.append_assoc, trim_blanks_append hbefore, trim_append_blanks hafter,
      trim_eq_self hhead hlast]
  · rintro rfl
    exact isTrimmed_trim text

end Text

/-! ### Starts without a mark -/

/-- The start of a line is the longest one in which there is no mark of a comment. -/
structure IsCodePart (line part : List Char) : Prop where
  start : part <+: line
  noMark : ∀ c ∈ part, c ≠ ';' ∧ c ≠ '('
  longest : ∀ other, other <+: line → (∀ c ∈ other, c ≠ ';' ∧ c ≠ '(') →
    other.length ≤ part.length

theorem startsComment_eq_false_iff (c : Char) :
    startsComment c = false ↔ c ≠ ';' ∧ c ≠ '(' := by
  simp [startsComment]

/-- A start without a mark goes no further than the line is cut. -/
theorem prefix_takeWhile {line other : List Char} (hstart : other <+: line)
    (hmark : ∀ c ∈ other, c ≠ ';' ∧ c ≠ '(') :
    other <+: line.takeWhile fun c => !startsComment c := by
  obtain ⟨rest, rfl⟩ := hstart
  have hkept : ∀ c ∈ other, (!startsComment c) = true := by
    intro c hc
    rw [(startsComment_eq_false_iff c).2 (hmark c hc)]
    rfl
  rw [List.takeWhile_append_of_pos hkept]
  exact List.prefix_append _ _

theorem isCodePart_takeWhile (line : List Char) :
    IsCodePart line (line.takeWhile fun c => !startsComment c) where
  start := List.takeWhile_prefix _
  noMark := by
    intro c hc
    have hkept := List.mem_takeWhile_imp hc
    rw [← startsComment_eq_false_iff]
    simpa using hkept
  longest := by
    intro other hstart hmark
    exact (prefix_takeWhile hstart hmark).length_le

/-- **Cutting a line leaves its longest start without a mark.** -/
theorem isCodePart_iff {line part : List Char} :
    IsCodePart line part ↔ part = line.takeWhile fun c => !startsComment c := by
  constructor
  · intro h
    have hcut := isCodePart_takeWhile line
    exact (prefix_takeWhile h.start h.noMark).eq_of_length_le
      (h.longest _ hcut.start hcut.noMark)
  · rintro rfl
    exact isCodePart_takeWhile line

/-! ### Stripped lines -/

/-- **Stripping twice is stripping once.** -/
theorem stripComment_stripComment (line : List Char) :
    stripComment (stripComment line) = stripComment line := by
  -- the code is a piece of the uncut start, so that it has no mark of its own
  obtain ⟨before, after, -, -, hpart⟩ :=
    exists_blanks_trim (line.takeWhile fun c => !startsComment c)
  have hcode : ∀ c ∈ stripComment line, (!startsComment c) = true := by
    intro c hc
    rw [stripComment_eq_trim] at hc
    have hmem : c ∈ line.takeWhile fun c => !startsComment c := by
      rw [hpart]
      exact List.mem_append_left _ (List.mem_append_right _ hc)
    rw [(startsComment_eq_false_iff c).2 ((isCodePart_takeWhile line).noMark c hmem)]
    rfl
  calc stripComment (stripComment line)
      = trim ((stripComment line).takeWhile fun c => !startsComment c) := stripComment_eq_trim _
    _ = trim (stripComment line) := by rw [List.takeWhile_eq_self_iff.2 hcode]
    _ = stripComment line := by rw [stripComment, trim_trim]

/-- A command keeps the code of its line. -/
theorem raw_of_readLine {number : Int} {line : String} {command : Command} {ds : List Diagnostic}
    (h : readLine number line = .motion command ds) :
    command.raw = String.ofList (stripComment line.toList) := by
  obtain ⟨motion, token, -, rfl, -⟩ := readLine_eq_motion h
  rfl

/-- **A motion can be read again from the code of its command**, with the same words reported. -/
theorem readLine_raw {number : Int} {line : String} {command : Command} {ds : List Diagnostic}
    (h : readLine number line = .motion command ds) :
    readLine number command.raw = .motion command ds := by
  rw [raw_of_readLine h, readLine, String.toList_ofList, stripComment_stripComment, ← readLine]
  exact h

/-- What stripping keeps of a line. -/
structure KeepsCode (line : String) : Prop where
  /-- It leaves the longest start of the line without a mark, trimmed, and nothing else. -/
  code_iff : ∀ code, stripComment line.toList = code ↔
    ∃ part, IsCodePart line.toList part ∧ IsTrimmed part code
  /-- It takes nothing more away from what it leaves. -/
  code_code : stripComment (stripComment line.toList) = stripComment line.toList
  /-- The command of a motion keeps the code, and the same is read and reported from there. -/
  read_again : ∀ number command ds, readLine number line = .motion command ds →
    command.raw = String.ofList (stripComment line.toList) ∧
      readLine number command.raw = .motion command ds

/-- **Stripping keeps exactly the code.** -/
theorem keepsCode (line : String) : KeepsCode line where
  code_iff := by
    intro code
    constructor
    · rintro rfl
      refine ⟨_, isCodePart_takeWhile line.toList, ?_⟩
      rw [stripComment_eq_trim]
      exact isTrimmed_trim _
    · rintro ⟨part, hpart, hcode⟩
      rw [isTrimmed_iff.1 hcode, isCodePart_iff.1 hpart, stripComment_eq_trim]
  code_code := stripComment_stripComment line.toList
  read_again := by
    intro number command ds h
    exact ⟨raw_of_readLine h, readLine_raw h⟩

end Toolpath
