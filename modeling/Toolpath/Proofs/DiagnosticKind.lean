/-
**Telling diagnostics by how their messages start.**

The two kinds of diagnostics that can be hidden are told by a mark at the start of the message.
The messages of different causes start with different letters, notes apart, whose wording is free;
so on everything that an analysis reports the marks tell the causes.

Main definitions:

* `Toolpath.Cause.isNote` — the wording is free;
* `Toolpath.Cause.initial` — the letter that the message starts with.

Main results:

* `Toolpath.Diagnostic.isRedundantMove_iff` — the first mark tells the moves without length;
* `Toolpath.Diagnostic.isDuplicateToolpath_iff` — the second mark tells the segments cut before;
* `Toolpath.Diagnostic.related?_eq_none` — nothing else is about another line.
-/

import Toolpath.Diagnostic

set_option relaxedAutoImplicit false
set_option autoImplicit false

namespace Toolpath

/-! ### First letters -/

namespace Cause

/-- The cause is a remark in the words of its author. -/
def isNote : Cause → Bool
  | note .. => true
  | _ => false

/-- The letter that the message starts with; a blank stands for that of a note. -/
def initial : Cause → Char
  | invalidValue _ => 'I'
  | missingOffset _ => 'A'
  | redundantMove _ => 'R'
  | duplicateToolpath .. => 'D'
  | unreadableLine _ => 'F'
  | noMovement => 'N'
  | note .. => ' '

/-- The message starts with its letter. -/
theorem head?_message {cause : Cause} (h : cause.isNote = false) :
    cause.message.toList.head? = some cause.initial := by
  cases cause with
  | note text related => cases h
  | _ =>
      unfold message
      repeat rw [String.toList_append]
      rfl

end Cause

namespace Diagnostic

/-! ### Marks -/

/-- A message that starts with a mark has its first letter. -/
theorem initial_of_startsWith {mark : String} {letter : Char} {d : Diagnostic}
    (hmark : mark.toList.head? = some letter) (hnote : d.cause.isNote = false)
    (h : d.startsWith mark = true) : d.cause.initial = letter := by
  rw [startsWith, List.isPrefixOf_iff_prefix] at h
  obtain ⟨rest, hrest⟩ := h
  have hhead := Cause.head?_message hnote
  rw [← message, ← hrest, List.head?_append, hmark] at hhead
  exact (Option.some.inj hhead).symm

/-- **The first mark tells the moves without length.** -/
theorem isRedundantMove_iff {d : Diagnostic} (hnote : d.cause.isNote = false) :
    d.isRedundantMove = true ↔ ∃ position, d.cause = .redundantMove position := by
  constructor
  · intro h
    have hmark : redundantMark.toList.head? = some 'R' := rfl
    have hinitial := initial_of_startsWith hmark hnote h
    cases hcause : d.cause with
    | redundantMove position => exact ⟨position, rfl⟩
    | _ => simp [hcause, Cause.initial] at hinitial
  · rintro ⟨position, hcause⟩
    rw [isRedundantMove, startsWith, List.isPrefixOf_iff_prefix, message, hcause]
    unfold Cause.message
    repeat rw [String.toList_append]
    simp only [List.append_assoc]
    exact List.prefix_append _ _

/-- **The second mark tells the segments cut before.** -/
theorem isDuplicateToolpath_iff {d : Diagnostic} (hnote : d.cause.isNote = false) :
    d.isDuplicateToolpath = true ↔
      ∃ start finish first, d.cause = .duplicateToolpath start finish first := by
  constructor
  · intro h
    have hmark : duplicateMark.toList.head? = some 'D' := rfl
    have hinitial := initial_of_startsWith hmark hnote h
    cases hcause : d.cause with
    | duplicateToolpath start finish first => exact ⟨start, finish, first, rfl⟩
    | _ => simp [hcause, Cause.initial] at hinitial
  · rintro ⟨start, finish, first, hcause⟩
    rw [isDuplicateToolpath, startsWith, List.isPrefixOf_iff_prefix, message, hcause]
    unfold Cause.message
    repeat rw [String.toList_append]
    simp only [List.append_assoc]
    exact List.prefix_append _ _

theorem isRedundantMove_mk (number : Int) (position : Point Binary64) :
    isRedundantMove ⟨number, .redundantMove position⟩ = true :=
  (isRedundantMove_iff rfl).2 ⟨position, rfl⟩

theorem isDuplicateToolpath_mk (number : Int) (start finish : Point Binary64) (first : Int) :
    isDuplicateToolpath ⟨number, .duplicateToolpath start finish first⟩ = true :=
  (isDuplicateToolpath_iff rfl).2 ⟨start, finish, first, rfl⟩

theorem isRedundantMove_eq_false {d : Diagnostic} (hnote : d.cause.isNote = false)
    (h : ∀ position, d.cause ≠ .redundantMove position) : d.isRedundantMove = false := by
  rw [← Bool.not_eq_true, isRedundantMove_iff hnote]
  rintro ⟨position, hcause⟩
  exact h position hcause

theorem isDuplicateToolpath_eq_false {d : Diagnostic} (hnote : d.cause.isNote = false)
    (h : ∀ start finish first, d.cause ≠ .duplicateToolpath start finish first) :
    d.isDuplicateToolpath = false := by
  rw [← Bool.not_eq_true, isDuplicateToolpath_iff hnote]
  rintro ⟨start, finish, first, hcause⟩
  exact h start finish first hcause

/-- **Nothing else is about another line.** -/
theorem related?_eq_none {d : Diagnostic} (hnote : d.cause.isNote = false)
    (h : ¬ d.isDuplicateToolpath = true) : d.related? = none := by
  rw [isDuplicateToolpath_iff hnote] at h
  cases hcause : d.cause with
  | duplicateToolpath start finish first => exact absurd ⟨start, finish, first, hcause⟩ h
  | note text related => simp [hcause, Cause.isNote] at hnote
  | _ => simp [related?, hcause]

end Diagnostic

end Toolpath
