/-
**Reports of segments that are cut again.**

A move is reported as a duplicate when a remembered segment answers it: the two match within the
tolerance, and their fingerprints are the same.  This module proves both directions.  A report is
never false, and it names the first remembered segment that answers.  A missing report means that
no remembered segment answers; but a segment can match and still not answer, since two ends on the
two sides of a cell border agree within the tolerance and lie in different cells.

Main definitions:

* `Toolpath.RefersBack` — all that a report of a duplicate says.

Main results:

* `Toolpath.duplicate_refersBack` — **every report of a duplicate is true**, and no other
  diagnostic names another line;
* `Toolpath.duplicate_iff_answered` — **a move is reported exactly if a remembered segment answers
  it**;
* `Toolpath.duplicate_across_cells_unreported` — a match alone is not enough.
-/

import Toolpath.Proofs.Accounting

set_option relaxedAutoImplicit false
set_option autoImplicit false

namespace Toolpath

variable {settings : Settings} {lines : List String} {line : String}

/-! ### Commands of remembered segments -/

theorem exists_command_of_motion {motion : Command} (h : motion ∈ motions lines)
    (hreport : (analyzeLines settings lines).reportsMoveAt motion.line = false) :
    ∃ command ∈ (Run.ofLines settings lines).commands, command.line = motion.line := by
  have hcount := countP_commands_add_countP_redundant settings lines h
  have hredundant : ((analyzeLines settings lines).diagnosticsAt motion.line).countP
      Diagnostic.isRedundantMove = 0 := by
    refine List.countP_eq_zero.2 fun d hd hkind => ?_
    have := List.any_eq_false.1 hreport d hd
    simp [hkind] at this
  rw [hredundant, Nat.add_zero] at hcount
  obtain ⟨command, hcommand, hline⟩ := List.countP_pos_iff.1 (by omega :
    0 < (Run.ofLines settings lines).commands.countP fun command => command.line == motion.line)
  exact ⟨command, hcommand, beq_iff_eq.1 hline⟩

/-- The line of a remembered segment has a command, which is not the first one. -/
theorem exists_command_of_remembered {entry : Entry} (h : entry ∈ remembered settings lines) :
    ∃ command ∈ (analyzeLines settings lines).commands.tail, command.line = entry.line := by
  obtain ⟨motion, hmotion, hentry, hreport, -⟩ := mem_remembered h
  rw [← hentry] at hreport
  obtain ⟨command, hcommand, hline⟩ :=
    exists_command_of_motion (List.mem_of_mem_tail hmotion) hreport
  refine ⟨command, ?_, hline.trans hentry⟩
  -- the first command is at the line of the first motion, and this is another one
  have hsorted := pairwise_motions lines
  cases hmotions : motions lines with
  | nil => simp [hmotions] at hmotion
  | cons start later =>
      rw [hmotions] at hmotion hsorted
      have hless : start.line < motion.line := List.rel_of_pairwise_cons hsorted hmotion
      obtain ⟨first, hfirst, hstart⟩ := Option.map_eq_some_iff.1
        (head?_commands settings lines (by rw [hmotions]; rfl)).1
      change command ∈ (Run.ofLines settings lines).commands.tail
      cases hcommands : (Run.ofLines settings lines).commands with
      | nil => simp [hcommands] at hcommand
      | cons head rest =>
          rw [hcommands] at hcommand hfirst
          obtain rfl : head = first := Option.some.inj hfirst
          rcases List.mem_cons.1 hcommand with rfl | hrest
          · omega
          · exact hrest

theorem mem_tail_commands_concat (line : String) {command : Command}
    (h : command ∈ (analyzeLines settings lines).commands.tail) :
    command ∈ (analyzeLines settings (lines ++ [line])).commands.tail := by
  obtain ⟨outcome, after, -, hnext⟩ := Run.exists_effect settings lines line
  change command ∈ (Run.ofLines settings lines).commands.tail at h
  change command ∈ (Run.ofLines settings (lines ++ [line])).commands.tail
  rw [hnext, Run.commands_push]
  cases hcommands : (Run.ofLines settings lines).commands with
  | nil => simp [hcommands] at h
  | cons first rest =>
      rw [hcommands] at h
      exact List.mem_append_left _ h

/-! ### Reports are true -/

/-- A report of a duplicate refers back to a line, and all that it says is true. -/
structure RefersBack (settings : Settings) (lines : List String) (d : Diagnostic)
    (first : Int) : Prop where
  /-- The report is about this line too. -/
  related_eq : d.related? = some first
  /-- The message tells the ends of the segment at its line, and it ends with the other line. -/
  message_eq : d.message = duplicateMark ++ " segment from " ++
    (segmentAt settings lines d.line).start.listed coordinateText ++ " to " ++
      (segmentAt settings lines d.line).finish.listed coordinateText ++
        " duplicates line " ++ toString first
  /-- The other line is a line of the program. -/
  pos : 1 ≤ first
  /-- The other line comes before. -/
  before : first < d.line
  /-- The other line has a command, which is not the first one. -/
  recorded : ∃ command ∈ (analyzeLines settings lines).commands.tail, command.line = first
  /-- The move at the other line is neither redundant nor itself a duplicate. -/
  unreported : (analyzeLines settings lines).reportsMoveAt first = false
  /-- The segment at the other line matches, in the same or in the reverse direction. -/
  retraced : (segmentAt settings lines first).retraces settings.positionTolerance
    (segmentAt settings lines d.line) = true
  /-- No segment that is remembered from a smaller line answers. -/
  first_answer : ∀ entry ∈ remembered settings lines, entry.line < first →
    entry.answers settings.positionTolerance (segmentAt settings lines d.line) = false

/-- One more line changes nothing about what is reported before it. -/
theorem RefersBack.concat {d : Diagnostic} {first : Int} (line : String)
    (h : RefersBack settings lines d first) (hle : d.line ≤ lines.length) :
    RefersBack settings (lines ++ [line]) d first := by
  have hbefore := h.before
  have hown := segmentAt_concat_of_le settings lines line hle
  have hother : segmentAt settings (lines ++ [line]) first = segmentAt settings lines first :=
    segmentAt_concat_of_le settings lines line (by omega)
  refine ⟨h.related_eq, ?_, h.pos, hbefore, ?_, ?_, ?_, ?_⟩
  · rw [hown]
    exact h.message_eq
  · obtain ⟨command, hcommand, hline⟩ := h.recorded
    exact ⟨command, mem_tail_commands_concat line hcommand, hline⟩
  · rw [Analysis.reportsMoveAt, diagnosticsAt_concat_of_le settings lines line h.pos (by omega)]
    exact h.unreported
  · rw [hown, hother]
    exact h.retraced
  · intro entry hentry hless
    rw [hown]
    exact h.first_answer entry ((mem_remembered_concat_iff (by omega)).1 hentry) hless

theorem refersBack_last {command : Command} {ds : List Diagnostic} {first : Int}
    (hread : readLine (lines.length + 1) line = .motion command ds)
    (hfirst : (Run.ofLines settings lines).machine.segments.firstLine? settings.positionTolerance
      ((Run.ofLines settings lines).machine.segment command) = some first) :
    RefersBack settings (lines ++ [line])
      ⟨lines.length + 1, .duplicateToolpath
        ((Run.ofLines settings lines).machine.segment command).start
        ((Run.ofLines settings lines).machine.segment command).finish first⟩ first := by
  obtain ⟨entry, hentry, rfl, hanswers, hearlier⟩ :=
    (holds_remembered settings lines).exists_entry (pairwise_remembered settings lines) hfirst
  obtain ⟨hpos, hle⟩ := line_of_mem_remembered hentry
  obtain ⟨motion, -, -, hreport, hsegment⟩ := mem_remembered hentry
  have hown := segmentAt_last settings hread
  have hother := segmentAt_concat_of_le settings lines line hle
  have hmatch : entry.segment.retraces settings.positionTolerance
      ((Run.ofLines settings lines).machine.segment command) = true :=
    (Bool.and_eq_true_iff.1 hanswers).2
  refine ⟨rfl, ?_, hpos, Int.lt_add_one_of_le hle, ?_, ?_, ?_, ?_⟩
  · dsimp only
    rw [hown]
    rfl
  · obtain ⟨own, hcommand, hline⟩ := exists_command_of_remembered hentry
    exact ⟨own, mem_tail_commands_concat line hcommand, hline⟩
  · rw [Analysis.reportsMoveAt, diagnosticsAt_concat_of_le settings lines line hpos hle]
    exact hreport
  · dsimp only
    rw [hown, hother, ← hsegment]
    exact hmatch
  · dsimp only
    intro other hentry' hless
    rw [hown]
    exact hearlier other ((mem_remembered_concat_iff (by omega)).1 hentry') hless

/-- A report of a duplicate by a run refers back. -/
theorem exists_refersBack {d : Diagnostic} (h : d ∈ (Run.ofLines settings lines).diagnostics)
    (hkind : d.isDuplicateToolpath = true) : ∃ first, RefersBack settings lines d first := by
  induction lines using Run.lines_induction settings with
  | nil => cases h
  | concat lines line outcome after heffect hnext ih =>
      rw [hnext, Run.diagnostics_push] at h
      rcases List.mem_append.1 h with h | h
      · obtain ⟨first, hback⟩ := ih h
        exact ⟨first, hback.concat line (Run.kind_of_mem_diagnostics h).2.1⟩
      · obtain ⟨command, ds, first, hread, hfirst, rfl⟩ := heffect.of_duplicate h hkind
        exact ⟨first, refersBack_last hread hfirst⟩

/-- **Every report of a duplicate is true**, and no other diagnostic names another line. -/
theorem duplicate_refersBack (settings : Settings) (lines : List String) {d : Diagnostic}
    (h : d ∈ (analyzeLines settings lines).diagnostics) :
    (d.isDuplicateToolpath = true → ∃ first, RefersBack settings lines d first) ∧
      (d.isDuplicateToolpath = false → d.related? = none) := by
  rw [diagnostics_analyzeLines] at h
  rcases List.mem_append.1 h with h | h
  · have hnote := (Run.kind_of_mem_diagnostics h).2.2
    refine ⟨exists_refersBack h, fun hother => Diagnostic.related?_eq_none hnote ?_⟩
    rw [hother]
    decide
  · split at h
    · obtain rfl := List.mem_singleton.1 h
      refine ⟨fun hkind => ?_, fun _ => rfl⟩
      rw [Diagnostic.isDuplicateToolpath_eq_false rfl (by simp)] at hkind
      cases hkind
    · cases h

/-- The way back along a segment refers back to the way there. -/
theorem duplicate_refersBack_way_back :
    ∃ d ∈ (analyzeLines {} ["G0 X0", "G1 X1", "G1 X0"]).diagnostics,
      RefersBack {} ["G0 X0", "G1 X1", "G1 X0"] d 2 := by
  obtain ⟨d, hd, hkind, hrelated⟩ :
      ∃ d ∈ (analyzeLines {} ["G0 X0", "G1 X1", "G1 X0"]).diagnostics,
        d.isDuplicateToolpath = true ∧ d.related? = some 2 := by decide +kernel
  obtain ⟨first, hback⟩ := (duplicate_refersBack {} _ hd).1 hkind
  obtain rfl : first = 2 := Option.some.inj (hback.related_eq.symm.trans hrelated)
  exact ⟨d, hd, hback⟩

/-! ### Which retraces are reported -/

/-- The last line is reported as a duplicate exactly if a remembered segment answers it. -/
theorem duplicate_last_iff {command : Command} {ds : List Diagnostic}
    (hread : readLine (lines.length + 1) line = .motion command ds)
    (hlater : (motions lines).isEmpty = false)
    (hfar : ∀ d ∈ (analyzeLines settings (lines ++ [line])).diagnosticsAt (lines.length + 1),
      d.isRedundantMove = false) :
    (∃ d ∈ (analyzeLines settings (lines ++ [line])).diagnosticsAt (lines.length + 1),
        d.isDuplicateToolpath = true) ↔
      ∃ entry ∈ remembered settings lines, entry.answers settings.positionTolerance
        ((Run.ofLines settings lines).machine.segment command) = true := by
  obtain ⟨outcome, after, heffect, hnext⟩ := Run.exists_effect settings lines line
  have hmoved := Run.hasMoved_ofLines settings lines
  have hholds := holds_remembered settings lines
  rw [hlater] at hmoved
  rw [diagnosticsAt_last heffect hnext] at hfar ⊢
  obtain ⟨-, rfl⟩ | ⟨extra, segments, haccepts, rfl⟩ := heffect.of_motion hread
  · have hkind := hfar _ (List.mem_append_right _ (List.mem_singleton.2 rfl))
    rw [Diagnostic.isRedundantMove_mk] at hkind
    cases hkind
  · cases haccepts with
    | first hunmoved => simp [hmoved] at hunmoved
    | duplicate _ _ hfirst =>
        obtain ⟨entry, hentry, -, hanswers, -⟩ :=
          hholds.exists_entry (pairwise_remembered settings lines) hfirst
        refine ⟨fun _ => ⟨entry, hentry, hanswers⟩, fun _ => ?_⟩
        exact ⟨_, List.mem_append_right _ (List.mem_singleton.2 rfl),
          Diagnostic.isDuplicateToolpath_mk _ _ _ _⟩
    | fresh _ _ hnone =>
        constructor
        · rintro ⟨d, hd, hkind⟩
          rw [Outcome.diagnostics, List.append_nil] at hd
          simp [(kind_of_mem_words hread hd).2.2.2] at hkind
        · rintro ⟨entry, hentry, hanswers⟩
          simp [hholds.answers_eq_false hnone hentry] at hanswers

/-- **A move is reported as a duplicate exactly if a segment that is remembered from an earlier
line answers it**: the first motion apart, and the redundant moves. -/
theorem duplicate_iff_answered (settings : Settings) (lines : List String) {command : Command}
    (h : command ∈ (motions lines).tail)
    (hfar : ∀ d ∈ (analyzeLines settings lines).diagnosticsAt command.line,
      d.isRedundantMove = false) :
    (∃ d ∈ (analyzeLines settings lines).diagnosticsAt command.line,
        d.isDuplicateToolpath = true) ↔
      ∃ entry ∈ remembered settings lines, entry.line < command.line ∧
        entry.answers settings.positionTolerance
          (segmentAt settings lines command.line) = true := by
  induction lines using List.reverseRecOn with
  | nil => cases h
  | append_singleton lines line ih =>
      rw [tail_motions_concat] at h
      rcases List.mem_append.1 h with h | h
      · -- for an earlier motion neither side looks at the last line
        obtain ⟨hpos, hle⟩ := line_of_mem_motions (List.mem_of_mem_tail h)
        rw [diagnosticsAt_concat_of_le settings lines line hpos hle] at hfar ⊢
        rw [ih h hfar, segmentAt_concat_of_le settings lines line hle]
        refine exists_congr fun entry => ?_
        constructor
        · rintro ⟨hentry, hless, hanswers⟩
          exact ⟨(mem_remembered_concat_iff (by omega)).2 hentry, hless, hanswers⟩
        · rintro ⟨hentry, hless, hanswers⟩
          exact ⟨(mem_remembered_concat_iff (by omega)).1 hentry, hless, hanswers⟩
      · split at h
        · cases h
        · rename_i hlater
          obtain ⟨ds, hread⟩ := exists_readLine (Option.mem_toList.1 h)
          rw [line_of_readLine hread] at hfar ⊢
          rw [duplicate_last_iff hread (Bool.not_eq_true _ ▸ hlater) hfar,
            segmentAt_last settings hread]
          refine exists_congr fun entry => ?_
          constructor
          · rintro ⟨hentry, hanswers⟩
            have hle := (line_of_mem_remembered hentry).2
            exact ⟨(mem_remembered_concat_iff hle).2 hentry, by omega, hanswers⟩
          · rintro ⟨hentry, hless, hanswers⟩
            exact ⟨(mem_remembered_concat_iff (by omega)).1 hentry, hanswers⟩

/-- On the way back along a segment the segment of the way there answers. -/
theorem duplicate_iff_answered_way_back :
    ∃ command ∈ (motions ["G0 X0", "G1 X1", "G1 X0"]).tail, command.line = 3 ∧
      ∃ d ∈ (analyzeLines {} ["G0 X0", "G1 X1", "G1 X0"]).diagnosticsAt 3,
        d.isDuplicateToolpath = true := by
  obtain ⟨command, hcommand, hline⟩ :
      ∃ command ∈ (motions ["G0 X0", "G1 X1", "G1 X0"]).tail, command.line = 3 := by
    decide +kernel
  have hiff := duplicate_iff_answered {} ["G0 X0", "G1 X1", "G1 X0"] hcommand
    (by rw [hline]; decide +kernel)
  rw [hline] at hiff
  exact ⟨command, hcommand, hline, hiff.2 (by decide +kernel)⟩

/-- **A match alone is not enough**: a segment can agree with a remembered one within the tolerance
and not be reported, since its ends lie in other cells. -/
theorem duplicate_across_cells_unreported :
    ¬ ∀ lines, ∀ command ∈ (motions lines).tail,
      (∀ d ∈ (analyzeLines {} lines).diagnosticsAt command.line, d.isRedundantMove = false) →
      (∃ entry ∈ remembered {} lines, entry.line < command.line ∧
        entry.segment.retraces ({} : Settings).positionTolerance
          (segmentAt {} lines command.line) = true) →
      ∃ d ∈ (analyzeLines {} lines).diagnosticsAt command.line, d.isDuplicateToolpath = true := by
  intro hall
  -- the ends at 0 and at 0.00006 lie in the cells 0 and 1 of a grid of 0.0001
  obtain ⟨command, hcommand, hline⟩ :
      ∃ command ∈ (motions ["G0 X0", "G1 X1", "G1 X0.00006"]).tail, command.line = 3 := by
    decide +kernel
  have hreport := hall _ command hcommand
  rw [hline] at hreport
  exact absurd (hreport (by decide +kernel) (by decide +kernel)) (by decide +kernel)

end Toolpath
