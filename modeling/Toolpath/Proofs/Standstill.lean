/-
**A line that moves the tool nowhere changes nothing else.**

A move without length is dropped, but three traces of it could be left: the tool stands where the
line says, which may be off by less than the tolerance; the segments that were cut might have
changed; and the feed rate of the line waits for the next command.  If the line says exactly where
the tool is, and gives no positive feed rate, then none of them is left.  So putting an empty line
in its place takes away what is reported at it, and changes nothing else in the analysis.

Main definitions:

* `Toolpath.StandsStill` — a line is reported to move the tool nowhere, says exactly where the tool
  is and gives no feed rate.

Main results:

* `Toolpath.diagnosticsAt_append` — what is reported at a line is what comes of it;
* `Toolpath.segmentAt_append` — at a line the tool moves from where it was to the target;
* `Toolpath.analyzeLines_emptied` — **a line at which the tool stands still can be emptied**.
-/

import Toolpath.Proofs.Isolation

set_option relaxedAutoImplicit false
set_option autoImplicit false

namespace Toolpath

variable {settings : Settings} {front : List String} {line : String}

/-! ### A line among the others -/

/-- What is reported at a line is what comes of it. -/
theorem diagnosticsAt_append (rest : List String) :
    (analyzeLines settings (front ++ line :: rest)).diagnosticsAt (front.length + 1) =
      ((Run.ofLines settings front).machine.step settings (front.length + 1)
        line).1.diagnostics := by
  have hbefore : (Run.ofLines settings front).diagnostics.filter
      (fun d => d.line == (front.length + 1 : Int)) = [] := by
    refine List.filter_eq_nil_iff.2 fun d hd => ?_
    have hle := (Run.kind_of_mem_diagnostics hd).2.1
    rw [beq_iff_eq]
    omega
  have hown : ((Run.ofLines settings front).machine.step settings (front.length + 1)
      line).1.diagnostics.filter (fun d => d.line == (front.length + 1 : Int)) =
        ((Run.ofLines settings front).machine.step settings (front.length + 1)
          line).1.diagnostics := by
    refine List.filter_eq_self.2 fun d hd => ?_
    rw [((Machine.effect_step settings _ _ line).diagnostic_line hd).1, beq_self_eq_true]
  have hafter : ((((Run.ofLines settings front).machine.step settings (front.length + 1)
      line).2.outcomesOf settings (front.length + 1 + 1) rest).flatMap
        Outcome.diagnostics).filter (fun d => d.line == (front.length + 1 : Int)) = [] := by
    refine List.filter_eq_nil_iff.2 fun d hd => ?_
    have hle := Machine.le_line_of_mem_outcomesOf hd
    rw [beq_iff_eq]
    omega
  rw [diagnosticsAt_eq settings _ (by omega), Run.diagnostics_append, Machine.outcomesOf,
    List.flatMap_cons, List.filter_append, List.filter_append, hbefore, hown, hafter,
    List.nil_append, List.append_nil]

/-- At a line the tool moves from where it was to its target. -/
theorem segmentAt_append {command : Command} {ds : List Diagnostic} (rest : List String)
    (hread : readLine (front.length + 1) line = .motion command ds) :
    segmentAt settings (front ++ line :: rest) (front.length + 1) =
      (Run.ofLines settings front).machine.segment command := by
  have hle : ((front.length : Int) + 1).toNat ≤ (front ++ [line]).length := by
    rw [List.length_append, List.length_singleton]
    omega
  rw [← segmentAt_last settings hread, List.append_cons, segmentAt, segmentAt, machineAfter,
    machineAfter, machineAfter, machineAfter, List.take_append_of_le_length hle,
    List.take_append_of_le_length (Nat.le_trans (Nat.sub_le _ _) hle)]

/-- A report of a move without length comes from a motion that is dropped. -/
theorem Machine.Effect.of_redundant {machine after : Machine} {number : Int} {outcome : Outcome}
    (h : machine.Effect settings number line outcome after) {d : Diagnostic}
    (hd : d ∈ outcome.diagnostics) (hkind : d.isRedundantMove = true) :
    ∃ command ds reported, readLine number line = .motion command ds ∧
      machine.tool.hasMoved = true ∧ outcome = .dropped reported ∧
      after = ⟨machine.tool.move command.parameters, machine.segments,
        (positiveRate? command.parameters.f).or machine.pendingFeed⟩ := by
  cases h with
  | idle => cases hd
  | unreadable =>
      obtain rfl := List.mem_singleton.1 hd
      rw [Diagnostic.isRedundantMove_eq_false rfl (by simp)] at hkind
      cases hkind
  | dropped hread hmoved => exact ⟨_, _, _, hread, hmoved, rfl, rfl⟩
  | recorded hread haccepts =>
      rcases List.mem_append.1 hd with hd | hd
      · simp [(kind_of_mem_words hread hd).2.2.1] at hkind
      · cases haccepts with
        | first => cases hd
        | duplicate =>
            obtain rfl := List.mem_singleton.1 hd
            rw [Diagnostic.isRedundantMove_eq_false rfl (by simp)] at hkind
            cases hkind
        | fresh => cases hd

/-! ### Lines that move the tool nowhere -/

/-- The tool stands still at a line: it is reported to move nowhere, it ends with the very
coordinates that the tool has before it, and it gives no positive feed rate. -/
structure StandsStill (settings : Settings) (lines : List String) (index : Nat) : Prop where
  reported : ∃ d ∈ (analyzeLines settings lines).diagnosticsAt (index + 1),
    d.isRedundantMove = true
  stays : (segmentAt settings lines (index + 1)).finish =
    (segmentAt settings lines (index + 1)).start
  feedless : ∀ motion ∈ motions lines, motion.line = index + 1 →
    ∀ rate ∈ motion.parameters.f, ¬ 0 < rate

/-- The analysis without the diagnostics at a line. -/
def Analysis.withoutLine (analysis : Analysis) (number : Int) : Analysis :=
  { analysis with diagnostics := analysis.diagnostics.filter fun d => d.line ≠ number }

theorem mem_motions_append {command : Command} {ds : List Diagnostic} (rest : List String)
    (hread : readLine (front.length + 1) line = .motion command ds) :
    command ∈ motions (front ++ line :: rest) := by
  refine List.mem_filterMap.2 ⟨.motion command ds, List.mem_mapIdx.2 ⟨front.length, ?_, ?_⟩, rfl⟩
  · simp
  · simpa using hread

theorem StandsStill.index_lt {lines : List String} {index : Nat}
    (h : StandsStill settings lines index) : index < lines.length := by
  obtain ⟨d, hd, -⟩ := h.reported
  rw [diagnosticsAt_eq settings _ (by omega), List.mem_filter, beq_iff_eq] at hd
  have hle := (Run.kind_of_mem_diagnostics hd.1).2.1
  omega

/-- Where the tool stands still, the machine is left as it was. -/
theorem StandsStill.step_eq {rest : List String}
    (h : StandsStill settings (front ++ line :: rest) front.length) :
    ∃ reported, (Run.ofLines settings front).machine.step settings (front.length + 1) line =
      (.dropped reported, (Run.ofLines settings front).machine) := by
  obtain ⟨d, hd, hkind⟩ := h.reported
  rw [diagnosticsAt_append] at hd
  have heffect := Machine.effect_step settings (Run.ofLines settings front).machine
    (front.length + 1) line
  obtain ⟨command, ds, reported, hread, hmoved, houtcome, hafter⟩ := heffect.of_redundant hd hkind
  have htarget : (Run.ofLines settings front).machine.tool.target command.parameters =
      (Run.ofLines settings front).machine.tool.position := by
    have hstays := h.stays
    rw [segmentAt_append rest hread] at hstays
    exact hstays
  have hrate : positiveRate? command.parameters.f = none := by
    rw [positiveRate?, Option.filter_eq_none_iff]
    intro rate hgiven
    rw [decide_eq_true_eq]
    exact h.feedless command (mem_motions_append rest hread) (line_of_readLine hread) rate hgiven
  refine ⟨reported, Prod.ext houtcome ?_⟩
  -- the tool has moved before, is where it was, and no feed rate is added to the one that waits
  rw [hafter, hrate, Option.none_or, Tool.move, htarget, ← hmoved]

/-- Of the diagnostics of a program without the ones at a line, those before it and those after it
are left. -/
theorem filter_diagnostics {rest : List String} {reported : List Diagnostic}
    (hreported : ∀ d ∈ reported, d.line = front.length + 1) :
    ((Run.ofLines settings front).diagnostics ++
        (reported ++ reportedAfter settings front rest)).filter
          (fun d => d.line ≠ (front.length : Int) + 1) =
      (Run.ofLines settings front).diagnostics ++ reportedAfter settings front rest := by
  have hbefore : (Run.ofLines settings front).diagnostics.filter
      (fun d => d.line ≠ (front.length : Int) + 1) = (Run.ofLines settings front).diagnostics := by
    refine List.filter_eq_self.2 fun d hd => decide_eq_true ?_
    have hle := (Run.kind_of_mem_diagnostics hd).2.1
    omega
  have hown : reported.filter (fun d => d.line ≠ (front.length : Int) + 1) = [] := by
    refine List.filter_eq_nil_iff.2 fun d hd => ?_
    rw [decide_eq_true_eq, not_not]
    exact hreported d hd
  have hafter : (reportedAfter settings front rest).filter
      (fun d => d.line ≠ (front.length : Int) + 1) = reportedAfter settings front rest := by
    refine List.filter_eq_self.2 fun d hd => decide_eq_true ?_
    rcases line_of_mem_reportedAfter hd with hlater | rfl
    · omega
    · dsimp only [Analysis.wholeProgram]
      omega
  rw [List.filter_append, List.filter_append, hbefore, hown, hafter, List.nil_append]

/-- **A line at which the tool stands still can be emptied**: wherever it stands, the analysis with
an empty line in its place is the same, but for what is reported at it. -/
theorem analyzeLines_emptied {settings : Settings} {lines : List String} {index : Nat}
    (h : StandsStill settings lines index) :
    analyzeLines settings (lines.set index "") =
      (analyzeLines settings lines).withoutLine (index + 1) := by
  have hsplit : ∃ front line rest, lines = front ++ line :: rest ∧ front.length = index ∧
      lines.set index "" = front ++ "" :: rest := by
    obtain ⟨front, rest, hlines, hlength, hset⟩ := List.exists_of_set h.index_lt
    exact ⟨front, _, rest, hlines, hlength, hset⟩
  obtain ⟨front, line, rest, rfl, rfl, hset⟩ := hsplit
  obtain ⟨reported, hstep⟩ := h.step_eq
  have hempty : (Run.ofLines settings front).machine.step settings (front.length + 1) "" = _ :=
    Machine.step_of_idle (readLine_empty (front.length + 1))
  have hline : ∀ d ∈ reported, d.line = front.length + 1 := by
    have heffect := Machine.effect_step settings (Run.ofLines settings front).machine
      (front.length + 1) line
    rw [hstep] at heffect
    exact fun d hd => (heffect.diagnostic_line hd).1
  rw [hset, analyzeLines_append_of_inert rest hempty rfl, Analysis.withoutLine,
    analyzeLines_append_of_inert rest hstep rfl]
  dsimp only [Outcome.diagnostics]
  rw [filter_diagnostics hline, List.nil_append]

/-- At the third line, an arc without offset, the tool stands still while a feed rate waits: both of
its diagnostics go, and the last line still retraces the one before it. -/
theorem analyzeLines_emptied_pending :
    StandsStill {} ["G0 X1", "G1 X1 F7", "G2 X1 F0", "G1 X2", "G1 X1"] 2 ∧
      analyzeLines {} ["G0 X1", "G1 X1 F7", "", "G1 X2", "G1 X1"] =
        (analyzeLines {} ["G0 X1", "G1 X1 F7", "G2 X1 F0", "G1 X2", "G1 X1"]).withoutLine 3 := by
  have h : StandsStill {} ["G0 X1", "G1 X1 F7", "G2 X1 F0", "G1 X2", "G1 X1"] 2 :=
    ⟨by decide +kernel, by decide +kernel, by decide +kernel⟩
  have hemptied := analyzeLines_emptied h
  have hnumber : ((2 : Nat) : Int) + 1 = 3 := rfl
  rw [hnumber] at hemptied
  exact ⟨h, hemptied⟩

end Toolpath
