/-
**The feed rate in force.**

A positive feed rate stays in force until another one is given, on whatever motion it stands.  The
motions without length are dropped from the commands of a program, and their feed rate travels by
another way: it waits in the machine, and the next command inherits it.  This module proves that
nothing is lost on that way.

Main definitions:

* `Toolpath.feedInForce` — the last positive feed rate that the motions up to a line give;
* `Toolpath.FeedKept` — the machine and the commands of a run together know the feed in force.

Main results:

* `Toolpath.FeedKept.ofLines` — this holds after any lines;
* `Toolpath.rates_analyzeLines` — **the rate of a command is the feed in force at its line**, rapid
  moves apart.
-/

import Toolpath.Feed
import Toolpath.Proofs.Effect

set_option relaxedAutoImplicit false
set_option autoImplicit false

namespace Toolpath

/-! ### Feed rates of the lines -/

/-- The positive feed rates that motions give, in their order. -/
def feedsOf (commands : List Command) : List Binary64 :=
  commands.filterMap fun command => positiveRate? command.parameters.f

theorem feedsOf_append (front rest : List Command) :
    feedsOf (front ++ rest) = feedsOf front ++ feedsOf rest := List.filterMap_append

/-- The last positive feed rate that the motion lines up to a line give, whatever becomes of these
motions; the default one if there is none. -/
def feedInForce (settings : Settings) (lines : List String) (number : Int) : Binary64 :=
  (feedsOf ((motions lines).filter fun command => command.line ≤ number)).getLast?.getD
    settings.defaultFeedRate

theorem getLast?_feedsOf_singleton (command : Command) :
    (feedsOf [command]).getLast? = positiveRate? command.parameters.f := by
  rw [feedsOf, List.filterMap_cons, List.filterMap_nil]
  cases positiveRate? command.parameters.f <;> rfl

theorem feedInForce_concat_of_le (settings : Settings) (lines : List String) (line : String)
    {number : Int} (h : number ≤ lines.length) :
    feedInForce settings (lines ++ [line]) number = feedInForce settings lines number := by
  have hnew : (readLine (lines.length + 1) line).command?.toList.filter
      (fun command => command.line ≤ number) = [] := by
    refine List.filter_eq_nil_iff.2 fun command hcommand => ?_
    obtain ⟨ds, hread⟩ := exists_readLine (Option.mem_toList.1 hcommand)
    rw [line_of_readLine hread, decide_eq_true_eq]
    omega
  rw [feedInForce, motions_concat, List.filter_append, hnew, List.append_nil, feedInForce]

theorem feedInForce_length (settings : Settings) (lines : List String) :
    feedInForce settings lines lines.length =
      (feedsOf (motions lines)).getLast?.getD settings.defaultFeedRate := by
  have hall : (motions lines).filter (fun command => command.line ≤ (lines.length : Int)) =
      motions lines := by
    refine List.filter_eq_self.2 fun command hcommand => ?_
    rw [decide_eq_true_eq]
    exact (line_of_mem_motions hcommand).2
  rw [feedInForce, hall]

/-- One more line puts its own feed rate in force if it gives a positive one. -/
theorem feedInForce_concat (settings : Settings) (lines : List String) (line : String) :
    feedInForce settings (lines ++ [line]) (lines.length + 1) =
      (feedsOf (readLine (lines.length + 1) line).command?.toList).getLast?.getD
        (feedInForce settings lines lines.length) := by
  rw [← cast_length_concat lines line, feedInForce_length, feedInForce_length, motions_concat,
    feedsOf_append, List.getLast?_append, Option.getD_or, cast_length_concat]

/-! ### Feed rates of the commands -/

/-- The feed rate in force after commands that follow a feed rate. -/
def feedAfterAll (feed : Binary64) (commands : List Command) : Binary64 :=
  commands.foldl (fun current command => command.feedAfter current) feed

theorem rates_concat (settings : Settings) (commands : List Command) (command : Command) :
    rates settings (commands ++ [command]) = rates settings commands ++
      [command.rate settings
        (command.feedAfter (feedAfterAll settings.defaultFeedRate commands))] := by
  rw [rates, rates]
  generalize settings.defaultFeedRate = feed
  induction commands generalizing feed with
  | nil => rfl
  | cons first rest ih =>
      rw [List.cons_append, ratesFrom, ratesFrom, ih, List.cons_append]
      rfl

theorem positiveRate?_positiveRate? (rate : Option Binary64) :
    positiveRate? (positiveRate? rate) = positiveRate? rate := by
  simp [positiveRate?, Option.filter_filter]

/-- The machine and the commands of a run together know the feed rate in force: what waits in the
machine is positive and comes before what the commands leave, and every command so far has the rate
in force at its line. -/
structure FeedKept (settings : Settings) (lines : List String) (run : Run) : Prop where
  pending_positive : positiveRate? run.machine.pendingFeed = run.machine.pendingFeed
  feed_eq : run.machine.pendingFeed.getD
      (feedAfterAll settings.defaultFeedRate run.commands) =
    feedInForce settings lines lines.length
  rates_eq : rates settings run.commands = run.commands.map fun command =>
    command.rate settings (feedInForce settings lines command.line)

namespace FeedKept

variable {settings : Settings}

/-- A command puts the feed rate in force that waits, and its own after it. -/
theorem feedAfter_recordedCommand {machine : Machine} (command : Command) (feed : Binary64)
    (hpending : positiveRate? machine.pendingFeed = machine.pendingFeed) :
    (machine.recordedCommand command).feedAfter feed =
      (positiveRate? command.parameters.f).getD (machine.pendingFeed.getD feed) := by
  rw [Command.feedAfter, Machine.recordedCommand]
  dsimp only
  rw [hpending, Option.getD_or]
  rfl

theorem rates_eq_concat {lines : List String} (line : String)
    (h : FeedKept settings lines (Run.ofLines settings lines)) :
    rates settings (Run.ofLines settings lines).commands =
      (Run.ofLines settings lines).commands.map fun command =>
        command.rate settings (feedInForce settings (lines ++ [line]) command.line) := by
  rw [h.rates_eq]
  refine List.map_congr_left fun command hcommand => ?_
  rw [feedInForce_concat_of_le settings lines line (Run.line_of_mem_commands hcommand).2]

/-- A line without motion changes neither the feed rate in force nor what is known of it. -/
theorem concat_of_no_motion {lines : List String} {line : String} {outcome : Outcome}
    (hread : (readLine (lines.length + 1) line).command? = none) (hnone : outcome.command? = none)
    (h : FeedKept settings lines (Run.ofLines settings lines)) :
    FeedKept settings (lines ++ [line])
      ((Run.ofLines settings lines).push outcome (Run.ofLines settings lines).machine) := by
  have hfeed := feedInForce_concat settings lines line
  rw [hread] at hfeed
  refine ⟨h.pending_positive, ?_, ?_⟩
  · rw [Run.machine_push, Run.commands_push, hnone, Option.toList_none, List.append_nil,
      cast_length_concat, hfeed, h.feed_eq]
    rfl
  · rw [Run.commands_push, hnone, Option.toList_none, List.append_nil]
    exact h.rates_eq_concat line

/-- The feed rate of a motion that is dropped waits in the machine. -/
theorem concat_of_dropped {lines : List String} {line : String} {command : Command}
    {ds reported : List Diagnostic} {tool : Tool} {segments : SegmentIndex}
    (hread : readLine (lines.length + 1) line = .motion command ds)
    (h : FeedKept settings lines (Run.ofLines settings lines)) :
    FeedKept settings (lines ++ [line]) ((Run.ofLines settings lines).push (.dropped reported)
      ⟨tool, segments, (positiveRate? command.parameters.f).or
        (Run.ofLines settings lines).machine.pendingFeed⟩) := by
  have hfeed := feedInForce_concat settings lines line
  rw [hread, Reading.command?, Option.toList_some, getLast?_feedsOf_singleton] at hfeed
  refine ⟨?_, ?_, ?_⟩
  · -- a positive rate of its own takes the place of the one that waits
    have hown := positiveRate?_positiveRate? command.parameters.f
    cases hrate : positiveRate? command.parameters.f with
    | some rate => simpa [hrate] using hown
    | none => simpa using h.pending_positive
  · rw [Run.machine_push, Run.commands_push, cast_length_concat, hfeed, ← h.feed_eq,
      Option.getD_or]
    simp [Outcome.command?]
  · rw [Run.commands_push]
    simpa [Outcome.command?] using h.rates_eq_concat line

/-- A command that is recorded takes over the feed rate that waits. -/
theorem concat_of_recorded {lines : List String} {line : String} {command : Command}
    {ds reported : List Diagnostic} {tool : Tool} {segments : SegmentIndex}
    (hread : readLine (lines.length + 1) line = .motion command ds)
    (h : FeedKept settings lines (Run.ofLines settings lines)) :
    FeedKept settings (lines ++ [line]) ((Run.ofLines settings lines).push
      (.recorded ((Run.ofLines settings lines).machine.recordedCommand command) reported)
      ⟨tool, segments, none⟩) := by
  have hfeed := feedInForce_concat settings lines line
  rw [hread, Reading.command?, Option.toList_some, getLast?_feedsOf_singleton, ← h.feed_eq,
    ← feedAfter_recordedCommand command _ h.pending_positive] at hfeed
  have hown : command.line = lines.length + 1 := line_of_readLine hread
  have hline : ((Run.ofLines settings lines).machine.recordedCommand command).line =
      lines.length + 1 := hown
  -- nothing waits any more: what did, the command has inherited
  refine ⟨rfl, ?_, ?_⟩
  · rw [Run.machine_push, Run.commands_push, cast_length_concat, hfeed, feedAfterAll,
      Outcome.command?, Option.toList_some, List.foldl_append]
    rfl
  · rw [Run.commands_push, Outcome.command?, Option.toList_some, rates_concat, List.map_append,
      List.map_singleton, hline, hfeed, h.rates_eq_concat line]

/-- **After any lines the feed rate in force is known.** -/
theorem ofLines (settings : Settings) (lines : List String) :
    FeedKept settings lines (Run.ofLines settings lines) := by
  induction lines using Run.lines_induction settings with
  | nil => exact ⟨rfl, rfl, rfl⟩
  | concat lines line outcome after heffect hnext ih =>
      rw [hnext]
      cases heffect with
      | idle hread => exact ih.concat_of_no_motion (by rw [hread]; rfl) rfl
      | unreadable hread => exact ih.concat_of_no_motion (by rw [hread]; rfl) rfl
      | dropped hread => exact ih.concat_of_dropped hread
      | recorded hread => exact ih.concat_of_recorded hread

end FeedKept

/-- **The rate of a command is the feed in force at its line**, whether the motion that gave the
feed was recorded or dropped; rapid moves have the rate of the machine. -/
theorem rates_analyzeLines (settings : Settings) (lines : List String) :
    rates settings (analyzeLines settings lines).commands =
      (analyzeLines settings lines).commands.map fun command =>
        if command.isRapid then settings.rapidFeedRate
        else feedInForce settings lines command.line :=
  (FeedKept.ofLines settings lines).rates_eq

end Toolpath
