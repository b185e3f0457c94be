/-
**Which run times can be told.**

The minutes that the commands of a program take are a sum of lengths divided by rates.  All rates
are positive and finite, so the sum is a number and no less than zero, in whatever order it is added
up; but nothing keeps it from growing, and a duration holds less than a thousand million days.
Exactly the programs below this limit have a run time, a summary and a report; one program beyond it
ends the whole command line.

Main definitions:

* `Toolpath.Duration.limitMinutes` — the minutes of a thousand million days;
* `Toolpath.TimeTold` — what becomes of the run time of a program;
* `Toolpath.Session.Answered` — what becomes of a command line that asks for reports.

Main results:

* `Toolpath.nonneg_minutes` — the minutes of a program are a number and no less than zero;
* `Toolpath.Duration.microsOfMinutes_lt_iff` — **rounding takes no minutes across the limit**;
* `Toolpath.timeTold`, `Toolpath.Session.answered` — below the limit there are a run time, a summary
  and a report, and from it on there are none;
* `Toolpath.reported_below_limit` — **a program is reported on exactly if its minutes are below the
  limit**;
* `Toolpath.untold_at_limit` — not every program has a run time.
-/

import Mathlib.Data.List.Forall2
import Toolpath.Proofs.EndPoint
import Toolpath.Proofs.FeedInForce
import Toolpath.Proofs.LawfulNumerics
import Toolpath.Session

set_option relaxedAutoImplicit false
set_option autoImplicit false

namespace Toolpath

open Binary64

/-! ### The limit of durations -/

namespace Duration

/-- The minutes from which on no duration is as long: those of a thousand million days. -/
def limitMinutes : Binary64 := 1440000000000

/-- The limit is a whole number of minutes, far below the largest double. -/
theorem limitMinutes_spec : limitMinutes.isNaN = false ∧
    limitMinutes.place = (1440000000000 * one : Nat) ∧ 1440000000000 * one ≤ limit := by
  decide +kernel

/-- A count of microseconds is in range if it is less than a thousand million days. -/
theorem inDurationRange_iff (micros : Nat) :
    InDurationRange micros ↔ micros < 86400000000000000000 := by
  simp only [InDurationRange, microsPerDay, secondsPerDay, microsPerSecond, maxDays]
  omega

/-! ### Rounding to microseconds -/

theorem magnitude_microsPerMinute : (ofInt microsPerMinute).magnitude = 60000000 * one := by
  decide +kernel

/-- The whole minutes are converted exactly. -/
theorem le_microsOfMinutes (units : Nat) :
    units / one * microsPerMinute ≤ microsOfMinutes units := by
  rw [microsOfMinutes]
  exact le_roundHalfEven Binary64.one_pos (Nat.le_add_right _ _)

/-- A double that bounds what is left of a minute bounds its microseconds too. -/
theorem microsOfMinutes_le {units part rest : Nat} (hpart : units % one ≤ part)
    (hdvd : 2 ^ spacing part ∣ part) (hrest : 60000000 * part ≤ rest * one)
    (hsmall : rest ≤ 2 ^ 53) : microsOfMinutes units ≤ units / one * microsPerMinute + rest := by
  have hunits : (ofRatio false (units % one) 1).magnitude ≤ part :=
    magnitude_ofRatio_le hdvd (by rwa [Nat.mul_one])
  have hproduct : (ofInt microsPerMinute * ofRatio false (units % one) 1).magnitude ≤
      rest * one := by
    refine magnitude_mul_le (spacing_mul_dvd hsmall) ?_
    calc (ofInt microsPerMinute).magnitude * (ofRatio false (units % one) 1).magnitude
        ≤ 60000000 * one * part := by
          rw [magnitude_microsPerMinute]
          exact Nat.mul_le_mul_left _ hunits
      _ = 60000000 * part * one := Nat.mul_right_comm ..
      _ ≤ rest * one * one := Nat.mul_le_mul_right _ hrest
  rw [microsOfMinutes]
  refine roundHalfEven_le Binary64.one_pos ?_
  rw [Nat.add_mul]
  exact Nat.add_le_add_left hproduct _

/-- The binary exponent of the distance between doubles in the last minute before the limit, in
units. -/
def lastSpacing : Nat := 1062

theorem one_eq_lastSpacing : one = 4096 * 2 ^ lastSpacing := by
  have h : unitExponent = 12 + lastSpacing := rfl
  rw [one, h, Nat.pow_add]

/-- In the last minute before the limit not all of the rest of a minute can be used up. -/
theorem rest_le_of_last {units : Nat} (hunits : Representable units)
    (hwhole : units / one = 1439999999999) : units % one ≤ 4095 * 2 ^ lastSpacing := by
  have hlarge : 2 ^ (52 + lastSpacing) ≤ units := by
    calc 2 ^ (52 + lastSpacing) = 2 ^ 40 * one := by
          have h : 52 + lastSpacing = 40 + 12 + lastSpacing := rfl
          rw [h, Nat.pow_add, Nat.pow_add, one_eq_lastSpacing, Nat.mul_assoc]
      _ ≤ units / one * one := Nat.mul_le_mul_right _ (by rw [hwhole]; decide)
      _ ≤ units := Nat.div_mul_le_self units one
  have hdvd : 2 ^ lastSpacing ∣ units % one := by
    refine (Nat.dvd_mod_iff ?_).2 ((Nat.pow_dvd_pow 2 (le_spacing hlarge)).trans hunits.1)
    exact ⟨4096, by rw [one_eq_lastSpacing, Nat.mul_comm]⟩
  have hrest : units % one < one := Nat.mod_lt units Binary64.one_pos
  obtain ⟨k, hk⟩ := hdvd
  rw [hk, one_eq_lastSpacing, Nat.mul_comm] at hrest
  rw [hk, Nat.mul_comm]
  generalize 2 ^ lastSpacing = step at hrest
  have hlt : k < 4096 := Nat.lt_of_mul_lt_mul_right hrest
  exact Nat.mul_le_mul_right _ (by omega)

/-- **Rounding takes no minutes across the limit.** -/
theorem microsOfMinutes_lt_iff {units : Nat} (hunits : Representable units) :
    microsOfMinutes units < 86400000000000000000 ↔ units < 1440000000000 * one := by
  have hwhole := le_microsOfMinutes units
  rw [← Nat.div_lt_iff_lt_mul Binary64.one_pos]
  rw [microsPerMinute] at hwhole
  constructor
  · intro h
    omega
  · intro h
    rcases Nat.lt_or_ge (units / one) 1439999999999 with hless | hlast
    · -- a whole minute more is still before the limit
      have hle : microsOfMinutes units ≤ units / one * microsPerMinute + 60000000 := by
        refine microsOfMinutes_le (Nat.mod_lt units Binary64.one_pos).le ?_ le_rfl (by decide)
        rw [one, ← Nat.one_mul (2 ^ unitExponent)]
        exact spacing_mul_dvd (by decide)
      rw [microsPerMinute] at hle
      omega
    · -- doubles end a 4096th of a minute before the limit, which is more than a microsecond
      have heq : units / one = 1439999999999 := by omega
      have hle : microsOfMinutes units ≤ units / one * microsPerMinute + 59999999 := by
        refine microsOfMinutes_le (rest_le_of_last hunits heq) (spacing_mul_dvd (by decide)) ?_
          (by decide)
        rw [one_eq_lastSpacing, ← Nat.mul_assoc, ← Nat.mul_assoc]
        exact Nat.mul_le_mul_right _ (by decide)
      rw [microsPerMinute, heq] at hle
      omega

/-! ### Minutes that are no less than zero -/

/-- A finite double that is no less than zero lies as many microseconds after zero as its magnitude
does, whatever the sign of a zero is. -/
theorem signed_microsOfMinutes {negative : Bool} {units : Nat} {h : Representable units}
    (hm : (finite negative units h).Nonneg) :
    signed negative (microsOfMinutes units) = microsOfMinutes units := by
  cases negative with
  | false => rfl
  | true =>
      have hplace := hm.place_nonneg
      rw [place_finite, signed, if_pos rfl] at hplace
      obtain rfl : units = 0 := by omega
      decide +kernel

/-- **Minutes that are no less than zero are a duration exactly if they are below the limit.** -/
theorem ofMinutes_cases {m : Binary64} (hm : m.Nonneg) :
    (m < limitMinutes ∧ ∃ time, ofMinutes m = .ok time ∧ 0 ≤ time.micros) ∨
      (¬ m < limitMinutes ∧ ofMinutes m = .error .outOfRange) := by
  obtain ⟨hnumber, hplace, hlimit⟩ := limitMinutes_spec
  rw [lt_iff hm.isNaN_eq hnumber, hplace]
  cases m with
  | nan => cases hm.isNaN_eq
  | infinite negative =>
      obtain rfl := hm.infinite_eq
      refine .inr ⟨?_, rfl⟩
      exact Int.not_lt.2 (Int.ofNat_le.2 hlimit)
  | finite negative units hunits =>
      have hunitsPlace : (finite negative units hunits).place = units :=
        signed_of_nonneg hm.place_nonneg
      rw [hunitsPlace, Int.ofNat_lt, ← microsOfMinutes_lt_iff hunits, ← inDurationRange_iff,
        ofMinutes, signed_microsOfMinutes hm, ofMicros?]
      by_cases h : InDurationRange (microsOfMinutes units)
      · rw [dif_pos h]
        exact .inl ⟨h, _, rfl, Int.natCast_nonneg _⟩
      · rw [dif_neg h]
        exact .inr ⟨h, rfl⟩

end Duration

/-! ### The minutes of a program -/

/-- Both rates that do not come from the program are finite. -/
structure Settings.FiniteRates (settings : Settings) : Prop where
  default_finite : settings.defaultFeedRate.isFinite = true
  rapid_finite : settings.rapidFeedRate.isFinite = true

theorem finiteRates_default : Settings.FiniteRates {} :=
  have hrates : ({} : Settings).defaultFeedRate.isFinite = true ∧
      ({} : Settings).rapidFeedRate.isFinite = true := by
    decide +kernel
  ⟨hrates.1, hrates.2⟩

/-- The feed rate in force is finite, whether it comes from a line or from the settings. -/
theorem isFinite_feedInForce {settings : Settings} (h : settings.FiniteRates)
    (lines : List String) (number : Int) : (feedInForce settings lines number).isFinite = true := by
  rw [feedInForce]
  cases hlast : (feedsOf ((motions lines).filter fun command =>
      command.line ≤ number)).getLast? with
  | none => exact h.default_finite
  | some rate =>
      obtain ⟨command, hcommand, hrate⟩ := List.mem_filterMap.1 (List.mem_of_getLast? hlast)
      have hf : command.parameters.get .f = some rate := (Option.filter_eq_some_iff.1 hrate).1
      exact isFinite_of_mem_motions (List.mem_of_mem_filter hcommand) hf

/-- All rates of a program are finite. -/
theorem isFinite_of_mem_rates {settings : Settings} (h : settings.FiniteRates)
    {lines : List String} {rate : Binary64}
    (hrate : rate ∈ rates settings (Run.ofLines settings lines).commands) :
    rate.isFinite = true := by
  rw [(FeedKept.ofLines settings lines).rates_eq] at hrate
  obtain ⟨command, -, rfl⟩ := List.mem_map.1 hrate
  rw [Command.rate]
  split
  · exact h.rapid_finite
  · exact isFinite_feedInForce h lines command.line

/-! ### Lists that are gone through -/

/-- A list is gone through to its end, or up to its first element that fails. -/
theorem mapM_cases {α β ε : Type} (f : α → Except ε β) (xs : List α) :
    (∃ ys, xs.mapM f = .ok ys ∧ List.Forall₂ (fun x y => f x = .ok y) xs ys) ∨
      ∃ x ∈ xs, ∃ error, f x = .error error ∧ xs.mapM f = .error error := by
  induction xs with
  | nil => exact .inl ⟨[], rfl, .nil⟩
  | cons x rest ih =>
      rw [List.mapM_cons]
      cases hfirst : f x with
      | error error => exact .inr ⟨x, List.mem_cons_self, error, hfirst, rfl⟩
      | ok y =>
          rcases ih with ⟨ys, hrest, hforall⟩ | ⟨z, hz, error, herror, hrest⟩
          · rw [hrest]
            exact .inl ⟨y :: ys, rfl, .cons hfirst hforall⟩
          · rw [hrest]
            exact .inr ⟨z, List.mem_cons_of_mem x hz, error, herror, rfl⟩

section Told

variable [Numerics]

/-! ### Run times and reports -/

/-- The minutes of the program of a text, with the default settings. -/
def programMinutes (text : String) : Binary64 := minutes {} (analyzeText {} text).commands

/-- What becomes of the run time of the program of a text. -/
structure TimeTold (text : String) : Prop where
  /-- Below the limit there is a run time, which is no less than zero, and a summary. -/
  told : programMinutes text < Duration.limitMinutes →
    (∃ time, runTime {} (analyzeText {} text).commands = .ok time ∧ 0 ≤ time.micros) ∧
      ∃ summary, (analyzeText {} text).summary = .ok summary
  /-- From the limit on there is neither. -/
  untold : ¬ programMinutes text < Duration.limitMinutes →
    runTime {} (analyzeText {} text).commands = .error .outOfRange ∧
      (analyzeText {} text).summary = .error .outOfRange

theorem exists_report {path : Path} {analysis : Analysis} {listing : Listing} {summary : String}
    (h : analysis.summary = .ok summary) (hlimit : listing.limit ≠ .blank) :
    ∃ lines, report path analysis listing = .ok lines := by
  rw [report, h]
  split
  · contradiction
  · contradiction
  · exact ⟨_, rfl⟩

theorem report_of_no_summary {path : Path} {analysis : Analysis} {listing : Listing}
    {error : DurationError} (h : analysis.summary = .error error) :
    report path analysis listing = .error (.time error) := by
  rw [report, h]

namespace Session

open CommandLine

/-- What there is to say about a file is the report about its program, if the file is read. -/
def Reports (files : Files) (listing : Listing) (path : Path) (finding : Finding) : Prop :=
  ∀ text, files.readProgram path.text = .ok text →
    report path (analyzeText {} text) listing = .ok finding.report

/-- There is a program at a path whose minutes are not below the limit. -/
def IsUntold (files : Files) (path : Path) : Prop :=
  ∃ text, files.readProgram path.text = .ok text ∧ ¬ programMinutes text < Duration.limitMinutes

/-- What becomes of a command line whose arguments ask for reports, with a count if the diagnostics
are limited. -/
structure Answered (files : Files) (arguments : List String) : Prop where
  /-- If all run times can be told, there is a report about every file that is read. -/
  reported : ∀ options operands, analysisRequest arguments = .accepted options operands →
    options.listing.limit ≠ .blank →
    (∀ path ∈ collect {} files operands, ¬ IsUntold files path) →
      ∃ findings, respond files arguments = .ofFindings options.verbose findings ∧
        List.Forall₂ (Reports files options.listing) (collect {} files operands) findings
  /-- If one cannot, the command line ends without an answer. -/
  aborted : ∀ options operands, analysisRequest arguments = .accepted options operands →
    options.listing.limit ≠ .blank →
    (∃ path ∈ collect {} files operands, IsUntold files path) →
      respond files arguments = .aborted (.time .outOfRange)

end Session

variable [LawfulSum]

/-! ### Below the limit and from it on -/

/-- **The minutes of a program are a number and no less than zero**, whatever its lengths are. -/
theorem nonneg_minutes {settings : Settings} (h : settings.FiniteRates) (lines : List String) :
    (minutes settings (analyzeLines settings lines).commands).Nonneg := by
  refine LawfulSum.nonneg_sum _ fun m hm => ?_
  obtain ⟨⟨length, rate⟩, hentry, hsome⟩ := List.mem_filterMap.1 hm
  rw [minutes?, Option.ite_none_right_eq_some] at hsome
  obtain ⟨⟨hrate, hlength⟩, hquotient⟩ := hsome
  rw [← Option.some.inj hquotient]
  exact nonneg_div hlength hrate (isFinite_of_mem_rates h (List.of_mem_zip hentry).2)

/-- Commands take a time exactly if their minutes are below the limit; so do no commands at all. -/
theorem runTime_cases {settings : Settings} {commands : List Command}
    (h : (minutes settings commands).Nonneg) :
    (minutes settings commands < Duration.limitMinutes ∧
        ∃ time, runTime settings commands = .ok time ∧ 0 ≤ time.micros) ∨
      (¬ minutes settings commands < Duration.limitMinutes ∧ commands ≠ [] ∧
        runTime settings commands = .error .outOfRange) := by
  cases commands with
  | nil =>
      have hminutes : minutes settings [] = 0 := LawfulSum.sum_nil
      rw [hminutes]
      exact .inl ⟨by decide +kernel, Duration.zero, rfl, le_rfl⟩
  | cons first rest =>
      have htime : runTime settings (first :: rest) =
          Duration.ofMinutes (minutes settings (first :: rest)) := rfl
      rw [htime]
      rcases Duration.ofMinutes_cases h with htold | ⟨hlt, hlost⟩
      · exact .inl htold
      · exact .inr ⟨hlt, List.cons_ne_nil first rest, hlost⟩

/-- **There is a run time and a summary exactly below the limit.** -/
theorem timeTold (text : String) : TimeTold text := by
  have hsettings : (analyzeText {} text).settings = {} := rfl
  have hnonneg := nonneg_minutes finiteRates_default (Text.splitLines text)
  rcases runTime_cases hnonneg with ⟨hlt, time, htime, hmicros⟩ | ⟨hlt, hcommands, htime⟩
  · refine ⟨fun _ => ⟨⟨time, htime, hmicros⟩, ?_⟩, fun h => absurd hlt h⟩
    rw [Analysis.summary, hsettings, analyzeText, htime]
    split
    · exact ⟨_, rfl⟩
    · exact ⟨_, rfl⟩
  · refine ⟨fun h => absurd h hlt, fun _ => ⟨htime, ?_⟩⟩
    rw [Analysis.summary, hsettings, analyzeText, htime, List.isEmpty_eq_false_iff.2 hcommands]
    rfl

namespace Session

open CommandLine

variable {files : Files} {listing : Listing} {path : Path}

/-- A file has its report unless the run time of its program cannot be told. -/
theorem examine_cases (files : Files) (path : Path) (hlimit : listing.limit ≠ .blank) :
    (¬ IsUntold files path ∧
        ∃ finding, examine {} files listing path = .ok finding ∧
          Reports files listing path finding) ∨
      (IsUntold files path ∧ examine {} files listing path = .error (.time .outOfRange)) := by
  cases hread : files.readProgram path.text with
  | error error =>
      refine .inl ⟨?_, ⟨false, [], [.refused error]⟩, ?_, ?_⟩
      · rintro ⟨text, htext, -⟩
        rw [hread] at htext
        cases htext
      · rw [examine, hread]
      · intro text htext
        rw [hread] at htext
        cases htext
  | ok text =>
      have hexamine : examine {} files listing path =
          (report path (analyzeText {} text) listing).map fun lines => ⟨true, lines,
            .reading path :: (Run.ofLines {} (Text.splitLines text)).log {}⟩ := by
        rw [examine, hread]
        rfl
      by_cases hlt : programMinutes text < Duration.limitMinutes
      · obtain ⟨-, summary, hsummary⟩ := (timeTold text).told hlt
        obtain ⟨lines, hlines⟩ : ∃ lines, report path (analyzeText {} text) listing = .ok lines :=
          exists_report hsummary hlimit
        rw [hlines] at hexamine
        refine .inl ⟨?_, _, hexamine, ?_⟩
        · rintro ⟨other, hother, huntold⟩
          rw [hread] at hother
          cases hother
          exact huntold hlt
        · intro other hother
          rw [hread] at hother
          cases hother
          exact hlines
      · rw [report_of_no_summary ((timeTold text).untold hlt).2] at hexamine
        exact .inr ⟨⟨text, hread, hlt⟩, hexamine⟩

/-- Either there is a report about every file that is read, or the command line ends at a program
whose run time cannot be told. -/
theorem respond_cases {arguments operands : List String} {options : AnalysisOptions}
    (haccepted : analysisRequest arguments = .accepted options operands)
    (hlimit : options.listing.limit ≠ .blank) :
    ((∀ path ∈ collect {} files operands, ¬ IsUntold files path) ∧
        ∃ findings, respond files arguments = .ofFindings options.verbose findings ∧
          List.Forall₂ (Reports files options.listing) (collect {} files operands) findings) ∨
      ((∃ path ∈ collect {} files operands, IsUntold files path) ∧
        respond files arguments = .aborted (.time .outOfRange)) := by
  rw [respond, haccepted]
  dsimp only
  rcases mapM_cases (examine {} files options.listing) (collect {} files operands) with
    ⟨findings, hfindings, hforall⟩ | ⟨path, hpath, error, herror, hfindings⟩
  · have hreports : List.Forall₂ (fun path finding => ¬ IsUntold files path ∧
        Reports files options.listing path finding) (collect {} files operands) findings := by
      refine hforall.imp fun path finding hfinding => ?_
      rcases examine_cases files path hlimit with ⟨htold, own, hown, hreports⟩ | ⟨-, herror⟩
      · rw [hown] at hfinding
        cases hfinding
        exact ⟨htold, hreports⟩
      · rw [herror] at hfinding
        cases hfinding
    rw [List.forall₂_and_left] at hreports
    rw [hfindings]
    exact .inl ⟨hreports.1, findings, rfl, hreports.2⟩
  · rw [hfindings]
    rcases examine_cases files path hlimit with ⟨-, finding, hfinding, -⟩ | ⟨huntold, hown⟩
    · rw [hfinding] at herror
      cases herror
    · rw [hown] at herror
      cases herror
      exact .inr ⟨⟨path, hpath, huntold⟩, rfl⟩

theorem answered (files : Files) (arguments : List String) : Answered files arguments := by
  refine ⟨?_, ?_⟩
  · intro options operands haccepted hlimit htold
    rcases respond_cases haccepted hlimit with ⟨-, hreported⟩ | ⟨⟨path, hpath, huntold⟩, -⟩
    · exact hreported
    · exact absurd huntold (htold path hpath)
  · rintro options operands haccepted hlimit ⟨path, hpath, huntold⟩
    rcases respond_cases haccepted hlimit with ⟨htold, -⟩ | ⟨-, haborted⟩
    · exact absurd huntold (htold path hpath)
    · exact haborted

end Session

/-- **A program is reported on exactly if its minutes are below the limit.** -/
theorem reported_below_limit (files : Files) (arguments : List String) (text : String) :
    TimeTold text ∧ Session.Answered files arguments :=
  ⟨timeTold text, Session.answered files arguments⟩

end Told

section Standard

attribute [local instance] Numerics.standard

/-- A move that ends just before the limit, and seven short ones. -/
def shortMoves : String :=
  "G0 X0\nG1 X1439999999999.99975 F1\nG1 Y.00011\nG1 Y.00022\nG1 Y.00033\nG1 Y.00044\n" ++
    "G1 Y.00055\nG1 Y.00066\nG1 Y.00077\n"

/-- These moves are in a file, wherever it is looked for. -/
def shortMovesFile : Files where
  find? _ := some (.file (shortMoves.toList.map fun c => UInt8.ofNat c.toNat))

/-- No single one of the short moves takes the program to the limit, but pairs of them do. -/
theorem reported_below_limit_shortMoves : LawfulSum ∧
    runTime {} (analyzeText {} shortMoves).commands = .error .outOfRange ∧
    Session.respond shortMovesFile ["a.nc"] = .aborted (.time .outOfRange) := by
  have hlimit : ¬ programMinutes shortMoves < Duration.limitMinutes := by decide +kernel
  have hread : shortMovesFile.readProgram "a.nc" = .ok shortMoves := by decide +kernel
  have haccepted : CommandLine.analysisRequest ["a.nc"] = .accepted {} ["a.nc"] := by rfl
  have hcollect : Session.collect {} shortMovesFile ["a.nc"] = [⟨.here, ["a.nc"]⟩] := by
    decide +kernel
  obtain ⟨htime, hanswered⟩ := reported_below_limit shortMovesFile ["a.nc"] shortMoves
  refine ⟨inferInstance, (htime.untold hlimit).1, ?_⟩
  refine hanswered.aborted {} ["a.nc"] haccepted Limit.noConfusion ?_
  rw [hcollect]
  exact ⟨_, List.mem_singleton_self _, shortMoves, hread, hlimit⟩

/-- One move that goes on for a thousand million days: its run time cannot be told, and there is no
summary of the program. -/
theorem untold_at_limit :
    ¬ ((∃ time, runTime {} (analyzeText {} "G0 X0\nG1 X1440000000000 F1\n").commands = .ok time ∧
        0 ≤ time.micros) ∧
      ∃ summary, (analyzeText {} "G0 X0\nG1 X1440000000000 F1\n").summary = .ok summary) := by
  have hnone : runTime {} (analyzeText {} "G0 X0\nG1 X1440000000000 F1\n").commands =
      .error .outOfRange := by decide +kernel
  rintro ⟨⟨time, htime, -⟩, -⟩
  rw [hnone] at htime
  cases htime

-- a thousandth of a minute less, and the days are still in range
example : (runTime {} (analyzeText {} "G0 X0\nG1 X1439999999999.999 F1\n").commands).map
    Duration.days = .ok 999999999 := by decide +kernel

end Standard

end Toolpath
