/-
**Durations in whole microseconds.**

A duration lasts less than a thousand million days, forwards or backwards.  It is counted in
microseconds, and taken apart into days, seconds of the day and microseconds of the second.

Main definitions:

* `Toolpath.Duration` — a count of microseconds within the range;
* `Toolpath.Duration.ofMicros?`, `Toolpath.Duration.ofMinutes` — durations from numbers;
* `Toolpath.Duration.text` — how long it lasts, in hours, minutes and seconds.
-/

import Toolpath.Binary64.Decimal

set_option relaxedAutoImplicit false
set_option autoImplicit false

namespace Toolpath

/-! ### The range -/

/-- The microseconds of a second. -/
def microsPerSecond : Nat := 1000000

/-- The seconds of a day. -/
def secondsPerDay : Nat := 86400

/-- The microseconds of a day. -/
def microsPerDay : Nat := secondsPerDay * microsPerSecond

/-- The most days of a duration. -/
def maxDays : Nat := 999999999

/-- The whole days of a duration are in range, in either direction. -/
def InDurationRange (micros : Int) : Prop :=
  -(maxDays : Int) ≤ micros / microsPerDay ∧ micros / microsPerDay ≤ maxDays

instance (micros : Int) : Decidable (InDurationRange micros) := by
  unfold InDurationRange
  infer_instance

/-- A count of microseconds within the range. -/
structure Duration where
  micros : Int
  inRange : InDurationRange micros
  deriving DecidableEq

/-- Why a number of minutes is no duration. -/
inductive DurationError where
  /-- The number of minutes is not a number. -/
  | undefined
  /-- The duration is too long. -/
  | outOfRange
  deriving DecidableEq

namespace Duration

/-- The duration of a number of microseconds, if it is in range. -/
def ofMicros? (micros : Int) : Option Duration :=
  if h : InDurationRange micros then some ⟨micros, h⟩ else none

/-- No time at all. -/
def zero : Duration := ⟨0, by decide⟩

/-! ### Minutes -/

/-- The microseconds of a minute. -/
def microsPerMinute : Nat := 60000000

/-- The microseconds of a magnitude in minutes.  The whole minutes are converted exactly, what is
left of a minute as a product of doubles, and the sum is rounded once, a tie to even. -/
def microsOfMinutes (units : Nat) : Nat :=
  let rest := Binary64.ofInt microsPerMinute * Binary64.ofRatio false (units % Binary64.one) 1
  roundHalfEven (units / Binary64.one * microsPerMinute * Binary64.one + rest.magnitude)
    Binary64.one

/-- The duration of a number of minutes. -/
def ofMinutes : Binary64 → Except DurationError Duration
  | .nan => .error .undefined
  | .infinite _ => .error .outOfRange
  | .finite negative units _ =>
      match ofMicros? (Binary64.signed negative (microsOfMinutes units)) with
      | some duration => .ok duration
      | none => .error .outOfRange

/-! ### Parts -/

/-- The whole days, rounded down. -/
def days (duration : Duration) : Int := duration.micros / microsPerDay

/-- The whole seconds after the whole days. -/
def seconds (duration : Duration) : Int := duration.micros % microsPerDay / microsPerSecond

/-- The microseconds after the whole seconds. -/
def microseconds (duration : Duration) : Int := duration.micros % microsPerSecond

/-! ### Text -/

/-- The double nearest the number of seconds. -/
def totalSeconds (duration : Duration) : Binary64 :=
  Binary64.ofRatio (decide (duration.micros < 0)) (duration.micros.natAbs * Binary64.one)
    microsPerSecond

/-- The whole seconds of a positive duration as they are shown. -/
def wholeSeconds (duration : Duration) : Nat :=
  if duration.micros < 0 then 0 else duration.totalSeconds.magnitude / Binary64.one

/-- How long a duration lasts: in hours, minutes and seconds from an hour on, in minutes and
seconds from a minute on, and in seconds with one place below. -/
def text (duration : Duration) : String :=
  let whole := duration.wholeSeconds
  if 3600 ≤ whole then
    toString (whole / 3600) ++ "h " ++ toString (whole / 60 % 60) ++ "m " ++
      toString (whole % 60) ++ "s"
  else if 60 ≤ whole then toString (whole / 60) ++ "m " ++ toString (whole % 60) ++ "s"
  else duration.totalSeconds.fixed 1 ++ "s"

end Duration

end Toolpath
