/-
**Feed rates.**

A feed rate stays in force until another one is given.  Rates that are zero or negative are
passed over, and rapid moves have a rate of their own.

Main definitions:

* `Toolpath.Command.feedAfter` — the feed rate in force from a command on;
* `Toolpath.rates` — the rate of every command.

Main results:

* `Toolpath.length_rates` — every command has one rate.
-/

import Toolpath.Command
import Toolpath.Settings

set_option relaxedAutoImplicit false
set_option autoImplicit false

namespace Toolpath

namespace Command

/-- The feed rate in force from a command on: its own before the one it inherits, and that before
the one in force so far. -/
def feedAfter (command : Command) (feed : Binary64) : Binary64 :=
  ((positiveRate? command.parameters.f).or (positiveRate? command.inheritedFeed)).getD feed

/-- The rate of a command, given the feed rate in force from it on. -/
def rate (settings : Settings) (command : Command) (feed : Binary64) : Binary64 :=
  if command.isRapid then settings.rapidFeedRate else feed

end Command

/-- The rates of commands that follow a feed rate. -/
def ratesFrom (settings : Settings) (feed : Binary64) : List Command → List Binary64
  | [] => []
  | command :: rest =>
      command.rate settings (command.feedAfter feed) ::
        ratesFrom settings (command.feedAfter feed) rest

/-- The rates of the commands of a program. -/
def rates (settings : Settings) (commands : List Command) : List Binary64 :=
  ratesFrom settings settings.defaultFeedRate commands

@[simp] theorem length_ratesFrom (settings : Settings) (feed : Binary64)
    (commands : List Command) : (ratesFrom settings feed commands).length = commands.length := by
  induction commands generalizing feed with
  | nil => rfl
  | cons command rest ih => simp [ratesFrom, ih]

/-- Every command has one rate. -/
@[simp] theorem length_rates (settings : Settings) (commands : List Command) :
    (rates settings commands).length = commands.length := length_ratesFrom _ _ _

end Toolpath
