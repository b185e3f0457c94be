/-
**The arguments of a command line.**

An argument is an operand, or it sets options: a name after two dashes, which may be cut short as
long as only one option goes on with it, or letters after one dash.  A value follows an equals sign
or is the next operand.  After two dashes alone everything is an operand, and after an equals sign
they leave the value out.  The operands stand together; any that come after the first row of them
are stray.

Main definitions:

* `Toolpath.CommandLine.Rule` — an option that there is;
* `Toolpath.CommandLine.Argument` — what an argument is on its own;
* `Toolpath.CommandLine.Item`, `Toolpath.CommandLine.items` — what the arguments say in their row;
* `Toolpath.CommandLine.request` — what a command line asks for.
-/

import Toolpath.Text.Digit

set_option relaxedAutoImplicit false
set_option autoImplicit false

namespace Toolpath.CommandLine

open Text

variable {κ : Type}

/-! ### Options -/

/-- An option of a command line. -/
structure Rule (κ : Type) where
  /-- What the option is known by. -/
  key : κ
  /-- The name after two dashes. -/
  name : String
  /-- The option has a value. -/
  hasValue : Bool := false
  /-- The letter after one dash; only options without value have one. -/
  letter : Option Char := none

/-- The option that a letter sets. -/
def ruleOfLetter? (rules : List (Rule κ)) (letter : Char) : Option (Rule κ) :=
  rules.find? fun rule => rule.letter == some letter

/-- The options that a name can mean: the one of that name, or all whose name it starts. -/
def rulesOfName (rules : List (Rule κ)) (name : List Char) : List (Rule κ) :=
  match rules.find? fun rule => rule.name.toList == name with
  | some rule => [rule]
  | none => rules.filter fun rule => name.isPrefixOf rule.name.toList

/-! ### Single arguments -/

/-- What an argument is on its own. -/
inductive Argument (κ : Type) where
  | operand (text : String)
  /-- Two dashes: only operands follow. -/
  | terminator
  /-- An option by its name, with the value after the equals sign if there is one. -/
  | named (rule : Rule κ) (value : Option String)
  /-- Options by their letters, of which the first is that of an option. -/
  | letters (letters : List Char)
  /-- No option that there is. -/
  | unknown

/-- What follows the dash of a negative number: digits, or a point with digits after it and
perhaps before it.  A line feed may end it. -/
def isUnsigned (text : List Char) : Bool :=
  let body := if text.getLast? = some '\n' then text.dropLast else text
  match body.dropWhile isDecimalDigit with
  | [] => !body.isEmpty
  | c :: fraction => c == '.' && !fraction.isEmpty && fraction.all isDecimalDigit

/-- What an argument is that starts with a dash and is no option: negative numbers, and what has a
blank in it, are operands. -/
def otherArgument (text : List Char) : Argument κ :=
  if isUnsigned (text.drop 1) || text.contains ' ' then .operand (String.ofList text)
  else .unknown

/-- What an argument after two dashes is; none if its name can mean several options. -/
def namedArgument? (rules : List (Rule κ)) (text : List Char) : Option (Argument κ) :=
  let body := text.drop 2
  let value := (body.dropWhile (· != '=')).tail?.map String.ofList
  match rulesOfName rules (body.takeWhile (· != '=')) with
  | [] => some (otherArgument text)
  | [rule] => some (.named rule value)
  | _ => none

/-- The letters after the first one.  An equals sign may stand before them. -/
def furtherLetters : List Char → List Char
  | '=' :: letter :: others => letter :: others
  | others => others

/-- What an argument is on its own; none if its name can mean several options. -/
def argument? (rules : List (Rule κ)) (text : String) : Option (Argument κ) :=
  match text.toList with
  | '-' :: '-' :: _ => namedArgument? rules text.toList
  | '-' :: letter :: others =>
      if (ruleOfLetter? rules letter).isSome then some (.letters (letter :: furtherLetters others))
      else some (otherArgument text.toList)
  | _ => some (.operand text)

/-- What the arguments are, each on its own. -/
def arguments? (rules : List (Rule κ)) : List String → Option (List (Argument κ))
  | [] => some []
  | text :: rest =>
      if text = "--" then some (.terminator :: rest.map Argument.operand)
      else
        match argument? rules text, arguments? rules rest with
        | some argument, some others => some (argument :: others)
        | _, _ => none

/-! ### The row of arguments -/

/-- What the arguments say in their row. -/
inductive Item (κ : Type) where
  | operand (text : String)
  /-- An option, with its value if it has one and that is not left out. -/
  | option (key : κ) (value : Option String)
  /-- Something that has no place in the row. -/
  | stray
  /-- An option lacks its value, or has one that it should not have, or a letter is that of no
  option. -/
  | fault

/-- Where the row of operands is. -/
inductive Row where
  | before
  | within
  | after
  deriving DecidableEq

/-- Where the row of operands is after an option. -/
def Row.interrupt : Row → Row
  | before => before
  | _ => after

/-- The options that letters set; none if one of the letters is that of no option. -/
def letterItems? (rules : List (Rule κ)) (letters : List Char) : Option (List (Item κ)) :=
  letters.mapM fun letter =>
    (ruleOfLetter? rules letter).map fun rule => Item.option rule.key none

/-- The value that the text after an equals sign is; two dashes leave it out. -/
def givenValue? (text : String) : Option String := if text = "--" then none else some text

/-- Where the row of operands is after an operand. -/
def Row.extend : Row → Row
  | after => after
  | _ => within

/-- What an operand says, by where the row of operands is. -/
def operandItem (row : Row) (text : String) : Item κ :=
  if row = .after then .stray else .operand text

/-- What the arguments say in their row.  Nothing is said after a fault. -/
def items (rules : List (Rule κ)) : Row → List (Argument κ) → List (Item κ)
  | _, [] => []
  | row, .operand text :: rest =>
      operandItem row text :: items rules row.extend rest
  | .before, .terminator :: rest => if rest.isEmpty then [.stray] else items rules .before rest
  | .within, .terminator :: rest => items rules .within rest
  | .after, .terminator :: rest => .stray :: items rules .after rest
  | row, .letters letters :: rest =>
      match letterItems? rules letters with
      | some set => set ++ items rules row.interrupt rest
      | none => [.fault]
  | row, .unknown :: rest => .stray :: items rules row.interrupt rest
  | row, .named rule (some value) :: rest =>
      if rule.hasValue then
        .option rule.key (givenValue? value) :: items rules row.interrupt rest
      else [.fault]
  | row, .named rule none :: .operand value :: rest =>
      if rule.hasValue then .option rule.key (some value) :: items rules row.interrupt rest
      else
        .option rule.key none :: operandItem row.interrupt value ::
          items rules row.interrupt.extend rest
  | row, .named rule none :: rest =>
      if rule.hasValue then [.fault] else .option rule.key none :: items rules row.interrupt rest

/-! ### Requests -/

/-- What an option does. -/
inductive Effect (σ : Type) where
  | set (settings : σ)
  | help
  | invalid

/-- What a command line asks for. -/
inductive Request (σ : Type) where
  /-- Nothing that can be done. -/
  | rejected
  /-- An explanation of the options. -/
  | help
  /-- The work, with these settings and operands. -/
  | accepted (settings : σ) (operands : List String)

/-- What the items ask for, one after another.  Help is given at once, and a fault ends it; what
is stray is held against the whole at its end. -/
def follow {σ : Type} (effect : σ → κ → Option String → Effect σ) (needsOperand : Bool) :
    σ → List String → Bool → List (Item κ) → Request σ
  | settings, operands, isStray, [] =>
      if isStray || (needsOperand && operands.isEmpty) then .rejected
      else .accepted settings operands
  | settings, operands, isStray, .operand text :: rest =>
      follow effect needsOperand settings (operands ++ [text]) isStray rest
  | settings, operands, _, .stray :: rest =>
      follow effect needsOperand settings operands true rest
  | _, _, _, .fault :: _ => .rejected
  | settings, operands, isStray, .option key value :: rest =>
      match effect settings key value with
      | .set settings => follow effect needsOperand settings operands isStray rest
      | .help => .help
      | .invalid => .rejected

/-- What a command line asks for, with at least one operand or none at all. -/
def request {σ : Type} (rules : List (Rule κ)) (effect : σ → κ → Option String → Effect σ)
    (needsOperand : Bool) (settings : σ) (texts : List String) : Request σ :=
  match arguments? rules texts with
  | none => .rejected
  | some arguments =>
      follow effect needsOperand settings [] false
        (items rules (if needsOperand then .before else .after) arguments)

end Toolpath.CommandLine
