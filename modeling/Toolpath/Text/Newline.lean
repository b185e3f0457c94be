/-
**Lines of a text.**

A line ends with a line feed, with a carriage return, or with a carriage return and a line feed
together.  Nothing else ends a line: neither form feeds nor the separators beyond ASCII.

Main definitions:

* `Toolpath.Text.unifyNewlines` — every terminator written as one line feed;
* `Toolpath.Text.linesOf` — the lines of a text whose terminators are line feeds;
* `Toolpath.Text.splitLines` — the lines of any text, each with its line feed.

Main results:

* `Toolpath.Text.flatten_linesOf` — the lines make up the text.
-/

set_option relaxedAutoImplicit false
set_option autoImplicit false

namespace Toolpath

namespace Text

/-! ### Terminators -/

/-- What becomes of a character that stands before another: a carriage return is dropped before
a line feed and turned into one elsewhere. -/
def unifyBefore (c next : Char) : Option Char :=
  if c = '\r' then (if next = '\n' then none else some '\n') else some c

/-- The text with a line feed for every terminator. -/
def unifyNewlines (text : List Char) : List Char :=
  (text.zip (text.drop 1 ++ ['\x00'])).filterMap fun pair => unifyBefore pair.1 pair.2

@[simp] theorem unifyNewlines_nil : unifyNewlines [] = [] := rfl

theorem unifyNewlines_singleton (c : Char) :
    unifyNewlines [c] = if c = '\r' then ['\n'] else [c] := by
  by_cases h : c = '\r' <;> simp [unifyNewlines, unifyBefore, h]

theorem unifyNewlines_cons_cons (c d : Char) (rest : List Char) :
    unifyNewlines (c :: d :: rest) =
      (unifyBefore c d).toList ++ unifyNewlines (d :: rest) := by
  cases h : unifyBefore c d <;> simp [unifyNewlines, h]

/-! ### Lines -/

/-- Puts a character before lines: a line feed is a line of its own, any other character belongs
to the line that follows. -/
def consLine (c : Char) (lines : List (List Char)) : List (List Char) :=
  if c = '\n' then [c] :: lines
  else
    match lines with
    | [] => [[c]]
    | line :: rest => (c :: line) :: rest

/-- The lines of a text whose terminators are line feeds, each with its line feed. -/
def linesOf (text : List Char) : List (List Char) := text.foldr consLine []

@[simp] theorem linesOf_nil : linesOf [] = [] := rfl

@[simp] theorem linesOf_cons (c : Char) (text : List Char) :
    linesOf (c :: text) = consLine c (linesOf text) := rfl

@[simp] theorem flatten_consLine (c : Char) (lines : List (List Char)) :
    (consLine c lines).flatten = c :: lines.flatten := by
  unfold consLine
  split
  · rfl
  · cases lines <;> rfl

/-- The lines make up the text. -/
theorem flatten_linesOf (text : List Char) : (linesOf text).flatten = text := by
  induction text with
  | nil => rfl
  | cons c text ih => simp [ih]

/-- The lines of any text, each with one line feed for its terminator. -/
def splitLines (text : String) : List String :=
  (linesOf (unifyNewlines text.toList)).map String.ofList

end Text

end Toolpath
