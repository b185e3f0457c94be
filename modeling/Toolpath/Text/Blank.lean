/-
**White space and trimming.**

Main definitions:

* `Toolpath.Text.isBlank` — the characters of Unicode's white space and the four ASCII separators;
* `Toolpath.Text.trim` — a text without the blanks at its two ends.

Main results:

* `Toolpath.Text.trim_eq_self` — a text that starts and ends with no blank is trimmed already;
* `Toolpath.Text.trim_trim` — trimming twice is trimming once.
-/

set_option relaxedAutoImplicit false
set_option autoImplicit false

namespace Toolpath

namespace Text

/-- White space: tabulation to carriage return, the separators of files, groups, records and
units, space, next line, and the spaces and separators beyond ASCII. -/
def isBlank (c : Char) : Bool :=
  let n := c.toNat
  (9 ≤ n && n ≤ 13) || (28 ≤ n && n ≤ 32) || n == 0x85 || n == 0xA0 || n == 0x1680 ||
    (0x2000 ≤ n && n ≤ 0x200A) || n == 0x2028 || n == 0x2029 || n == 0x202F || n == 0x205F ||
    n == 0x3000

/-- The text without the blanks at its end. -/
def trimEnd (text : List Char) : List Char := (text.reverse.dropWhile isBlank).reverse

/-- The text without the blanks at its two ends. -/
def trim (text : List Char) : List Char := trimEnd (text.dropWhile isBlank)

@[simp] theorem trim_nil : trim [] = [] := rfl

/-- A text that starts with no blank keeps its start when its end is trimmed. -/
theorem dropWhile_trimEnd {text : List Char} (h : text.dropWhile isBlank = text) :
    (trimEnd text).dropWhile isBlank = trimEnd text := by
  cases text with
  | nil => rfl
  | cons c rest =>
      have hc : isBlank c = false := by
        cases hb : isBlank c with
        | false => rfl
        | true =>
            rw [List.dropWhile_cons, if_pos hb] at h
            have := (List.dropWhile_suffix isBlank (l := rest)).length_le
            rw [h, List.length_cons] at this
            omega
      have hlast : ∃ front, trimEnd (c :: rest) = c :: front := by
        unfold trimEnd
        rw [List.reverse_cons, List.dropWhile_append]
        split
        · exact ⟨[], by simp [hc]⟩
        · exact ⟨(List.dropWhile isBlank rest.reverse).reverse, by simp⟩
      obtain ⟨front, hfront⟩ := hlast
      rw [hfront, List.dropWhile_cons, if_neg (by simp [hc])]

/-- Dropping the blanks at the start twice is dropping them once. -/
theorem dropWhile_dropWhile (text : List Char) :
    (text.dropWhile isBlank).dropWhile isBlank = text.dropWhile isBlank := by
  induction text with
  | nil => rfl
  | cons c rest ih =>
      rw [List.dropWhile_cons]
      split
      · exact ih
      · rename_i hc
        rw [List.dropWhile_cons, if_neg hc]

/-- Trimming the end twice is trimming it once. -/
theorem trimEnd_trimEnd (text : List Char) : trimEnd (trimEnd text) = trimEnd text := by
  unfold trimEnd
  rw [List.reverse_reverse, dropWhile_dropWhile]

/-- A text that starts with no blank keeps its start. -/
theorem dropWhile_eq_self {text : List Char} (h : ∀ c ∈ text.head?, isBlank c = false) :
    text.dropWhile isBlank = text := by
  cases text with
  | nil => rfl
  | cons c rest => rw [List.dropWhile_cons, if_neg (by simp [h c rfl])]

/-- A text that starts and ends with no blank is trimmed already. -/
theorem trim_eq_self {text : List Char} (hhead : ∀ c ∈ text.head?, isBlank c = false)
    (hlast : ∀ c ∈ text.getLast?, isBlank c = false) : trim text = text := by
  rw [← List.head?_reverse] at hlast
  rw [trim, trimEnd, dropWhile_eq_self hhead, dropWhile_eq_self hlast, List.reverse_reverse]

/-- Trimming twice is trimming once. -/
theorem trim_trim (text : List Char) : trim (trim text) = trim text := by
  unfold trim
  rw [dropWhile_trimEnd (dropWhile_dropWhile text), trimEnd_trimEnd]

end Text

end Toolpath
