/-
**Arguments that are written and read back.**

Options are written by their full names, with a value after an equals sign, and the operands after
two dashes, so that nothing is taken for what it is not.  Whatever the options of the analysis and
the paths are, there are arguments that ask for them; only counts with more digits than are read
cannot be asked for.

Main definitions:

* `Toolpath.CommandLine.Setting` — an option with its value;
* `Toolpath.CommandLine.writtenArguments` — settings and operands as arguments;
* `Toolpath.CommandLine.AnalysisOptions.written` — the arguments that ask for reports.

Main results:

* `Toolpath.CommandLine.wholeNumber?_toString` — a whole number is read back;
* `Toolpath.CommandLine.request_writtenArguments` — settings are made one after another;
* `Toolpath.CommandLine.analysisRequest_written` — **all options and paths can be asked for**.
-/

import Toolpath.CommandLine.Options
import Toolpath.Proofs.FixedPlaces

set_option relaxedAutoImplicit false
set_option autoImplicit false

namespace Toolpath.CommandLine

open Text

/-! ### Whole numbers -/

/-- A character of a whole number: a minus sign or a digit. -/
def IsNumeric (c : Char) : Prop := c = '-' ∨ c.isDigit = true

theorem IsNumeric.toNat_le {c : Char} (h : IsNumeric c) : 45 ≤ c.toNat ∧ c.toNat ≤ 57 := by
  rcases h with rfl | hdigit
  · decide
  · obtain ⟨hlow, hhigh⟩ : 48 ≤ c.toNat ∧ c.toNat ≤ 57 := Char.isDigit_iff_toNat.1 hdigit
    omega

theorem IsNumeric.plainCharacter_eq {c : Char} (h : IsNumeric c) : plainCharacter c = c := by
  have hascii : c.toNat < asciiLimit := h.toNat_le.2.trans_lt (by decide)
  rw [plainCharacter, if_pos hascii]

theorem IsNumeric.isPlainBlank_eq {c : Char} (h : IsNumeric c) : isPlainBlank c = false := by
  have hlow := h.toNat_le.1
  have hspace : c ≠ ' ' := by
    rintro rfl
    exact absurd hlow (by decide)
  have hreturn : ¬ c ≤ '\r' := by
    intro hle
    have hhigh : c.toNat ≤ 13 := hle
    omega
  simp [isPlainBlank, hspace, hreturn]

theorem IsNumeric.ne_underscore {c : Char} (h : IsNumeric c) : c ≠ '_' := by
  rintro rfl
  exact absurd h.toNat_le.2 (by decide)

/-- Underscores are all that is dropped. -/
theorem dropUnderscores?_eq_self {text : List Char} (h : '_' ∉ text) (afterDigit : Bool) :
    dropUnderscores? afterDigit text = some text := by
  induction text generalizing afterDigit with
  | nil => rfl
  | cons c rest ih =>
      obtain ⟨hc, hrest⟩ := not_or.1 (mt List.mem_cons.2 h)
      rw [dropUnderscores?.eq_def]
      dsimp only
      rw [if_neg (Ne.symm hc), ih hrest]
      rfl

/-- A text of digits and signs is that of a number as it is. -/
theorem plainNumber?_eq_self {text : List Char} (h : ∀ c ∈ text, IsNumeric c) :
    plainNumber? text = some text := by
  have hplain : text.map plainCharacter = text := by
    conv_rhs => rw [← List.map_id text]
    exact List.map_congr_left fun c hc => (h c hc).plainCharacter_eq
  have hdrop : ∀ chars : List Char, (∀ c ∈ chars, c ∈ text) →
      chars.dropWhile isPlainBlank = chars := by
    intro chars hchars
    cases chars with
    | nil => rfl
    | cons c rest =>
        rw [List.dropWhile_cons_of_neg]
        simp [(h c (hchars c List.mem_cons_self)).isPlainBlank_eq]
  rw [plainNumber?, hplain, hdrop text (fun c hc => hc),
    hdrop text.reverse (fun c hc => List.mem_reverse.1 hc), List.reverse_reverse]
  exact dropUnderscores?_eq_self (fun hmem => (h '_' hmem).ne_underscore rfl) false

/-- Digits that are not too many are read. -/
theorem readNumber_toDigits {n : Nat} (h : n < 10 ^ maxDigits) :
    readNumber (Nat.toDigits 10 n) = .ok n := by
  have hall : (Nat.toDigits 10 n).all isDecimalDigit = true :=
    List.all_eq_true.2 fun _ hc => isDecimalDigit_of_mem_toDigits hc
  have hlength : (Nat.toDigits 10 n).length ≤ maxDigits :=
    (Nat.length_toDigits_le_iff (by decide) (by decide)).2 h
  rw [readNumber, hall, if_neg (by decide), if_neg (Nat.not_lt.2 hlength), digitsValue_toDigits]

/-- Digits after a sign, or after none, write the number with the sign. -/
theorem signedNumber?_digits {n : Nat} (h : n < 10 ^ maxDigits) (negative : Bool) :
    signedNumber? ((if negative then ['-'] else []) ++ Nat.toDigits 10 n) =
      some (Binary64.signed negative n) := by
  have hread : Numeral.readSign ((if negative then ['-'] else []) ++ Nat.toDigits 10 n) =
      (if negative then some '-' else none, Nat.toDigits 10 n) := by
    cases negative with
    | true => rfl
    | false =>
        refine Numeral.readSign_of_head ?_
        intro c hc
        have hdigit : c.isDigit = true :=
          Nat.isDigit_of_mem_toDigits (by decide) (by decide) (List.mem_of_mem_head? hc)
        constructor <;> rintro rfl <;> exact absurd hdigit (by decide)
  have hne : (Nat.toDigits 10 n).isEmpty = false := List.isEmpty_eq_false_iff.2 Nat.toDigits_ne_nil
  rw [signedNumber?, hread]
  dsimp only
  rw [hne, readNumber_toDigits h]
  cases negative <;> rfl

/-- How a whole number is written. -/
theorem toList_toString (n : Int) :
    (toString n).toList = (if n < 0 then ['-'] else []) ++ Nat.toDigits 10 n.natAbs := by
  rw [Int.toString_eq_repr, Int.repr_eq_if]
  split
  · rename_i hn
    have habs : n.toNat = n.natAbs := by omega
    rw [if_neg (Int.not_lt.2 hn), Nat.toList_repr, habs, List.nil_append]
  · rename_i hn
    have habs : (-n).toNat = n.natAbs := by omega
    rw [if_pos (Int.not_le.1 hn), String.toList_append, Nat.toList_repr, habs]
    rfl

/-- **A whole number is read back**, unless it has too many digits. -/
theorem wholeNumber?_toString {n : Int} (h : n.natAbs < 10 ^ maxDigits) :
    wholeNumber? (toString n) = some n := by
  have hnumeric : ∀ c ∈ (toString n).toList, IsNumeric c := by
    intro c hc
    rw [toList_toString] at hc
    rcases List.mem_append.1 hc with hsign | hdigits
    · split at hsign
      · exact .inl (List.mem_singleton.1 hsign)
      · exact absurd hsign List.not_mem_nil
    · exact .inr (Nat.isDigit_of_mem_toDigits (by decide) (by decide) hdigits)
  have hsigned : Binary64.signed (decide (n < 0)) n.natAbs = n := by
    rw [Binary64.signed]
    split <;> rename_i hn <;> simp at hn <;> omega
  rw [wholeNumber?, plainNumber?_eq_self hnumeric, Option.bind_some, toList_toString]
  have hread := signedNumber?_digits h (decide (n < 0))
  rw [hsigned] at hread
  simpa using hread

/-! ### Settings -/

section Settings

variable {κ σ : Type} {rules : List (Rule κ)} {effect : σ → κ → Option String → Effect σ}

/-- An option is found by its name, which can be told from a value and from two dashes alone. -/
structure Rule.Named (rules : List (Rule κ)) (rule : Rule κ) : Prop where
  found : rules.find? (fun other => other.name.toList == rule.name.toList) = some rule
  name_ne : rule.name ≠ ""
  noEquals : '=' ∉ rule.name.toList

/-- An option with the text of its value, if it has one. -/
structure Setting (κ : Type) where
  rule : Rule κ
  value : Option String := none

namespace Setting

/-- How a setting is written. -/
def text (setting : Setting κ) : String :=
  "--" ++ setting.rule.name ++ (setting.value.map ("=" ++ ·)).getD ""

/-- What a setting is as an argument. -/
def argument (setting : Setting κ) : Argument κ := .named setting.rule setting.value

/-- What a setting says. -/
def item (setting : Setting κ) : Item κ := .option setting.rule.key (setting.value.bind givenValue?)

/-- A setting is one of an option by its name, and has a value exactly if the option has one. -/
structure Fits (rules : List (Rule κ)) (setting : Setting κ) : Prop where
  named : setting.rule.Named rules
  value_eq : setting.value.isSome = setting.rule.hasValue

variable {setting : Setting κ}

theorem toList_text (setting : Setting κ) : setting.text.toList =
    '-' :: '-' ::
      (setting.rule.name.toList ++ ((setting.value.map ("=" ++ ·)).getD "").toList) := by
  rw [text, String.toList_append, String.toList_append, List.append_assoc]
  rfl

theorem Fits.text_ne (h : setting.Fits rules) : setting.text ≠ "--" := by
  intro heq
  have hlist := congrArg String.toList heq
  rw [toList_text] at hlist
  have hnil : setting.rule.name.toList ++ ((setting.value.map ("=" ++ ·)).getD "").toList = [] := by
    simpa using hlist
  exact h.named.name_ne (String.toList_eq_nil_iff.1 (List.append_eq_nil_iff.1 hnil).1)

/-- The value starts after the first equals sign. -/
theorem Fits.argument?_text (h : setting.Fits rules) :
    argument? rules setting.text = some setting.argument := by
  obtain ⟨rule, value⟩ := setting
  have hname : ∀ c ∈ rule.name.toList, (c != '=') = true := by
    intro c hc
    simp only [bne_iff_ne]
    rintro rfl
    exact h.named.noEquals hc
  have hrest : (((value.map ("=" ++ ·)).getD "").toList.takeWhile (· != '=') = []) ∧
      (((value.map ("=" ++ ·)).getD "").toList.dropWhile (· != '=')).tail?.map String.ofList =
        value := by
    cases value <;> simp
  rw [argument?, toList_text]
  dsimp only
  rw [namedArgument?]
  simp only [List.drop_succ_cons, List.drop_zero]
  rw [List.takeWhile_append_of_pos hname, List.dropWhile_append_of_pos hname, hrest.1, hrest.2,
    List.append_nil, rulesOfName, h.named.found]
  rfl

end Setting

/-- Settings and operands as arguments. -/
def writtenArguments (settings : List (Setting κ)) (operands : List String) : List String :=
  settings.map Setting.text ++ "--" :: operands

/-- What settings and operands are as arguments. -/
theorem arguments?_writtenArguments {settings : List (Setting κ)}
    (h : ∀ setting ∈ settings, setting.Fits rules) (operands : List String) :
    arguments? rules (writtenArguments settings operands) =
      some (settings.map Setting.argument ++ .terminator :: operands.map Argument.operand) := by
  induction settings with
  | nil => rfl
  | cons setting rest ih =>
      obtain ⟨hsetting, hrest⟩ := List.forall_mem_cons.1 h
      rw [writtenArguments] at ih ⊢
      rw [List.map_cons, List.cons_append, arguments?, if_neg hsetting.text_ne,
        hsetting.argument?_text, ih hrest]
      rfl

/-- What operands say. -/
theorem items_operands (operands : List String) {row : Row} (hrow : row ≠ .after) :
    items rules row (operands.map Argument.operand) = operands.map Item.operand := by
  induction operands generalizing row with
  | nil =>
      rw [List.map_nil, items]
      rfl
  | cons text rest ih =>
      have hextend : row.extend = .within := by
        cases row
        · rfl
        · rfl
        · contradiction
      rw [List.map_cons, items, operandItem, if_neg hrow, hextend, ih (by decide)]
      rfl

/-- A setting before what is no operand says what it is. -/
theorem items_setting {setting : Setting κ} (h : setting.value.isSome = setting.rule.hasValue)
    {rest : List (Argument κ)} (hrest : ∀ text others, rest ≠ .operand text :: others) :
    items rules .before (setting.argument :: rest) =
      setting.item :: items rules .before rest := by
  obtain ⟨rule, value⟩ := setting
  cases value with
  | some value =>
      have hvalue : rule.hasValue = true := h.symm
      rw [Setting.argument, items, if_pos hvalue]
      rfl
  | none =>
      have hvalue : rule.hasValue = false := h.symm
      rw [Setting.argument, items]
      · rw [hvalue]
        rfl
      · intro text others heq
        exact hrest text others heq

/-- What settings say, and the operands after them. -/
theorem items_writtenArguments {settings : List (Setting κ)}
    (h : ∀ setting ∈ settings, setting.Fits rules) {operands : List String}
    (hoperands : operands ≠ []) :
    items rules .before
        (settings.map Setting.argument ++ .terminator :: operands.map Argument.operand) =
      settings.map Setting.item ++ operands.map Item.operand := by
  induction settings with
  | nil =>
      have hsome : (operands.map Argument.operand : List (Argument κ)).isEmpty = false := by
        simpa using hoperands
      rw [List.map_nil, List.nil_append, items, hsome]
      exact items_operands operands (by decide)
  | cons setting rest ih =>
      obtain ⟨hsetting, hrest⟩ := List.forall_mem_cons.1 h
      rw [List.map_cons, List.cons_append, items_setting hsetting.value_eq, ih hrest]
      · rfl
      · intro text others
        cases rest <;> simp [Setting.argument]

/-! ### Requests -/

/-- The settings that an option leads to. -/
def Effect.settings? : Effect σ → Option σ
  | .set settings => some settings
  | _ => none

/-- What a setting leads to. -/
def Setting.leadsTo? (effect : σ → κ → Option String → Effect σ) (settings : σ)
    (setting : Setting κ) : Option σ :=
  (effect settings setting.rule.key (setting.value.bind givenValue?)).settings?

/-- Operands are gathered. -/
theorem follow_operands (settings : σ) (before operands : List String) :
    follow effect true settings before false (operands.map Item.operand) =
      if (before ++ operands).isEmpty then .rejected
      else .accepted settings (before ++ operands) := by
  induction operands generalizing before with
  | nil =>
      rw [List.map_nil, follow, List.append_nil]
      rfl
  | cons text rest ih =>
      rw [List.map_cons, follow, ih, List.append_assoc]
      rfl

/-- Settings are made one after another. -/
theorem follow_settings {settings : List (Setting κ)} {first last : σ}
    (h : settings.foldlM (Setting.leadsTo? effect) first = some last) (rest : List (Item κ)) :
    follow effect true first [] false (settings.map Setting.item ++ rest) =
      follow effect true last [] false rest := by
  induction settings generalizing first with
  | nil =>
      obtain rfl := Option.some.inj h
      rfl
  | cons setting others ih =>
      rw [List.foldlM_cons] at h
      obtain ⟨next, hnext, hothers⟩ := Option.bind_eq_some_iff.1 h
      rw [Setting.leadsTo?] at hnext
      rw [List.map_cons, List.cons_append, Setting.item, follow]
      cases heffect : effect first setting.rule.key (setting.value.bind givenValue?) with
      | set own =>
          rw [heffect] at hnext
          obtain rfl := Option.some.inj hnext
          exact ih hothers
      | help =>
          rw [heffect] at hnext
          cases hnext
      | invalid =>
          rw [heffect] at hnext
          cases hnext

/-- **Settings that are written are made one after another, and the operands are kept.** -/
theorem request_writtenArguments {settings : List (Setting κ)} {first last : σ}
    (h : ∀ setting ∈ settings, setting.Fits rules)
    (hlast : settings.foldlM (Setting.leadsTo? effect) first = some last)
    {operands : List String} (hoperands : operands ≠ []) :
    request rules effect true first (writtenArguments settings operands) =
      .accepted last operands := by
  rw [request, arguments?_writtenArguments h]
  dsimp only
  rw [if_pos rfl, items_writtenArguments h hoperands, follow_settings hlast, follow_operands,
    List.nil_append, if_neg (by simpa using hoperands)]

end Settings

/-! ### Options of the analysis -/

/-- How a limit is set: an unlimited list needs no setting, and two dashes leave the count out. -/
def limitSettings : Limit → List (Setting AnalysisKey)
  | .unlimited => []
  | .upTo count => [⟨⟨.maxErrors, "max-errors", true, none⟩, some (toString count)⟩]
  | .blank => [⟨⟨.maxErrors, "max-errors", true, none⟩, some "--"⟩]

/-- How a flag is set. -/
def flagSettings (rule : Rule AnalysisKey) (flag : Bool) : List (Setting AnalysisKey) :=
  if flag then [⟨rule, none⟩] else []

namespace AnalysisOptions

/-- The settings that lead to options. -/
def settings (options : AnalysisOptions) : List (Setting AnalysisKey) :=
  flagSettings ⟨.hideRedundant, "hide-redundant", false, none⟩ options.listing.hidden.redundant ++
    flagSettings ⟨.hideDuplicates, "hide-duplicates", false, none⟩
      options.listing.hidden.duplicate ++
    limitSettings options.listing.limit ++
    flagSettings ⟨.verbose, "verbose", false, some 'v'⟩ options.verbose

/-- The arguments that ask for reports on what operands stand for. -/
def written (options : AnalysisOptions) (operands : List String) : List String :=
  writtenArguments options.settings operands

/-- A count that a list is limited to does not have too many digits. -/
def CountFits (options : AnalysisOptions) : Prop :=
  ∀ count, options.listing.limit = .upTo count → count.natAbs < 10 ^ maxDigits

variable {options : AnalysisOptions}

/-- The options of the analysis are found by their names. -/
theorem named_of_mem_analysisRules {rule : Rule AnalysisKey} (h : rule ∈ analysisRules) :
    rule.Named analysisRules := by
  simp only [analysisRules, List.mem_cons, List.not_mem_nil, or_false] at h
  rcases h with rfl | rfl | rfl | rfl | rfl <;> exact ⟨rfl, by decide, by decide⟩

theorem fits_of_mem_flagSettings {rule : Rule AnalysisKey} {flag : Bool}
    (hrule : rule ∈ analysisRules) (hvalue : rule.hasValue = false)
    {setting : Setting AnalysisKey} (h : setting ∈ flagSettings rule flag) :
    setting.Fits analysisRules := by
  rw [flagSettings] at h
  split at h
  · obtain rfl := List.mem_singleton.1 h
    exact ⟨named_of_mem_analysisRules hrule, hvalue.symm⟩
  · exact absurd h List.not_mem_nil

theorem fits_of_mem_limitSettings {limit : Limit} {setting : Setting AnalysisKey}
    (h : setting ∈ limitSettings limit) : setting.Fits analysisRules := by
  have hnamed : (⟨.maxErrors, "max-errors", true, none⟩ : Rule AnalysisKey).Named analysisRules :=
    named_of_mem_analysisRules (by simp [analysisRules])
  cases limit with
  | unlimited => exact absurd h List.not_mem_nil
  | upTo count =>
      obtain rfl := List.mem_singleton.1 h
      exact ⟨hnamed, rfl⟩
  | blank =>
      obtain rfl := List.mem_singleton.1 h
      exact ⟨hnamed, rfl⟩

/-- All settings are those of options of the analysis. -/
theorem fits_of_mem_settings {setting : Setting AnalysisKey} (h : setting ∈ options.settings) :
    setting.Fits analysisRules := by
  simp only [settings, List.mem_append] at h
  rcases h with ((hredundant | hduplicate) | hlimit) | hverbose
  · exact fits_of_mem_flagSettings (by simp [analysisRules]) rfl hredundant
  · exact fits_of_mem_flagSettings (by simp [analysisRules]) rfl hduplicate
  · exact fits_of_mem_limitSettings hlimit
  · exact fits_of_mem_flagSettings (by simp [analysisRules]) rfl hverbose

/-- The text of a number is not left out. -/
theorem givenValue?_toString {count : Int} (h : count.natAbs < 10 ^ maxDigits) :
    givenValue? (toString count) = some (toString count) := by
  refine if_neg ?_
  intro heq
  have hread := wholeNumber?_toString h
  have hdashes : wholeNumber? "--" = none := by decide
  rw [heq, hdashes] at hread
  cases hread

/-- A flag is set, or kept as it is. -/
theorem foldlM_flagSettings {rule : Rule AnalysisKey} {flag : Bool} {first last : AnalysisOptions}
    (hset : flag = true → analysisEffect first rule.key none = .set last)
    (hkept : flag = false → first = last) :
    (flagSettings rule flag).foldlM (Setting.leadsTo? analysisEffect) first = some last := by
  cases flag with
  | true =>
      rw [flagSettings, if_pos rfl, List.foldlM_cons, Setting.leadsTo?, Option.bind_none, hset rfl]
      rfl
  | false =>
      rw [hkept rfl]
      rfl

/-- A limit is set, whatever it is. -/
theorem foldlM_limitSettings {limit : Limit} {first : AnalysisOptions}
    (h : ∀ count, limit = .upTo count → count.natAbs < 10 ^ maxDigits)
    (hfirst : first.listing.limit = .unlimited) :
    (limitSettings limit).foldlM (Setting.leadsTo? analysisEffect) first =
      some { first with listing.limit := limit } := by
  obtain ⟨⟨hidden, limitBefore⟩, verbose⟩ := first
  cases limit with
  | unlimited =>
      obtain rfl : limitBefore = .unlimited := hfirst
      rfl
  | blank => rfl
  | upTo count =>
      have hcount := h count rfl
      rw [limitSettings, List.foldlM_cons, Setting.leadsTo?, Option.bind_some,
        givenValue?_toString hcount, analysisEffect, Effect.ofText]
      dsimp only
      rw [wholeNumber?_toString hcount]
      rfl

/-- The settings lead to the options. -/
theorem foldlM_settings (h : options.CountFits) :
    options.settings.foldlM (Setting.leadsTo? analysisEffect) {} = some options := by
  obtain ⟨⟨⟨redundant, duplicate⟩, limit⟩, verbose⟩ := options
  have hredundant : (flagSettings ⟨.hideRedundant, "hide-redundant", false, none⟩ redundant).foldlM
      (Setting.leadsTo? analysisEffect) {} = some ⟨⟨⟨redundant, false⟩, .unlimited⟩, false⟩ := by
    refine foldlM_flagSettings ?_ ?_ <;> rintro rfl <;> rfl
  have hduplicate : (flagSettings ⟨.hideDuplicates, "hide-duplicates", false, none⟩
      duplicate).foldlM (Setting.leadsTo? analysisEffect)
        ⟨⟨⟨redundant, false⟩, .unlimited⟩, false⟩ =
      some ⟨⟨⟨redundant, duplicate⟩, .unlimited⟩, false⟩ := by
    refine foldlM_flagSettings ?_ ?_ <;> rintro rfl <;> rfl
  have hlimit : (limitSettings limit).foldlM (Setting.leadsTo? analysisEffect)
      ⟨⟨⟨redundant, duplicate⟩, .unlimited⟩, false⟩ =
        some ⟨⟨⟨redundant, duplicate⟩, limit⟩, false⟩ := foldlM_limitSettings h rfl
  have hverbose : (flagSettings ⟨.verbose, "verbose", false, some 'v'⟩ verbose).foldlM
      (Setting.leadsTo? analysisEffect) ⟨⟨⟨redundant, duplicate⟩, limit⟩, false⟩ =
        some ⟨⟨⟨redundant, duplicate⟩, limit⟩, verbose⟩ := by
    refine foldlM_flagSettings ?_ ?_ <;> rintro rfl <;> rfl
  simp only [settings, List.foldlM_append, hredundant, hduplicate, hlimit, hverbose,
    Option.bind_eq_bind, Option.bind_some]

/-- **All options and paths can be asked for.** -/
theorem analysisRequest_written (h : options.CountFits) {operands : List String}
    (hoperands : operands ≠ []) :
    analysisRequest (options.written operands) = .accepted options operands :=
  request_writtenArguments (fun _ => fits_of_mem_settings) (foldlM_settings h) hoperands

end AnalysisOptions

end Toolpath.CommandLine
