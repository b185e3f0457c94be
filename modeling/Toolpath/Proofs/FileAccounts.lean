/-
**The account that a command line gives of its files.**

Every path that the operands stand for is either that of a file, which is then reported on, or it is
held against the status.  The output is one report after another; what a report says depends on the
path, the bytes of the file there and the options, and on no other file.  A report hides diagnostics
of two kinds, which no diagnostic is both of, lists the first of the others, and counts what it
hides and what it leaves out: so all diagnostics of the program are accounted for.

Main definitions:

* `Toolpath.Tally` — what a report says about diagnostics;
* `Toolpath.Files.contents?` — the bytes that there are to read at a path;
* `Toolpath.reportText` — the text of a report, from a path, bytes and options alone;
* `Toolpath.Session.Accounts` — how an answer accounts for the files at paths.

Main results:

* `Toolpath.Diagnostic.not_both_kinds` — no diagnostic is of both kinds that can be hidden;
* `Toolpath.complete_tally` — **the counts of a report add up to all diagnostics**;
* `Toolpath.Session.accountsForFiles` — **a command line accounts for every file and every
  diagnostic**.
-/

import Toolpath.Proofs.PathText
import Toolpath.Proofs.RunTime
import Toolpath.Proofs.WrittenArguments

set_option relaxedAutoImplicit false
set_option autoImplicit false

namespace Toolpath

/-! ### Diagnostics that are hidden -/

/-- The messages of the two kinds start with different letters. -/
theorem Diagnostic.not_both_kinds (d : Diagnostic) :
    ¬ (d.isRedundantMove = true ∧ d.isDuplicateToolpath = true) := by
  rintro ⟨hredundant, hduplicate⟩
  rw [isRedundantMove, startsWith, List.isPrefixOf_iff_prefix] at hredundant
  rw [isDuplicateToolpath, startsWith, List.isPrefixOf_iff_prefix] at hduplicate
  obtain ⟨rest, hrest⟩ := hredundant
  obtain ⟨other, hother⟩ := hduplicate
  have hhead := congrArg List.head? (hrest.trans hother.symm)
  have hletters : some 'R' = some 'D' := hhead
  exact absurd hletters (by decide)

/-- What is hidden is counted kind by kind. -/
theorem Analysis.Hidden.countP_hides (hidden : Hidden) (ds : List Diagnostic) :
    ds.countP hidden.hides =
      (if hidden.redundant then ds.countP Diagnostic.isRedundantMove else 0) +
        if hidden.duplicate then ds.countP Diagnostic.isDuplicateToolpath else 0 := by
  induction ds with
  | nil => simp
  | cons d rest ih =>
      have hkinds := d.not_both_kinds
      rw [List.countP_cons, List.countP_cons, List.countP_cons, ih, hides]
      obtain ⟨redundant, duplicate⟩ := hidden
      cases redundant <;> cases duplicate <;> cases hr : d.isRedundantMove <;>
        cases hd : d.isDuplicateToolpath <;> simp_all <;> omega

/-- A diagnostic is visible or hidden. -/
theorem Analysis.length_visible_add (analysis : Analysis) (hidden : Hidden) :
    (analysis.visible hidden).length + analysis.diagnostics.countP hidden.hides =
      analysis.diagnostics.length := by
  rw [visible, ← List.countP_eq_length_filter, Nat.add_comm]
  simpa using (List.length_eq_countP_add_countP hidden.hides (l := analysis.diagnostics)).symm

/-! ### What a report lists -/

/-- What a report says about diagnostics. -/
structure Tally where
  /-- How many are hidden. -/
  filtered : Nat
  listed : List Diagnostic
  /-- How many are left out after those that are listed. -/
  more : Nat

namespace Tally

/-- The lines of a report about diagnostics.  A count of zero has no line. -/
def lines (tally : Tally) : List String :=
  countedLine tally.filtered (fun count => "(" ++ count ++ " filtered)") ++
    tally.listed.map (fun d => "  " ++ d.text) ++
    countedLine tally.more fun count => "  ... " ++ count ++ " more"

/-- All diagnostics of a program are accounted for. -/
structure Complete (tally : Tally) (analysis : Analysis) (listing : Listing) : Prop where
  /-- The first of those that are not hidden are listed, in the order of detection. -/
  listed_starts : tally.listed <+: analysis.visible listing.hidden
  /-- Without a limit all of them are listed. -/
  listed_unlimited : listing.limit = .unlimited → tally.listed = analysis.visible listing.hidden
  /-- A count limits how many are listed; a negative one, how many are left out. -/
  listed_upTo : ∀ count, listing.limit = .upTo count → (tally.listed.length : Int) =
    if count < 0 then max 0 ((analysis.visible listing.hidden).length + count)
    else min count (analysis.visible listing.hidden).length
  /-- Both kinds are counted if they are hidden. -/
  filtered_eq : tally.filtered =
    (if listing.hidden.redundant then analysis.diagnostics.countP Diagnostic.isRedundantMove
      else 0) +
      if listing.hidden.duplicate then analysis.diagnostics.countP Diagnostic.isDuplicateToolpath
      else 0
  total : tally.listed.length + tally.more + tally.filtered = analysis.diagnostics.length

end Tally

/-- What the report about a program says about its diagnostics. -/
def Analysis.tally (analysis : Analysis) (listing : Listing) : Tally where
  filtered := analysis.diagnostics.length - (analysis.visible listing.hidden).length
  listed := analysis.listed listing
  more := (analysis.visible listing.hidden).length - (analysis.listed listing).length

/-- How many a count leaves of a list. -/
theorem Limit.length_take_upTo {α : Type} (count : Int) (xs : List α) :
    (((Limit.upTo count).take xs).length : Int) =
      if count < 0 then max 0 (xs.length + count) else min count xs.length := by
  rw [take]
  split
  · rw [List.length_take]
    omega
  · rw [List.length_take]
    omega

/-- **The counts of a report add up to all diagnostics.** -/
theorem complete_tally (analysis : Analysis) (listing : Listing) :
    (analysis.tally listing).Complete analysis listing := by
  have hlisted : analysis.listed listing <+: analysis.visible listing.hidden :=
    listing.limit.take_isPrefix _
  have hsplit := analysis.length_visible_add listing.hidden
  refine ⟨hlisted, ?_, ?_, ?_, ?_⟩
  · intro hlimit
    rw [Analysis.tally, Analysis.listed, hlimit]
    rfl
  · intro count hlimit
    rw [Analysis.tally, Analysis.listed, hlimit]
    exact Limit.length_take_upTo count _
  · rw [← listing.hidden.countP_hides, Analysis.tally]
    dsimp only
    omega
  · have hle := hlisted.length_le
    rw [Analysis.tally]
    dsimp only
    omega

/-- A report is a heading with the summary of the program, and the tally of its diagnostics. -/
theorem exists_summary_of_report [Numerics] {path : Path} {analysis : Analysis}
    {listing : Listing} {lines : List String} (h : report path analysis listing = .ok lines) :
    ∃ summary, analysis.summary = .ok summary ∧
      lines = [ruler, path.text, ruler, summary] ++ (analysis.tally listing).lines ++ [""] := by
  cases hsummary : analysis.summary with
  | error error =>
      rw [report_of_no_summary hsummary] at h
      cases h
  | ok summary =>
      rw [report, hsummary] at h
      split at h
      · contradiction
      · cases h
      · cases h
        rename_i heq _
        obtain rfl := Except.ok.inj heq
        exact ⟨_, rfl, rfl⟩

/-! ### Files -/

/-- A path is blank if its text is. -/
def Path.IsBlank (path : Path) : Prop := ∀ c ∈ path.text.toList, Text.isBlank c = true

/-- Nothing but blanks is trimmed away altogether. -/
theorem Text.trim_eq_nil_iff (text : List Char) :
    trim text = [] ↔ ∀ c ∈ text, isBlank c = true := by
  rw [trim, trimEnd, List.reverse_eq_nil_iff, List.dropWhile_eq_nil_iff]
  simp only [List.mem_reverse]
  constructor
  · intro h c hc
    by_contra hblank
    cases hdrop : text.dropWhile isBlank with
    | nil => exact hblank (List.dropWhile_eq_nil_iff.1 hdrop c hc)
    | cons d rest =>
        have hd : isBlank d = true := h d (by rw [hdrop]; exact List.mem_cons_self)
        have hhead := List.head?_dropWhile_not isBlank text
        rw [hdrop] at hhead
        simp [hd] at hhead
  · intro h c hc
    exact h c ((List.dropWhile_sublist isBlank).mem hc)

/-- The bytes that there are to read at a path: those of the file there, unless the path is
blank. -/
def Files.contents? (files : Files) (path : Path) : Option (List UInt8) :=
  if (Text.trim path.text.toList).isEmpty then none
  else
    match files.find? path with
    | some (.file bytes) => some bytes
    | _ => none

namespace Files

variable {files : Files} {path : Path}

/-- There is something to read at a path that is not blank and where there is a file. -/
theorem contents?_eq_some_iff {bytes : List UInt8} : files.contents? path = some bytes ↔
    ¬ path.IsBlank ∧ files.find? path = some (.file bytes) := by
  rw [Path.IsBlank, ← Text.trim_eq_nil_iff, contents?, ← List.isEmpty_iff]
  split
  · rename_i hblank
    simp [hblank]
  · rename_i hblank
    split
    · rename_i own hfile
      simp [hblank, hfile]
    · rename_i hnone
      simp only [reduceCtorEq, false_iff, not_and]
      exact fun _ => hnone bytes

/-- There is nothing to read at a blank path, and where there is no file. -/
theorem contents?_eq_none_iff : files.contents? path = none ↔
    path.IsBlank ∨ ∀ bytes, files.find? path ≠ some (.file bytes) := by
  rw [Option.eq_none_iff_forall_ne_some]
  simp only [ne_eq, contents?_eq_some_iff, not_and]
  by_cases hblank : path.IsBlank
  · simp [hblank]
  · simp [hblank]

/-- The program that is read at a proper path is that of the file there. -/
theorem readProgram_text {bytes : List UInt8} (hpath : path.Proper)
    (h : files.contents? path = some bytes) :
    files.readProgram path.text = .ok (textOfBytes bytes) := by
  obtain ⟨hblank, hfile⟩ := contents?_eq_some_iff.1 h
  refine readProgram_of_file ?_ ?_
  · rwa [ne_eq, Text.trim_eq_nil_iff]
  · rwa [Path.ofString_text hpath]

/-- Where there is nothing to read, no program is read. -/
theorem readProgram_text_of_none (hpath : path.Proper) (h : files.contents? path = none) :
    ∃ error, files.readProgram path.text = .error error := by
  rw [readProgram, Path.ofString_text hpath]
  rw [contents?] at h
  split
  · exact ⟨_, rfl⟩
  · rename_i hblank
    rw [if_neg hblank] at h
    split
    · rename_i bytes hfile
      rw [hfile] at h
      cases h
    · exact ⟨_, rfl⟩

end Files

/-! ### Reports -/

/-- The report about a program file, from its path and bytes. -/
def reportLines [Numerics] (listing : Listing) (path : Path) (bytes : List UInt8) : List String :=
  (report path (analyzeText {} (textOfBytes bytes)) listing).toOption.getD []

/-- The text of the report about a program file, from its path and bytes. -/
def reportText [Numerics] (listing : Listing) (path : Path) (bytes : List UInt8) : String :=
  Session.textOfLines (reportLines listing path bytes)

/-- A report accounts for all diagnostics of a program. -/
def AccountsForProgram [Numerics] (listing : Listing) (path : Path) (bytes : List UInt8)
    (text : String) : Prop :=
  ∃ (summary : String) (tally : Tally),
    (analyzeText {} (textOfBytes bytes)).summary = .ok summary ∧
    text = Session.textOfLines ([ruler, path.text, ruler, summary] ++ tally.lines ++ [""]) ∧
    tally.Complete (analyzeText {} (textOfBytes bytes)) listing

namespace Session

open CommandLine

variable {files : Files} {listing : Listing} {path : Path} {finding : Finding}

@[simp] theorem textOfLines_nil : textOfLines [] = "" := rfl

theorem textOfLines_append (xs ys : List String) :
    textOfLines (xs ++ ys) = textOfLines xs ++ textOfLines ys := by
  rw [textOfLines, List.map_append, String.join_append]
  rfl

/-! ### Findings -/

section Answers

variable [Numerics]

/-- What is found about a file depends on what there is to read at its path. -/
structure IsFinding (files : Files) (listing : Listing) (path : Path) (finding : Finding) :
    Prop where
  wasRead_eq : finding.wasRead = (files.contents? path).isSome
  text_eq : textOfLines finding.report =
    ((files.contents? path).map (reportText listing path)).getD ""
  /-- Where there is something to read, the report is written. -/
  written : ∀ bytes, files.contents? path = some bytes →
    report path (analyzeText {} (textOfBytes bytes)) listing = .ok (reportLines listing path bytes)

theorem isFinding_of_examine (hpath : path.Proper)
    (h : examine {} files listing path = .ok finding) : IsFinding files listing path finding := by
  rw [examine] at h
  cases hcontents : files.contents? path with
  | none =>
      obtain ⟨error, herror⟩ := Files.readProgram_text_of_none hpath hcontents
      rw [herror] at h
      cases h
      refine ⟨?_, ?_, ?_⟩
      · rw [hcontents, Option.isSome_none]
      · rw [hcontents, Option.map_none, Option.getD_none, textOfLines_nil]
      · intro bytes hbytes
        cases hcontents.symm.trans hbytes
  | some bytes =>
      rw [Files.readProgram_text hpath hcontents] at h
      have hexamine : (report path (analyzeText {} (textOfBytes bytes)) listing).map
          (fun lines => (⟨true, lines, .reading path ::
            (Run.ofLines {} (Text.splitLines (textOfBytes bytes))).log {}⟩ : Finding)) =
          .ok finding := h
      cases hreport : report path (analyzeText {} (textOfBytes bytes)) listing with
      | error error =>
          rw [hreport] at hexamine
          cases hexamine
      | ok lines =>
          have hlines : reportLines listing path bytes = lines := by
            rw [reportLines, hreport]
            rfl
          rw [hreport] at hexamine
          cases hexamine
          refine ⟨?_, ?_, ?_⟩
          · rw [hcontents, Option.isSome_some]
          · rw [hcontents, Option.map_some, Option.getD_some, reportText, hlines]
          · intro own hown
            obtain rfl : bytes = own := Option.some.inj (hcontents.symm.trans hown)
            rw [hreport, hlines]

/-- A report that is written accounts for all diagnostics. -/
theorem IsFinding.accountsForProgram (h : IsFinding files listing path finding) {bytes : List UInt8}
    (hbytes : files.contents? path = some bytes) :
    AccountsForProgram listing path bytes (reportText listing path bytes) := by
  obtain ⟨summary, hsummary, hlines⟩ := exists_summary_of_report (h.written bytes hbytes)
  refine ⟨summary, _, hsummary, ?_, complete_tally _ _⟩
  rw [reportText, hlines]

/-! ### Answers -/

/-- How an answer accounts for the files at paths. -/
structure Accounts (files : Files) (listing : Listing) (paths : List Path) (answer : Response) :
    Prop where
  /-- The status is one if a path is blank or no file is there. -/
  status_one : answer.status = 1 ↔
    ∃ path ∈ paths, path.IsBlank ∨ ∀ bytes, files.find? path ≠ some (.file bytes)
  /-- The status is zero otherwise. -/
  status_zero : answer.status = 0 ↔
    ¬ ∃ path ∈ paths, path.IsBlank ∨ ∀ bytes, files.find? path ≠ some (.file bytes)
  /-- The output is the reports about the other paths, one after another. -/
  output_eq : ∃ allRead output log, answer = .finished allRead output log ∧
    textOfLines output =
      String.join (paths.filterMap fun path => (files.contents? path).map (reportText listing path))
  /-- Every report accounts for all diagnostics of its program. -/
  programs : ∀ path ∈ paths, ∀ bytes, files.contents? path = some bytes →
    AccountsForProgram listing path bytes (reportText listing path bytes)

section Findings

variable {paths : List Path} {findings : List Finding}

/-- All files are read exactly if no path is blank and there is a file at each. -/
theorem all_wasRead_iff (h : List.Forall₂ (IsFinding files listing) paths findings) :
    findings.all Finding.wasRead = true ↔
      ¬ ∃ path ∈ paths, path.IsBlank ∨ ∀ bytes, files.find? path ≠ some (.file bytes) := by
  have hread : findings.all Finding.wasRead =
      paths.all fun path => (files.contents? path).isSome := by
    induction h with
    | nil => rfl
    | cons hfirst hrest ih => rw [List.all_cons, List.all_cons, ih, hfirst.wasRead_eq]
  rw [hread, List.all_eq_true, not_exists]
  refine forall_congr' fun path => ?_
  rw [not_and, Option.isSome_iff_ne_none, ne_eq, Files.contents?_eq_none_iff]

/-- The reports about files stand one after another. -/
theorem textOfLines_findings (h : List.Forall₂ (IsFinding files listing) paths findings) :
    textOfLines (findings.flatMap Finding.report) = String.join
      (paths.filterMap fun path => (files.contents? path).map (reportText listing path)) := by
  induction h with
  | nil => rfl
  | @cons path _ _ _ hfirst hrest ih =>
      rw [List.flatMap_cons, textOfLines_append, ih, hfirst.text_eq, List.filterMap_cons]
      cases files.contents? path with
      | none => rw [Option.map_none, Option.getD_none, String.empty_append]
      | some bytes => rw [Option.map_some, Option.getD_some, String.join_cons]

/-- Findings about all files make up an answer that accounts for them. -/
theorem accounts_ofFindings (verbose : Bool)
    (h : List.Forall₂ (IsFinding files listing) paths findings) :
    Accounts files listing paths (.ofFindings verbose findings) := by
  have hall := all_wasRead_iff h
  have hprograms : List.Forall₂ (fun path finding => (∀ bytes, files.contents? path = some bytes →
      AccountsForProgram listing path bytes (reportText listing path bytes)) ∧
        IsFinding files listing path finding) paths findings :=
    h.imp fun path finding hfinding => ⟨fun _ => hfinding.accountsForProgram, hfinding⟩
  rw [List.forall₂_and_left] at hprograms
  refine ⟨?_, ?_, ⟨_, _, _, rfl, textOfLines_findings h⟩, hprograms.1⟩
  · rw [← not_iff_not, ← hall, Response.ofFindings, Response.status]
    cases findings.all Finding.wasRead <;> decide
  · rw [← hall, Response.ofFindings, Response.status]
    cases findings.all Finding.wasRead <;> decide

end Findings

/-- **A command line accounts for every file and every diagnostic**, however its options and paths
are asked for; and all of them can be asked for. -/
theorem accountsForFiles {files : Files} (hfiles : files.WellNamed) (options : AnalysisOptions)
    (operands : List String) :
    (operands ≠ [] → options.CountFits →
      analysisRequest (options.written operands) = .accepted options operands) ∧
    ∀ arguments, analysisRequest arguments = .accepted options operands →
      (∀ error, respond files arguments ≠ .aborted error) →
        Accounts files options.listing (collect {} files operands) (respond files arguments) := by
  refine ⟨fun hoperands hcount => AnalysisOptions.analysisRequest_written hcount hoperands, ?_⟩
  intro arguments haccepted hwritten
  rw [respond, haccepted] at hwritten ⊢
  dsimp only at hwritten ⊢
  rcases mapM_cases (examine {} files options.listing) (collect {} files operands) with
    ⟨findings, hfindings, hforall⟩ | ⟨path, -, error, -, herror⟩
  · rw [hfindings]
    have hproper : ∀ path ∈ collect {} files operands, path.Proper := fun path hpath =>
      proper_of_mem_collect hfiles hpath
    have hboth := (List.forall₂_and_left ..).2 ⟨hproper, hforall⟩
    exact accounts_ofFindings options.verbose
      (hboth.imp fun path finding h => isFinding_of_examine h.1 h.2)
  · rw [herror] at hwritten
    exact absurd rfl (hwritten error)

end Answers

/-- A folder with two programs and a file that is none. -/
def workshop : FileTree where
  entries :=
    [⟨["jobs", "a.tap"], []⟩,
      ⟨["jobs", "b.nc"], "G1 X1 F9\nG1 X1\nG2 X5\nG2\n".toList.map fun c => UInt8.ofNat c.toNat⟩,
      ⟨["jobs", "notes.txt"], []⟩]

/-- The programs of the folder in alphabetical order, and a path where there is nothing. -/
theorem collect_workshop : collect {} workshop.files ["jobs", "gone.nc"] =
    [⟨.here, ["jobs", "a.tap"]⟩, ⟨.here, ["jobs", "b.nc"]⟩, ⟨.here, ["gone.nc"]⟩] := by
  have hjobs : workshop.files.find? (Path.ofString "jobs") =
      some (.folder ["a.tap", "b.nc", "notes.txt"]) := by decide +kernel
  have hgone : workshop.files.find? (Path.ofString "gone.nc") = none := by decide +kernel
  have hsorted : ["a.tap", "b.nc", "notes.txt"].mergeSort (fun a b => decide (a ≤ b)) =
      ["a.tap", "b.nc", "notes.txt"] := List.mergeSort_of_pairwise (by decide)
  rw [collect, List.flatMap_cons, List.flatMap_cons, List.flatMap_nil, Files.expand, hjobs,
    Files.expand, hgone]
  dsimp only
  rw [Files.programsOf, hsorted]
  decide +kernel

/-- The options of a report without the last of the diagnostics that are no redundant moves. -/
def exceptLast : AnalysisOptions where
  listing := ⟨⟨true, false⟩, .upTo (-1)⟩

section Standard

attribute [local instance] Numerics.standard

/-- The path where there is nothing is held against the status. -/
theorem accountsForFiles_workshop :
    analysisRequest (exceptLast.written ["jobs", "gone.nc"]) =
        .accepted exceptLast ["jobs", "gone.nc"] ∧
      Accounts workshop.files exceptLast.listing (collect {} workshop.files ["jobs", "gone.nc"])
        (respond workshop.files ["--hide-red", "--max-errors=-1", "jobs", "gone.nc"]) ∧
      (respond workshop.files ["--hide-red", "--max-errors=-1", "jobs", "gone.nc"]).status = 1 := by
  have hfiles : workshop.files.WellNamed :=
    FileTree.wellNamed_files (by simp [workshop, Path.ProperName, Path.isName])
  have hcount : exceptLast.CountFits := by
    intro count hlimit
    obtain rfl : -1 = count := Limit.upTo.inj hlimit
    exact Nat.one_lt_pow (by decide) (by decide)
  have haccepted : analysisRequest ["--hide-red", "--max-errors=-1", "jobs", "gone.nc"] =
      .accepted exceptLast ["jobs", "gone.nc"] := by rfl
  have hfound : ((collect {} workshop.files ["jobs", "gone.nc"]).mapM
      (examine {} workshop.files exceptLast.listing)).isOk = true := by
    rw [collect_workshop]
    decide +kernel
  have hwritten : ∀ error,
      respond workshop.files ["--hide-red", "--max-errors=-1", "jobs", "gone.nc"] ≠
        .aborted error := by
    intro error herror
    rw [respond, haccepted] at herror
    dsimp only at herror
    split at herror
    · cases herror
    · rename_i hother
      rw [hother] at hfound
      cases hfound
  obtain ⟨hasked, hanswered⟩ := accountsForFiles hfiles exceptLast ["jobs", "gone.nc"]
  have haccounts := hanswered _ haccepted hwritten
  refine ⟨hasked (by decide) hcount, haccounts, haccounts.status_one.2 ?_⟩
  have hgone : workshop.files.find? ⟨.here, ["gone.nc"]⟩ = none := by decide +kernel
  refine ⟨⟨.here, ["gone.nc"]⟩, ?_, .inr ?_⟩
  · rw [collect_workshop]
    decide
  · rw [hgone]
    simp

end Standard

end Session

end Toolpath
