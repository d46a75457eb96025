import NamedParams.Detector
import NamedParams.Presentation
import NamedParams.Proofs.Presentation.DrawnTables
import NamedParams.Proofs.Presentation.TextLines

namespace NamedParams

open NamedParams.Terminal

namespace Presentation

/-- The lines above the findings. -/
def titleLines (color : Bool) : List String :=
  linesOf (paint color .bold "\nRequired Named Parameter Report") ++
    [String.ofList (List.replicate 60 '=')]

/-- The line for the findings that are not listed. -/
def hiddenLine (color : Bool) (hidden : Nat) : String :=
  paint color .gray ("  ... and " ++ toString hidden ++ " more")

def hiddenLines (color : Bool) (hidden : Nat) : List String :=
  if 0 < hidden then [hiddenLine color hidden] else []

/-- The lines below the findings. -/
def closingLines (color : Bool) (summary : Summary) : List String :=
  ["", paint color .bold "Summary:",
    "  Findings: " ++ (if 0 < summary.total then paint color .red (toString summary.total)
      else paint color .green "0"),
    "  Files with findings: " ++ toString summary.filesWithFindings,
    "  Files analyzed: " ++ toString summary.filesAnalyzed,
    "  Functions analyzed: " ++ toString summary.functionsAnalyzed]

/-- The lines by which findings are listed: none without findings, otherwise a blank line, and then
    each finding on a line of its own, or each finding as a row of a table under its headings. -/
inductive Lists (verbose color : Bool) (directory : List String) :
    List Finding → List String → Prop where
  | nothing : Lists verbose color directory [] []
  | lines {findings : List Finding} (hplain : verbose = false) (hfindings : findings ≠ []) :
      Lists verbose color directory findings
        ("" :: findings.flatMap fun finding => linesOf (line color directory finding))
  | rows {findings : List Finding} {headings : String} {drawn : List String}
      (hverbose : verbose = true) (hfindings : findings ≠ [])
      (hheadings : drawRow columns ["File", "Line", "Function", "Parameter"] = .ok headings)
      (hdrawn : List.Forall₂
        (fun finding drawn => drawRow columns (row directory finding) = .ok drawn)
        findings drawn) :
      Lists verbose color directory findings ("" :: linesOf (framed columns (headings :: drawn)))

variable {options : Presentation} {findings : List Finding}

theorem flatMap_linesOf {pieces : List String} (hpieces : ∀ piece ∈ pieces, IsLine piece) :
    pieces.flatMap linesOf = pieces := by
  rw [List.flatMap_congr fun piece hpiece => (hpieces piece hpiece).linesOf, List.flatMap_singleton']

theorem linesOf_title (color : Bool) :
    [paint color .bold "\nRequired Named Parameter Report",
      String.ofList (List.replicate 60 '=')].flatMap linesOf = titleLines color := by
  have hrule : IsLine (String.ofList (List.replicate 60 '=')) := by decide
  rw [List.flatMap_cons, List.flatMap_singleton, hrule.linesOf, titleLines]

theorem isLine_hiddenLine (color : Bool) (hidden : Nat) : IsLine (hiddenLine color hidden) := by
  have hbefore : IsLine "  ... and " := by decide
  have hafter : IsLine " more" := by decide
  exact ((hbefore.append (isLine_toString hidden)).append hafter).paint color .gray

theorem linesOf_hidden (color : Bool) (hidden : Nat) :
    (hiddenLines color hidden).flatMap linesOf = hiddenLines color hidden := by
  refine flatMap_linesOf fun piece hpiece => ?_
  rw [hiddenLines] at hpiece
  split at hpiece
  · rw [List.mem_singleton.mp hpiece]
    exact isLine_hiddenLine color hidden
  · exact absurd hpiece List.not_mem_nil

theorem linesOf_closing (color : Bool) (summary : Summary) :
    ["\n" ++ paint color .bold "Summary:", summaryLines color summary].flatMap linesOf =
      closingLines color summary := by
  have hheading : linesOf ("\n" ++ paint color .bold "Summary:") =
      ["", paint color .bold "Summary:"] := by
    have hline : IsLine "Summary:" := by decide
    have hblank : IsLine "" := by decide
    rw [← String.empty_append (s := "\n"), linesOf_append, (hline.paint color .bold).linesOf,
      hblank.linesOf, List.singleton_append]
  have htotal : IsLine (if 0 < summary.total then paint color .red (toString summary.total)
      else paint color .green "0") := by
    have hzero : IsLine "0" := by decide
    split
    · exact (isLine_toString _).paint color .red
    · exact hzero.paint color .green
  have hlines : linesOf (summaryLines color summary) = (closingLines color summary).drop 2 := by
    have htexts : ∀ text ∈ ["  Findings: ", "  Files with findings: ", "  Files analyzed: ",
        "  Functions analyzed: "], IsLine text := by decide
    rw [summaryLines, linesOf_intercalate (List.cons_ne_nil _ _), flatMap_linesOf]
    · rfl
    · simp only [List.forall_mem_cons] at htexts ⊢
      exact ⟨htexts.1.append htotal, htexts.2.1.append (isLine_toString _),
        htexts.2.2.1.append (isLine_toString _), htexts.2.2.2.1.append (isLine_toString _),
        htexts.2.2.2.2⟩
  rw [List.flatMap_cons, List.flatMap_singleton, hheading, hlines]
  rfl

theorem findingsTable_eq_ok_iff {directory : List String} {text : String} :
    findingsTable directory findings = .ok text ↔ ∃ headings drawn,
      drawRow columns ["File", "Line", "Function", "Parameter"] = .ok headings ∧
        List.Forall₂ (fun finding drawn => drawRow columns (row directory finding) = .ok drawn)
          findings drawn ∧ framed columns (headings :: drawn) = text := by
  rw [findingsTable, table_eq_ok_iff]
  simp only [List.forall₂_cons_left_iff, List.forall₂_map_left_iff]
  constructor
  · rintro ⟨_, ⟨headings, drawn, hheadings, hdrawn, rfl⟩, htext⟩
    exact ⟨headings, drawn, hheadings, hdrawn, htext⟩
  · rintro ⟨headings, drawn, hheadings, hdrawn, htext⟩
    exact ⟨_, ⟨headings, drawn, hheadings, hdrawn, rfl⟩, htext⟩

/-- The findings under a blank line, if there are any. -/
def block (options : Presentation) (findings : List Finding) : Except TableError (List String) :=
  if findings.isEmpty then .ok [] else do
    let listed ← listing options findings
    return ["", listed]

theorem block_of_ne_nil (hfindings : findings ≠ []) {pieces : List String} :
    block options findings = .ok pieces ↔
      ∃ listed, listing options findings = .ok listed ∧ pieces = ["", listed] := by
  rw [block, if_neg (by simpa using hfindings), bind_eq_ok_iff]
  exact exists_congr fun listed =>
    and_congr_right fun _ => ⟨fun h => (Except.ok.inj h).symm, fun h => congrArg _ h.symm⟩

theorem exists_block_iff {lines : List String} :
    (∃ pieces, block options findings = .ok pieces ∧ pieces.flatMap linesOf = lines) ↔
      Lists options.verbose options.color options.directory findings lines := by
  have hblank : IsLine "" := by decide
  have hlisted (listed : String) : ["", listed].flatMap linesOf = "" :: linesOf listed := by
    rw [List.flatMap_cons, List.flatMap_singleton, hblank.linesOf, List.singleton_append]
  constructor
  · rintro ⟨pieces, hblock, rfl⟩
    by_cases hfindings : findings = []
    · subst hfindings
      obtain rfl := Except.ok.inj hblock
      exact .nothing
    obtain ⟨listed, hlisting, rfl⟩ := (block_of_ne_nil hfindings).mp hblock
    rw [listing] at hlisting
    rw [hlisted]
    split at hlisting
    case isTrue hverbose =>
      obtain ⟨headings, drawn, hheadings, hdrawn, rfl⟩ := findingsTable_eq_ok_iff.mp hlisting
      exact .rows hverbose hfindings hheadings hdrawn
    case isFalse hplain =>
      obtain rfl := Except.ok.inj hlisting
      rw [linesOf_intercalate (by simpa using hfindings), List.flatMap_map]
      exact .lines (eq_false_of_ne_true hplain) hfindings
  · intro hlists
    cases hlists with
    | nothing => exact ⟨[], rfl, rfl⟩
    | lines hplain hfindings =>
      refine ⟨_, (block_of_ne_nil hfindings).mpr ⟨_, if_neg (by simp [hplain]), rfl⟩, ?_⟩
      rw [hlisted, linesOf_intercalate (by simpa using hfindings), List.flatMap_map]
    | rows hverbose hfindings hheadings hdrawn =>
      have htable := findingsTable_eq_ok_iff.mpr ⟨_, _, hheadings, hdrawn, rfl⟩
      exact ⟨_, (block_of_ne_nil hfindings).mpr ⟨_, (if_pos hverbose).trans htable, rfl⟩,
        hlisted _⟩

/-- The texts that a report is put together from, around those for the findings. -/
def pieces (color : Bool) (hidden : Nat) (summary : Summary) (listed : List String) :
    List String :=
  [paint color .bold "\nRequired Named Parameter Report", String.ofList (List.replicate 60 '=')] ++
    listed ++ hiddenLines color hidden ++
    ["\n" ++ paint color .bold "Summary:", summaryLines color summary]

theorem linesOf_pieces (color : Bool) (hidden : Nat) (summary : Summary) (listed : List String) :
    linesOf ("\n".intercalate (pieces color hidden summary listed)) =
      titleLines color ++ listed.flatMap linesOf ++ hiddenLines color hidden ++
        closingLines color summary := by
  rw [linesOf_intercalate (by simp [pieces]), pieces, List.flatMap_append, List.flatMap_append,
    List.flatMap_append, linesOf_title, linesOf_hidden, linesOf_closing]

theorem full_eq_bind (options : Presentation) (result : CheckResult) :
    let shown := takeLimited options.limit result.findings
    let hidden := result.findings.length - shown.length
    full options result = block options shown >>= fun listed =>
      .ok ("\n".intercalate (pieces options.color hidden result.summary listed)) := by
  intro shown hidden
  rw [full, block]
  dsimp only
  split
  · rfl
  · cases listing options shown <;> rfl

/-- A report line by line. -/
theorem full_eq_ok_iff (options : Presentation) (result : CheckResult) (text : String) :
    let shown := takeLimited options.limit result.findings
    let hidden := result.findings.length - shown.length
    full options result = .ok text ↔
      ∃ listed, Lists options.verbose options.color options.directory shown listed ∧
        linesOf text = titleLines options.color ++ listed ++ hiddenLines options.color hidden ++
          closingLines options.color result.summary := by
  intro shown hidden
  rw [full_eq_bind, bind_eq_ok_iff]
  constructor
  · rintro ⟨listed, hblock, htext⟩
    obtain rfl := Except.ok.inj htext
    exact ⟨_, exists_block_iff.mp ⟨listed, hblock, rfl⟩, linesOf_pieces _ _ _ _⟩
  · rintro ⟨_, hlists, htext⟩
    obtain ⟨listed, hblock, rfl⟩ := exists_block_iff.mpr hlists
    -- A report is determined by its lines.
    refine ⟨listed, hblock, congrArg _ (linesOf_injective ?_)⟩
    rw [linesOf_pieces, htext]

theorem exists_full_iff {result : CheckResult} :
    (∃ text, full options result = .ok text) ↔
      ∃ listed, Lists options.verbose options.color options.directory
        (takeLimited options.limit result.findings) listed := by
  rw [full_eq_bind, exists_bind_eq_ok_iff]
  simp only [← exists_block_iff]
  exact ⟨fun ⟨listed, hblock⟩ => ⟨_, listed, hblock, rfl⟩,
    fun ⟨_, listed, hblock, _⟩ => ⟨listed, hblock⟩⟩

/-- Findings are listed unless one of them cannot be a row of the table. -/
theorem exists_lists_iff {verbose color : Bool} {directory : List String} :
    (∃ listed, Lists verbose color directory findings listed) ↔
      (verbose = true → ∀ finding ∈ findings, IsDrawable columns (row directory finding)) := by
  by_cases hfindings : findings = []
  · subst hfindings
    exact iff_of_true ⟨[], .nothing⟩ fun _ _ hfinding => absurd hfinding List.not_mem_nil
  cases verbose with
  | false => exact iff_of_true ⟨_, .lines rfl hfindings⟩ fun h => Bool.noConfusion h
  | true =>
    have hrows : (∃ drawn, List.Forall₂ (fun finding drawn =>
          drawRow columns (row directory finding) = .ok drawn) findings drawn) ↔
        ∀ finding ∈ findings, IsDrawable columns (row directory finding) := by
      simp only [← mapM_eq_ok_iff, exists_mapM_eq_ok_iff, exists_drawRow_iff]
    have hheadings : IsDrawable columns ["File", "Line", "Function", "Parameter"] := by
      decide +kernel
    obtain ⟨headings, hheadings⟩ := exists_drawRow_iff.mpr hheadings
    rw [← hrows]
    constructor
    · rintro ⟨_, hlists⟩ -
      cases hlists with
      | nothing => exact absurd rfl hfindings
      | lines hplain => exact Bool.noConfusion hplain
      | rows _ _ _ hdrawn => exact ⟨_, hdrawn⟩
    · intro hdrawn
      obtain ⟨drawn, hdrawn⟩ := hdrawn rfl
      exact ⟨_, .rows rfl hfindings hheadings hdrawn⟩

theorem takeLimited_natCast {α : Type} (limit : Nat) (elements : List α) :
    takeLimited (some (limit : Int)) elements = elements.take limit := by
  simp [takeLimited]

end Presentation

open Presentation

/-- The total of a detector's result is the number of its findings. -/
theorem Detector.total_checkFiles (config : Config) (logger : Logger) (detector : Detector)
    (paths : List String) (timestamp : String) :
    let result := (detector.checkFiles config logger paths).1.result config timestamp
    result.summary.total = result.findings.length := by
  rfl

/-- A report with a limit lists as many findings as the limit allows, says how many more there are,
    and is otherwise like the report without a limit. A report by line is always produced, and a
    report by table as long as all listed findings can be rows of a table. -/
theorem CheckResult.format_limited (options : Presentation) {result : CheckResult}
    (hjson : options.json = false) (hquiet : options.quiet = false)
    (htotal : result.summary.total = result.findings.length) (limit : Nat) :
    let shown := result.findings.take limit
    let hidden := result.findings.length - min limit result.findings.length
    (∀ text, result.format { options with limit := some limit } = .ok text ↔
        ∃ listed, Lists options.verbose options.color options.directory shown listed ∧
          linesOf text = titleLines options.color ++ listed ++ hiddenLines options.color hidden ++
            closingLines options.color result.summary) ∧
      (∀ text, result.format { options with limit := none } = .ok text ↔
        ∃ listed, Lists options.verbose options.color options.directory result.findings listed ∧
          linesOf text = titleLines options.color ++ listed ++
            closingLines options.color result.summary) ∧
      ((∃ text, result.format { options with limit := some limit } = .ok text) ↔
        (options.verbose = true →
          ∀ finding ∈ shown, IsDrawable columns (row options.directory finding))) ∧
      shown.length + hidden = result.summary.total := by
  intro shown hidden
  have hrender (given : Option Int) : result.format { options with limit := given } =
      full { options with limit := given } result := by
    rw [CheckResult.format, render, if_neg (by simp [hjson]), if_neg (by simp [hquiet])]
  have hlimited (text : String) :
      result.format { options with limit := some limit } = .ok text ↔
        ∃ listed, Lists options.verbose options.color options.directory shown listed ∧
          linesOf text = titleLines options.color ++ listed ++ hiddenLines options.color hidden ++
            closingLines options.color result.summary := by
    have hfull := full_eq_ok_iff { options with limit := some limit } result text
    simp only [takeLimited_natCast, List.length_take] at hfull
    rw [hrender, hfull]
  have hunlimited (text : String) : result.format { options with limit := none } = .ok text ↔
      ∃ listed, Lists options.verbose options.color options.directory result.findings listed ∧
        linesOf text = titleLines options.color ++ listed ++
          closingLines options.color result.summary := by
    have hfull := full_eq_ok_iff { options with limit := none } result text
    simp only [takeLimited, Nat.sub_self, hiddenLines, Nat.lt_irrefl, if_false,
      List.append_nil] at hfull
    rw [hrender, hfull]
  refine ⟨hlimited, hunlimited, ?_, ?_⟩
  · simp only [hrender]
    rw [exists_full_iff, exists_lists_iff, takeLimited_natCast]
  · rw [htotal, List.length_take]
    omega

/-- A file with a method whose name holds a tabulator. -/
def tabbedMethod : Detector :=
  .start (Session.empty.create "/src/a.ts" "class A\x7b['x'\t](\x7ba\x7d)\x7bassert(a!=null)\x7d\x7d")

/-- The result for that file. -/
def tabbedMethodResult : CheckResult :=
  let config : Config := ⟨[], [], none, ["assert"]⟩
  (tabbedMethod.checkFiles config ⟨false, false, false⟩ ["/src/a.ts"]).1.result config ""

theorem CheckResult.format_limited_of_tabbedMethod :
    tabbedMethodResult.summary.total = tabbedMethodResult.findings.length ∧
      ∃ text listed,
        tabbedMethodResult.format ⟨false, false, false, some 1, [], false⟩ = .ok text ∧
          Lists false false [] (tabbedMethodResult.findings.take 1) listed ∧
          linesOf text = titleLines false ++ listed ++ hiddenLines false 0 ++
            closingLines false tabbedMethodResult.summary := by
  have htotal : tabbedMethodResult.summary.total = tabbedMethodResult.findings.length :=
    Detector.total_checkFiles ⟨[], [], none, ["assert"]⟩ ⟨false, false, false⟩ tabbedMethod
      ["/src/a.ts"] ""
  obtain ⟨hlimited, -, hlisted, -⟩ :=
    CheckResult.format_limited ⟨false, false, false, none, [], false⟩ rfl rfl htotal 1
  obtain ⟨text, htext⟩ := hlisted.mpr fun hverbose => Bool.noConfusion hverbose
  obtain ⟨listed, hlists, hlines⟩ := (hlimited text).mp htext
  have hcount :
      tabbedMethodResult.findings.length - min 1 tabbedMethodResult.findings.length = 0 := by
    decide +kernel
  rw [hcount] at hlines
  exact ⟨htotal, text, listed, htext, hlists, hlines⟩

theorem CheckResult.table_refused_of_tabbedMethod :
    tabbedMethodResult.findings.length = 1 ∧
      tabbedMethodResult.format ⟨false, true, false, some 1, [], false⟩ =
        .error .controlCharacter := by
  decide +kernel

end NamedParams
