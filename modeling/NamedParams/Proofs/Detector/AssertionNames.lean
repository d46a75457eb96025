import Mathlib.Data.List.Flatten
import NamedParams.Proofs.Detector.CountedFunctions
import NamedParams.Proofs.Detector.SortedFindings
import NamedParams.Proofs.Sorting

namespace NamedParams

open NamedParams.Source

/-- The configuration with other assertion functions. -/
def Config.asserting (config : Config) (names : List String) : Config :=
  { config with assertionFunctions := names }

namespace Source

variable {fewer more : List String}

theorem Tree.IsAssertion.mono (hnames : fewer ⊆ more) {statement argument : Tree}
    (hassertion : statement.IsAssertion fewer argument) :
    statement.IsAssertion more argument := by
  obtain ⟨target, parts, others, hcall, hcallee, hargument⟩ := hassertion
  exact ⟨target, parts, others, hcall, hnames hcallee, hargument⟩

/-- With more assertion functions a function still opens with the assertions that it opened with,
    even if other statements are now assertions as well. -/
theorem Tree.OpensWithAssertion.mono (hnames : fewer ⊆ more) {name : String} {function : Tree}
    (hopens : function.OpensWithAssertion fewer name) :
    function.OpensWithAssertion more name := by
  obtain ⟨block, hbody, hblock, k, hrun, statement, argument, hlast, hassertion, hsays⟩ := hopens
  refine ⟨block, hbody, hblock, k, ?_, statement, argument, hlast, hassertion.mono hnames, hsays⟩
  intro i hi
  obtain ⟨earlier, stated, hearlier, hasserts⟩ := hrun i hi
  exact ⟨earlier, stated, hearlier, hasserts.mono hnames⟩

namespace NamedElement

theorem IsAsserted.mono (hnames : fewer ⊆ more) {named : NamedElement}
    (hasserted : named.IsAsserted fewer) : named.IsAsserted more :=
  ⟨hasserted.noRest, hasserted.noDefault, hasserted.asserted.mono hnames⟩

theorem isReported_mono (hnames : fewer ⊆ more) (index : ImportIndex) {named : NamedElement}
    (hreported : named.isReported fewer index = true) : named.isReported more index = true := by
  rw [isReported, Bool.and_eq_true, decide_eq_true_iff] at hreported ⊢
  exact ⟨hreported.1.mono hnames, hreported.2⟩

end NamedElement

end Source

section Findings

variable {fewer more : List String} (config : Config)

theorem checkFile_findings_mono (hnames : fewer ⊆ more) (file : ProjectFile) :
    (checkFile (config.asserting fewer) file).findings.Sublist
      (checkFile (config.asserting more) file).findings := by
  rw [checkFile_findings, checkFile_findings]
  apply List.Sublist.map
  apply List.monotone_filter_right
  intro named hreported
  exact NamedElement.isReported_mono hnames file.index hreported

theorem findingsOf_mono (hnames : fewer ⊆ more) (files : List ProjectFile) :
    (findingsOf (config.asserting fewer) files).Sublist
      (findingsOf (config.asserting more) files) :=
  List.Sublist.flatMap_right files fun file _ => checkFile_findings_mono config hnames file

end Findings

namespace Detector

variable (config : Config) (logger : Logger) (detector : Detector) (paths : List String)

/-- Which files are checked has nothing to do with the assertion functions. -/
theorem checked_asserting (session : Session) (names : List String) :
    session.checked (config.asserting names) paths = session.checked config paths := rfl

theorem checkFiles_findings_mono {fewer more : List String} (hnames : fewer ⊆ more) :
    (detector.checkFiles (config.asserting fewer) logger paths).1.findings.Sublist
      (detector.checkFiles (config.asserting more) logger paths).1.findings := by
  rw [checkFiles_findings, checkFiles_findings, checked_asserting, checked_asserting]
  exact mergeSort_sublist Finding.le_trans Finding.le_total (findingsOf_mono config hnames _)

/-- The summary depends on the assertion functions only through the findings. -/
theorem checkFiles_summary_asserting (names : List String) :
    (detector.checkFiles (config.asserting names) logger paths).1.summary =
      Summary.ofFindings (detector.checkFiles (config.asserting names) logger paths).1.findings
        (detector.session.checked config paths).length
        (functionTotal (detector.session.checked config paths)) := by
  rw [checkFiles_summary, functionCountOf_eq, checked_asserting]

/-- With more assertion functions, a check of files has all its findings in the same order and maybe
    some in between, and it checks as many files and functions. So it does not matter for a check in
    which order the assertion functions are given, nor how often. The detector may have checked
    anything before. -/
theorem checkFiles_mono_assertionFunctions {fewer more : List String} (hnames : fewer ⊆ more) :
    let report := fun names => (detector.checkFiles (config.asserting names) logger paths).1
    (report fewer).findings.Sublist (report more).findings ∧
      (report fewer).summary.filesAnalyzed = (report more).summary.filesAnalyzed ∧
      (report fewer).summary.functionsAnalyzed = (report more).summary.functionsAnalyzed ∧
      (more ⊆ fewer → (report fewer).findings = (report more).findings ∧
        (report fewer).summary = (report more).summary) := by
  intro report
  have hsublist : (report fewer).findings.Sublist (report more).findings :=
    checkFiles_findings_mono config logger detector paths hnames
  have hsummary : ∀ names, (report names).summary =
      Summary.ofFindings (report names).findings (detector.session.checked config paths).length
        (functionTotal (detector.session.checked config paths)) :=
    checkFiles_summary_asserting config logger detector paths
  refine ⟨hsublist, ?_, ?_, ?_⟩
  · rw [hsummary, hsummary, Summary.ofFindings, Summary.ofFindings]
  · rw [hsummary, hsummary, Summary.ofFindings, Summary.ofFindings]
  · intro hback
    have hfindings : (report fewer).findings = (report more).findings :=
      hsublist.antisymm (checkFiles_findings_mono config logger detector paths hback)
    refine ⟨hfindings, ?_⟩
    rw [hsummary, hsummary, hfindings]

/-- A file with a function that asserts by two helpers. -/
def twoHelpers : Detector :=
  .start (Session.empty.create "/a.ts" "function f({a,b}){assert(a!=null);check(b!=null)}")

theorem checkFiles_mono_assertionFunctions_of_twoHelpers :
    let config : Config := ⟨[], [], none, []⟩
    let report := fun names =>
      (twoHelpers.checkFiles (config.asserting names) ⟨false, false, false⟩ ["/a.ts"]).1
    (report ["assert"]).findings.length = 1 ∧
      (report ["assert", "check"]).findings.length = 2 ∧
      (report ["assert"]).findings.Sublist (report ["assert", "check"]).findings ∧
      (report ["check", "assert", "check"]).findings = (report ["assert", "check"]).findings := by
  intro config report
  have hmore : ["assert"] ⊆ ["assert", "check"] := by decide
  have hagain : ["check", "assert", "check"] ⊆ ["assert", "check"] := by decide
  obtain ⟨hsublist, -⟩ := checkFiles_mono_assertionFunctions config ⟨false, false, false⟩ twoHelpers
    ["/a.ts"] hmore
  obtain ⟨-, -, -, hsame⟩ := checkFiles_mono_assertionFunctions config ⟨false, false, false⟩
    twoHelpers ["/a.ts"] hagain
  let files := twoHelpers.session.checked config ["/a.ts"]
  have hlength : ∀ names, (report names).findings.length =
      (findingsOf (config.asserting names) files).length := by
    intro names
    rw [checkFiles_findings, List.length_mergeSort]
    rfl
  rw [hlength, hlength]
  exact ⟨by decide +kernel, by decide +kernel, hsublist, (hsame (by decide)).1⟩

end Detector

end NamedParams
