import Mathlib.Data.List.Perm.Basic
import NamedParams.Proofs.Detector.CheckedFiles
import NamedParams.Proofs.Detector.FileFindings
import NamedParams.Proofs.Detector.FindingOrder

namespace NamedParams

open NamedParams.Source

theorem checkFile_filePath {config : Config} {file : ProjectFile} {finding : Finding}
    (hfinding : finding ∈ (checkFile config file).findings) :
    finding.filePath = file.source.path := by
  rw [checkFile_findings] at hfinding
  obtain ⟨named, _, rfl⟩ := List.mem_map.mp hfinding
  rfl

theorem checkFile_keys_nodup (config : Config) (file : ProjectFile) :
    ((checkFile config file).findings.map Finding.key).Nodup := by
  have hoffsets : (((checkFile config file).findings.map Finding.key).map fun key =>
      (ofLex key).2).Nodup := by
    rw [List.map_map]
    exact checkFile_offsets_nodup config file
  exact hoffsets.of_map _

/-- Findings of checked files that are at one place are the same finding. -/
theorem finding_eq_of_key_eq {config : Config} {session : Session} {paths others : List String}
    {a b : Finding} (ha : a ∈ findingsOf config (session.checked config paths))
    (hb : b ∈ findingsOf config (session.checked config others)) (hkey : a.key = b.key) :
    a = b := by
  obtain ⟨file, hfile, ha⟩ := List.mem_flatMap.mp ha
  obtain ⟨other, hother, hb⟩ := List.mem_flatMap.mp hb
  have hpath : file.source.path = other.source.path := by
    rw [← checkFile_filePath ha, ← checkFile_filePath hb]
    exact (Finding.key_eq_iff.mp hkey).1
  have hsame := Session.eq_of_mem_checked hfile hother hpath
  subst hsame
  exact List.inj_on_of_nodup_map (checkFile_keys_nodup config file) ha hb hkey

/-- No two findings are at one place when no file is given twice. -/
theorem keys_nodup_of_nodup (config : Config) (session : Session) {paths : List String}
    (hpaths : paths.Nodup) :
    ((findingsOf config (session.checked config paths)).map Finding.key).Nodup := by
  rw [findingsOf, List.map_flatMap, List.nodup_flatMap]
  refine ⟨fun file _ => checkFile_keys_nodup config file, ?_⟩
  have hdistinct : (session.checked config paths).Pairwise fun a b =>
      a.source.path ≠ b.source.path :=
    List.pairwise_map.mp (Session.checked_paths_nodup hpaths)
  refine hdistinct.imp ?_
  intro file other hne key hfile hother
  obtain ⟨a, ha, rfl⟩ := List.mem_map.mp hfile
  obtain ⟨b, hb, hkey⟩ := List.mem_map.mp hother
  apply hne
  rw [← checkFile_filePath ha, ← checkFile_filePath hb]
  exact (Finding.key_eq_iff.mp hkey).1.symm

theorem checked_perm (config : Config) (session : Session) {paths others : List String}
    (hperm : paths.Perm others) :
    (session.checked config paths).Perm (session.checked config others) :=
  (hperm.filter _).filterMap _

namespace Detector

variable (config : Config) (logger : Logger) (detector : Detector) (paths : List String)

theorem checkFiles_findings_of_perm {others : List String} (hperm : paths.Perm others) :
    (detector.checkFiles config logger paths).1.findings =
      (detector.checkFiles config logger others).1.findings := by
  rw [checkFiles_findings, checkFiles_findings]
  refine Finding.mergeSort_eq_of_perm ?_ ?_
  · exact (checked_perm config detector.session hperm).flatMap_right _
  · exact fun a ha b hb hkey => finding_eq_of_key_eq ha hb hkey

theorem checkFiles_summary_of_perm {others : List String} (hperm : paths.Perm others) :
    (detector.checkFiles config logger paths).1.summary =
      (detector.checkFiles config logger others).1.summary := by
  have hchecked := checked_perm config detector.session hperm
  have hcount : functionCountOf config (detector.session.checked config paths) =
      functionCountOf config (detector.session.checked config others) :=
    (hchecked.map _).sum_nat
  rw [checkFiles_summary, checkFiles_summary, hchecked.length_eq, hcount,
    checkFiles_findings_of_perm config logger detector paths hperm]

/-- The findings about some files are in the order of the code units of their paths, and in a file
    in that of their offsets. The order is strict when no file is given twice. It does not matter
    in which order the files are given, nor what the detector has checked before. -/
theorem checkFiles_sorts_findings :
    ((detector.checkFiles config logger paths).1.findings.map Finding.key).Pairwise (· ≤ ·) ∧
      (paths.Nodup →
        ((detector.checkFiles config logger paths).1.findings.map Finding.key).Pairwise (· < ·) ∧
          ((detector.checkFiles config logger paths).1.findings.map fun finding =>
            (finding.filePath, finding.position.offset)).Nodup) ∧
      ∀ others, paths.Perm others →
        (detector.checkFiles config logger others).1.findings =
            (detector.checkFiles config logger paths).1.findings ∧
          (detector.checkFiles config logger others).1.summary =
            (detector.checkFiles config logger paths).1.summary := by
  refine ⟨?_, ?_, ?_⟩
  · rw [checkFiles_findings]
    exact Finding.sorted_keys _
  · intro hpaths
    have hstrict : ((detector.checkFiles config logger paths).1.findings.map
        Finding.key).Pairwise (· < ·) := by
      rw [checkFiles_findings]
      exact Finding.sorted_keys_of_nodup (keys_nodup_of_nodup config detector.session hpaths)
    refine ⟨hstrict, List.pairwise_map.mpr ?_⟩
    refine (List.pairwise_map.mp hstrict).imp ?_
    intro a b hlt hplace
    obtain ⟨hpath, hoffset⟩ := Prod.mk.inj hplace
    exact hlt.ne (Finding.key_eq_iff.mpr ⟨hpath, hoffset⟩)
  · intro others hperm
    exact ⟨(checkFiles_findings_of_perm config logger detector paths hperm).symm,
      (checkFiles_summary_of_perm config logger detector paths hperm).symm⟩

/-- Two files. In one of them, a function stands in the parameters of another one, and before a
    parameter of that one. -/
def nestedFunctions : Detector :=
  .start ((Session.empty.create "/b.ts" "function f({a}){assert(a!=null)}").create "/a.ts"
    "function f(g=({a})=>{assert(a!=null)},{b}){assert(b!=null)}")

theorem checkFiles_sorts_findings_of_nestedFunctions :
    let config : Config := ⟨[], [], none, ["assert"]⟩
    let logger : Logger := ⟨false, false, false⟩
    let check := fun paths => (nestedFunctions.checkFiles config logger paths).1
    (check ["/b.ts", "/a.ts"]).findings.length = 3 ∧
      ((check ["/b.ts", "/a.ts"]).findings.map Finding.key).Pairwise (· < ·) ∧
      (check ["/a.ts", "/b.ts"]).findings = (check ["/b.ts", "/a.ts"]).findings ∧
      (check ["/a.ts", "/b.ts"]).summary = (check ["/b.ts", "/a.ts"]).summary := by
  intro config logger check
  obtain ⟨_, hstrict, hperm⟩ :=
    checkFiles_sorts_findings config logger nestedFunctions ["/b.ts", "/a.ts"]
  refine ⟨?_, (hstrict (by decide)).1, hperm ["/a.ts", "/b.ts"] (.swap _ _ _)⟩
  have hfindings := checkFiles_findings config logger nestedFunctions ["/b.ts", "/a.ts"]
  rw [hfindings, List.length_mergeSort]
  decide +kernel

end Detector

end NamedParams
