import NamedParams.Proofs.Detector.CheckedFiles
import NamedParams.Proofs.Source.Nesting

namespace NamedParams

open NamedParams.Source NamedParams.FunctionNode

theorem checkFile_functionCount (config : Config) (file : ProjectFile) :
    (checkFile config file).functionCount = file.source.functionPlaces.length :=
  file.source.countOf_functions config.assertionFunctions

/-- How many functions are written in some files. -/
def functionTotal (files : List ProjectFile) : Nat :=
  (files.map fun file => file.source.functionPlaces.length).sum

theorem functionCountOf_eq (config : Config) (files : List ProjectFile) :
    functionCountOf config files = functionTotal files := by
  rw [functionCountOf, functionTotal]
  congr 1
  exact List.map_congr_left fun file _ => checkFile_functionCount config file

namespace Detector

variable (config : Config) (logger : Logger) (root : List String) (detector : Detector)
  (paths : List String)

theorem checkFiles_functionsAnalyzed :
    (detector.checkFiles config logger paths).1.summary.functionsAnalyzed =
      functionTotal (detector.session.checked config paths) := by
  rw [checkFiles_summary, Summary.ofFindings, functionCountOf_eq]

theorem checkPaths_functionsAnalyzed :
    (detector.checkPaths config logger root paths).1.summary.functionsAnalyzed =
      functionTotal ((detector.session.loadAll config logger root paths).session.checked config
        (detector.session.loadAll config logger root paths).loaded) :=
  checkFiles_functionsAnalyzed config logger
    { detector with session := (detector.session.loadAll config logger root paths).session }
    (detector.session.loadAll config logger root paths).loaded

/-- The functions that are built from a file, in pre-order, stand for those that are written in it,
    in pre-order and one for one. The parent of a built function stands for the nearest written
    function around, whatever lies between, and a built function is at the top when there is none.
    A check counts the functions that are written in the files that it checks, whatever the
    detector has counted before. -/
theorem functions_mirror_source :
    (∀ (file : SourceFile) (assertionFunctions : List String),
      ∃ pairs : List (Located Decorator × Place),
        pairs.map Prod.fst = locatedOf [] 0 (file.functions assertionFunctions) ∧
        pairs.map Prod.snd = file.functionPlaces ∧
        ∀ inner ∈ pairs,
          inner.2.site.function? assertionFunctions file.text = some inner.1.node ∧
          (∀ outer ∈ pairs, inner.1.address.IsChild outer.1.address ↔
            outer.2.IsNearestAround file.functionPlaces inner.2) ∧
          (inner.1.address.IsChild [] ↔
            ∀ place ∈ file.functionPlaces, ¬ inner.2.address.IsInside place.address)) ∧
      (detector.checkFiles config logger paths).1.summary.functionsAnalyzed =
        functionTotal (detector.session.checked config paths) ∧
      let loading := detector.session.loadAll config logger root paths
      (detector.checkPaths config logger root paths).1.summary.functionsAnalyzed =
        functionTotal (loading.session.checked config loading.loaded) := by
  refine ⟨fun file assertionFunctions => ?_,
    checkFiles_functionsAnalyzed config logger detector paths,
    checkPaths_functionsAnalyzed config logger root detector paths⟩
  obtain ⟨pairs, hpairs⟩ := file.exists_pairing assertionFunctions
  refine ⟨pairs, hpairs.nodes, hpairs.places, fun inner hinner => ?_⟩
  refine ⟨hpairs.built inner hinner, ?_, ?_⟩
  · exact fun outer houter => hpairs.isChild_iff houter hinner
  · exact hpairs.isChild_nil_iff hinner

/-- A function in the default value of a parameter of another one, as an argument of a call. -/
def nestedDefault : SourceFile :=
  SourceFile.parse "/a.ts" "function f(g=h(()=>\x7b\x7d))\x7b\x7d"

theorem functions_mirror_source_of_nestedDefault :
    nestedDefault.functionPlaces.map Place.address = [[0], [0, 2, 1, 1, 1, 1, 1]] ∧
      ∃ inner outer : Located Decorator × Place,
        [outer.2, inner.2] = nestedDefault.functionPlaces ∧
        [outer.1, inner.1] = locatedOf [] 0 (nestedDefault.functions ["assert"]) ∧
        inner.2.site.function? ["assert"] nestedDefault.text = some inner.1.node ∧
        inner.1.address.IsChild outer.1.address ∧ outer.1.address.IsChild [] := by
  have haddresses : nestedDefault.functionPlaces.map Place.address =
      [[0], [0, 2, 1, 1, 1, 1, 1]] := by decide +kernel
  obtain ⟨hmirrors, _⟩ := functions_mirror_source Config.default ⟨false, false, false⟩ []
    (.start Session.empty) []
  obtain ⟨pairs, hnodes, hplaces, hpairs⟩ := hmirrors nestedDefault ["assert"]
  refine ⟨haddresses, ?_⟩
  rw [← hplaces] at haddresses hpairs ⊢
  rw [← hnodes]
  obtain ⟨outer, inner, rfl⟩ : ∃ outer inner, pairs = [outer, inner] :=
    List.length_eq_two.mp (by simpa using congrArg List.length haddresses)
  obtain ⟨houter, hinner⟩ : outer.2.address = [0] ∧ inner.2.address = [0, 2, 1, 1, 1, 1, 1] := by
    simpa using haddresses
  obtain ⟨_, _, htop⟩ := hpairs outer (by simp)
  obtain ⟨hbuilt, hnearest, _⟩ := hpairs inner (by simp)
  refine ⟨inner, outer, rfl, rfl, hbuilt, (hnearest outer (by simp)).mpr ?_, htop.mpr ?_⟩
  · refine ⟨by simp, ?_, ?_⟩
    · rw [houter, hinner]
      exact ⟨by decide, by decide⟩
    · simp [Address.isInside_iff, houter, hinner]
  · simp [Address.isInside_iff, houter, hinner]

end Detector

end NamedParams
