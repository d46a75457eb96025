import Mathlib.Data.List.Sort
import NamedParams.Proofs.Files.Targets
import NamedParams.Proofs.Sorting
import NamedParams.Proofs.Text.UnitOrder

namespace NamedParams

open NamedParams.Text

/-- Whether a tree is one that a disk can hold: names lead to its files, and none of them lies below
    another. -/
structure FileTree.IsDisk (tree : FileTree) : Prop where
  proper : tree.IsProper
  apart : ∀ file ∈ tree.files, ∀ other ∈ tree.files, isBelow file.1 other.1 = false

instance (tree : FileTree) : Decidable tree.IsDisk :=
  decidable_of_iff (tree.IsProper ∧
      ∀ file ∈ tree.files, ∀ other ∈ tree.files, FileTree.isBelow file.1 other.1 = false)
    ⟨fun ⟨hproper, hapart⟩ => ⟨hproper, hapart⟩, fun hdisk => ⟨hdisk.proper, hdisk.apart⟩⟩

theorem FileTree.IsDisk.kindOf_eq_file_iff {tree : FileTree} (hdisk : tree.IsDisk)
    {place : List String} : tree.kindOf place = .ok .file ↔ (tree.read? place).isSome = true := by
  refine ⟨isSome_read?_of_kindOf, fun hread => FileTree.kindOf_eq_file_iff.mpr ⟨?_, hread⟩⟩
  obtain ⟨file, hfile, rfl⟩ := List.mem_map.mp (isSome_read?_iff.mp hread)
  exact fun above habove => hdisk.apart above habove file hfile

/-- Whether some texts are in the strict order of their code units. -/
def InOrder (texts : List String) : Prop :=
  (texts.map unitKey).SortedLT

/-- Texts in order are determined by which ones there are. -/
theorem InOrder.eq_of_mem_iff {texts others : List String} (htexts : InOrder texts)
    (hothers : InOrder others) (hmem : ∀ text, text ∈ texts ↔ text ∈ others) : texts = others := by
  refine List.map_injective_iff.mpr unitKey_injective (List.SortedLT.eq_of_mem_iff htexts hothers ?_)
  intro key
  simp only [List.mem_map, hmem]

theorem inOrder_sortPaths {paths : List String} (hnodup : paths.Nodup) :
    InOrder (sortPaths paths) := by
  have htrans (a b c : String) (hab : unitsLE a b = true) (hbc : unitsLE b c = true) :
      unitsLE a c = true :=
    unitsLE_iff.mpr ((unitsLE_iff.mp hab).trans (unitsLE_iff.mp hbc))
  have htotal (a b : String) : (unitsLE a b || unitsLE b a) = true := by
    rw [Bool.or_eq_true, unitsLE_iff, unitsLE_iff]
    exact LinearOrder.le_total _ _
  have hdistinct : (sortPaths paths).Nodup := (List.mergeSort_perm _ _).nodup_iff.mpr hnodup
  have hsorted : (sortPaths paths).Pairwise fun a b => unitsLE a b = true :=
    List.pairwise_mergeSort htrans htotal paths
  rw [InOrder, List.sortedLT_iff_pairwise, List.pairwise_map]
  refine (List.Pairwise.and hdistinct hsorted).imp ?_
  rintro a b ⟨hne, hle⟩
  exact lt_of_le_of_ne (unitsLE_iff.mp hle) fun hkey => hne (unitKey_injective hkey)

section Lists

variable {tree : FileTree} {root directory : List String} {config : Config}

theorem inOrder_of_search (htree : tree.IsProper) {files : List String}
    (hfiles : filesToCheck tree root [] config directory = .ok files) : InOrder files := by
  rw [filesToCheck] at hfiles
  obtain ⟨found, hfound, hfiles⟩ := bind_eq_ok_iff.mp hfiles
  obtain rfl := Except.ok.inj hfiles
  have hplaces (place : List String) (hplace : place ∈ found) : Path.IsPlace place :=
    htree.isPlace (isSome_read?_of_mem_searchFiles hfound hplace)
  have hnodup : found.Nodup := by
    rw [searchFiles] at hfound
    split at hfound
    · cases hfound
    · obtain ⟨lists, -, hfound⟩ := bind_eq_ok_iff.mp hfound
      obtain rfl := Except.ok.inj hfound
      exact nodup_eraseDups _
  -- Places differ if their paths do not, since names lead to all files.
  refine inOrder_sortPaths (List.Nodup.map_on ?_ hnodup)
  intro a ha b hb hab
  exact Path.absolute_injective (hplaces a ha) (hplaces b hb) hab

/-- Targets have files if each of them stands for some files. These are the files of all targets, in
    order. -/
theorem filesToCheck_eq_ok_iff {targets files : List String} (htargets : targets ≠ []) :
    filesToCheck tree root targets config directory = .ok files ↔
      (∀ target ∈ targets, ∃ meant,
        targetFiles tree root config (Path.resolve directory target) = .ok meant) ∧
      InOrder files ∧
      ∀ file, file ∈ files ↔ ∃ target ∈ targets, ∃ meant,
        targetFiles tree root config (Path.resolve directory target) = .ok meant ∧
          file ∈ meant := by
  have hordered {files : List String}
      (hfiles : filesToCheck tree root targets config directory = .ok files) :
      (∀ target ∈ targets, ∃ meant,
        targetFiles tree root config (Path.resolve directory target) = .ok meant) ∧
      InOrder files := by
    rw [filesToCheck, if_neg (by simpa using htargets)] at hfiles
    obtain ⟨lists, hlists, hfiles⟩ := bind_eq_ok_iff.mp hfiles
    obtain rfl := Except.ok.inj hfiles
    exact ⟨exists_mapM_eq_ok_iff.mp ⟨lists, hlists⟩, inOrder_sortPaths (nodup_eraseDups _)⟩
  constructor
  · intro hfiles
    obtain ⟨hmeant, horder⟩ := hordered hfiles
    exact ⟨hmeant, horder, mem_filesToCheck_iff htargets hfiles⟩
  · rintro ⟨hmeant, horder, hmem⟩
    obtain ⟨lists, hlists⟩ := exists_mapM_eq_ok_iff.mpr hmeant
    have hrun : filesToCheck tree root targets config directory =
        .ok (sortPaths lists.flatten.eraseDups) := by
      rw [filesToCheck, if_neg (by simpa using htargets), hlists]
      rfl
    have hsame := (hordered hrun).2.eq_of_mem_iff horder fun file => by
      rw [hmem, mem_filesToCheck_iff htargets hrun]
    rw [hrun, hsame]

/-- Whether what there is at a place can be looked at, and searched if it is a directory. -/
structure Searchable (tree : FileTree) (root : List String) (config : Config)
    (place : List String) : Prop where
  exists_kind : ∃ kind, tree.kindOf place = .ok kind
  exists_found : tree.kindOf place = .ok .directory →
    ∃ found, searchFiles tree root place sourcePatterns config.exclude = .ok found

instance (tree : FileTree) (root : List String) (config : Config) (place : List String) :
    Decidable (Searchable tree root config place) :=
  decidable_of_iff ((tree.kindOf place).isOk = true ∧ (tree.kindOf place = .ok .directory →
      (searchFiles tree root place sourcePatterns config.exclude).isOk = true))
    ⟨fun ⟨hkind, hfound⟩ => ⟨isOk_iff_exists.mp hkind, fun hdirectory =>
        isOk_iff_exists.mp (hfound hdirectory)⟩,
      fun ⟨hkind, hfound⟩ => ⟨isOk_iff_exists.mpr hkind, fun hdirectory =>
        isOk_iff_exists.mpr (hfound hdirectory)⟩⟩

theorem Searchable.exists_targetFiles {place : List String}
    (hplace : Searchable tree root config place) :
    ∃ meant, targetFiles tree root config place = .ok meant := by
  obtain ⟨kind, hkind⟩ := hplace.exists_kind
  rw [targetFiles, hkind]
  cases kind with
  | file => exact ⟨_, rfl⟩
  | directory =>
    obtain ⟨found, hfound⟩ := hplace.exists_found hkind
    exact ⟨_, bind_eq_ok_iff.mpr ⟨found, hfound, rfl⟩⟩

theorem filesToCheck_of_searchable {targets : List String} (htargets : targets ≠ [])
    (hsearchable : ∀ target ∈ targets,
      Searchable tree root config (Path.resolve directory target)) :
    ∃ files, filesToCheck tree root targets config directory = .ok files := by
  obtain ⟨lists, hlists⟩ := exists_mapM_eq_ok_iff.mpr fun target htarget =>
    (hsearchable target htarget).exists_targetFiles
  rw [filesToCheck, if_neg (by simpa using htargets), hlists]
  exact ⟨_, rfl⟩

/-- What two lists of targets stand for together is what one stands for or the other. -/
theorem mem_filesToCheck_append_iff {targets others first second both : List String}
    (htargets : targets ≠ []) (hothers : others ≠ [])
    (hfirst : filesToCheck tree root targets config directory = .ok first)
    (hsecond : filesToCheck tree root others config directory = .ok second)
    (hboth : filesToCheck tree root (targets ++ others) config directory = .ok both)
    (file : String) : file ∈ both ↔ file ∈ first ∨ file ∈ second := by
  rw [mem_filesToCheck_iff (by simp [htargets]) hboth, mem_filesToCheck_iff htargets hfirst,
    mem_filesToCheck_iff hothers hsecond]
  simp only [List.mem_append, or_and_right, exists_or]

/-- Targets that lead to the same places have the same files. -/
theorem filesToCheck_congr {targets others files : List String} (htargets : targets ≠ [])
    (hothers : others ≠ [])
    (hsame : ∀ place, (∃ target ∈ targets, Path.resolve directory target = place) ↔
      ∃ target ∈ others, Path.resolve directory target = place)
    (hfiles : filesToCheck tree root targets config directory = .ok files) :
    filesToCheck tree root others config directory = .ok files := by
  have hexists (p : List String → Prop) : (∃ target ∈ targets, p (Path.resolve directory target)) ↔
      ∃ target ∈ others, p (Path.resolve directory target) := by
    constructor
    · rintro ⟨target, htarget, hp⟩
      obtain ⟨other, hother, heq⟩ := (hsame _).mp ⟨target, htarget, rfl⟩
      exact ⟨other, hother, heq ▸ hp⟩
    · rintro ⟨target, htarget, hp⟩
      obtain ⟨other, hother, heq⟩ := (hsame _).mpr ⟨target, htarget, rfl⟩
      exact ⟨other, hother, heq ▸ hp⟩
  obtain ⟨hmeant, horder, hmem⟩ := (filesToCheck_eq_ok_iff htargets).mp hfiles
  refine (filesToCheck_eq_ok_iff hothers).mpr ⟨fun other hother => ?_, horder, fun file => ?_⟩
  · obtain ⟨target, htarget, heq⟩ := (hsame _).mpr ⟨other, hother, rfl⟩
    exact heq ▸ hmeant target htarget
  · rw [hmem]
    exact hexists fun place => ∃ meant, targetFiles tree root config place = .ok meant ∧ file ∈ meant

theorem filesToCheck_eq_error {before after : List String} {target : String} {error : AccessError}
    (hbefore : ∀ target ∈ before, Searchable tree root config (Path.resolve directory target))
    (hkind : tree.kindOf (Path.resolve directory target) = .error error) :
    filesToCheck tree root (before ++ target :: after) config directory =
      .error (error.message "stat" (Path.absolute (Path.resolve directory target))) := by
  have hfails : targetFiles tree root config (Path.resolve directory target) =
      .error (error.message "stat" (Path.absolute (Path.resolve directory target))) := by
    rw [targetFiles, hkind]
    rfl
  have hrun := mapM_eq_error (fun target htarget =>
    (hbefore target htarget).exists_targetFiles) hfails after
  rw [filesToCheck, if_neg (by simp), hrun]
  rfl

/-- A file that a target stands for is there, with the name of a source file. -/
theorem exists_place_of_targetFiles (hdisk : tree.IsDisk) {place : List String}
    {meant : List String} (hmeant : targetFiles tree root config place = .ok meant) {file : String}
    (hfile : file ∈ meant) :
    ∃ source, Path.IsPlace source ∧ tree.kindOf source = .ok .file ∧
      Path.absolute source = file ∧ isTypeScriptPath file = true := by
  have hsource : isTypeScriptPath file = true := by
    rw [targetFiles] at hmeant
    split at hmeant
    · cases hmeant
    · obtain rfl := Except.ok.inj hmeant
      exact (List.mem_filter.mp hfile).2
    · obtain ⟨found, -, hmeant⟩ := bind_eq_ok_iff.mp hmeant
      obtain rfl := Except.ok.inj hmeant
      exact (List.mem_filter.mp hfile).2
  obtain ⟨hkind, hsame⟩ | ⟨-, found, hfound, hsame⟩ := targetFiles_cases hmeant
  · exact ⟨place, hdisk.proper.isPlace (isSome_read?_of_kindOf hkind), hkind,
      (hsame file hfile).symm, hsource⟩
  · obtain ⟨below, hbelow, heq⟩ := hsame file hfile
    have hread := isSome_read?_of_mem_searchFiles hfound hbelow
    exact ⟨below, hdisk.proper.isPlace hread, hdisk.kindOf_eq_file_iff.mpr hread, heq, hsource⟩

theorem exists_place_of_mem_filesToCheck (hdisk : tree.IsDisk) {targets files : List String}
    (htargets : targets ≠ [])
    (hfiles : filesToCheck tree root targets config directory = .ok files) {file : String}
    (hfile : file ∈ files) :
    ∃ source, Path.IsPlace source ∧ tree.kindOf source = .ok .file ∧
      Path.absolute source = file ∧ isTypeScriptPath file = true := by
  obtain ⟨_, -, meant, hmeant, hfile⟩ := (mem_filesToCheck_iff htargets hfiles file).mp hfile
  exact exists_place_of_targetFiles hdisk hmeant hfile

/-- The files of some targets, taken as targets, stand for themselves. -/
theorem filesToCheck_self (hdisk : tree.IsDisk) {targets files : List String}
    (htargets : targets ≠ []) (hne : files ≠ [])
    (hfiles : filesToCheck tree root targets config directory = .ok files) :
    filesToCheck tree root files config directory = .ok files := by
  have hsame : ∀ file ∈ files,
      targetFiles tree root config (Path.resolve directory file) = .ok [file] := by
    intro file hfile
    obtain ⟨source, hplace, hkind, rfl, hsource⟩ :=
      exists_place_of_mem_filesToCheck hdisk htargets hfiles hfile
    rw [Path.resolve_absolute hplace, targetFiles, hkind]
    dsimp only
    rw [List.filter_cons_of_pos hsource]
    rfl
  obtain ⟨-, horder, -⟩ := (filesToCheck_eq_ok_iff htargets).mp hfiles
  refine (filesToCheck_eq_ok_iff hne).mpr ⟨fun file hfile => ⟨_, hsame file hfile⟩, horder,
    fun file => ⟨fun hfile => ⟨file, hfile, _, hsame file hfile, List.mem_singleton_self _⟩, ?_⟩⟩
  rintro ⟨other, hother, meant, hmeant, hfile⟩
  obtain rfl := Except.ok.inj ((hsame other hother).symm.trans hmeant)
  exact List.mem_singleton.mp hfile ▸ hother

/-- Whether a path has the name of a source file, and not that of one with declarations only. -/
structure Path.IsSource (path : String) : Prop where
  ending : ∃ ending ∈ [".ts", ".tsx", ".mts", ".cts"], ending.toList <:+ path.toList
  code : ∀ ending ∈ [".d.ts", ".d.mts", ".d.cts"], ¬ ending.toList <:+ path.toList

theorem isTypeScriptPath_iff {path : String} : isTypeScriptPath path = true ↔ Path.IsSource path := by
  rw [isTypeScriptPath, Bool.and_eq_true, List.any_eq_true, List.all_eq_true]
  simp only [Bool.not_eq_true', ← Bool.not_eq_true, List.isSuffixOf_iff_suffix]
  exact ⟨fun ⟨hending, hcode⟩ => ⟨hending, hcode⟩, fun hsource => ⟨hsource.ending, hsource.code⟩⟩

/-- The files to check are a set, written in order. Those of two lists of targets together are those
    of either list, and it does not matter in which order, by which path and how often a target is
    named. If there is nothing at a target, no later one counts, and there are no files. The paths of
    the files for some targets are absolute, as short as possible and those of source files, so that
    they stand for themselves. -/
theorem filesToCheck_setLike (hdisk : tree.IsDisk) (root directory : List String)
    (config : Config) :
    (∀ targets files, filesToCheck tree root targets config directory = .ok files →
      InOrder files) ∧
    (∀ targets others, targets ≠ [] → others ≠ [] →
      (∀ target ∈ targets ++ others,
        Searchable tree root config (Path.resolve directory target)) →
      ∃ first second both, filesToCheck tree root targets config directory = .ok first ∧
        filesToCheck tree root others config directory = .ok second ∧
        filesToCheck tree root (targets ++ others) config directory = .ok both ∧
        ∀ file, file ∈ both ↔ file ∈ first ∨ file ∈ second) ∧
    (∀ targets others files, targets ≠ [] → others ≠ [] →
      (∀ place, (∃ target ∈ targets, Path.resolve directory target = place) ↔
        ∃ target ∈ others, Path.resolve directory target = place) →
      filesToCheck tree root targets config directory = .ok files →
      filesToCheck tree root others config directory = .ok files) ∧
    (∀ before target after error,
      (∀ target ∈ before, Searchable tree root config (Path.resolve directory target)) →
      tree.kindOf (Path.resolve directory target) = .error error →
      filesToCheck tree root (before ++ target :: after) config directory =
        .error (error.message "stat" (Path.absolute (Path.resolve directory target)))) ∧
    ∀ targets files, targets ≠ [] →
      filesToCheck tree root targets config directory = .ok files →
      (∀ file ∈ files, Path.isAbsolute file = true ∧ Path.normalize file = file ∧
        Path.IsSource file) ∧
      (files ≠ [] → filesToCheck tree root files config directory = .ok files) := by
  refine ⟨fun targets files hfiles => ?_, fun targets others htargets hothers hsearchable => ?_,
    fun targets others files htargets hothers hsame hfiles =>
      filesToCheck_congr htargets hothers hsame hfiles,
    fun before target after error hbefore hkind => filesToCheck_eq_error hbefore hkind,
    fun targets files htargets hfiles => ⟨fun file hfile => ?_, fun hne =>
      filesToCheck_self hdisk htargets hne hfiles⟩⟩
  · by_cases htargets : targets = []
    · subst htargets
      exact inOrder_of_search hdisk.proper hfiles
    · exact ((filesToCheck_eq_ok_iff htargets).mp hfiles).2.1
  · obtain ⟨htargetsAll, hothersAll⟩ := List.forall_mem_append.mp hsearchable
    obtain ⟨first, hfirst⟩ := filesToCheck_of_searchable htargets htargetsAll
    obtain ⟨second, hsecond⟩ := filesToCheck_of_searchable hothers hothersAll
    obtain ⟨both, hboth⟩ := filesToCheck_of_searchable (by simp [htargets]) hsearchable
    exact ⟨first, second, both, hfirst, hsecond, hboth,
      mem_filesToCheck_append_iff htargets hothers hfirst hsecond hboth⟩
  · obtain ⟨source, hplace, -, rfl, hsource⟩ :=
      exists_place_of_mem_filesToCheck hdisk htargets hfiles hfile
    exact ⟨Path.isAbsolute_absolute source, Path.normalize_absolute hplace,
      isTypeScriptPath_iff.mp hsource⟩

/-- A library with a directory of its own, and a file with declarations. -/
def smallLibrary : FileTree :=
  ⟨[(["p", "lib", "deep", "m.mts"], ""), (["p", "lib", "a.ts"], ""),
    (["p", "lib", "types.d.ts"], ""), (["p", "b.tsx"], "")], []⟩

theorem filesToCheck_setLike_of_smallLibrary :
    (∃ first second both,
      filesToCheck smallLibrary ["p"] ["lib", "b.tsx"] Config.default ["p"] = .ok first ∧
      filesToCheck smallLibrary ["p"] ["./lib/deep", "/p/b.tsx"] Config.default ["p"] =
        .ok second ∧
      filesToCheck smallLibrary ["p"] ["lib", "b.tsx", "./lib/deep", "/p/b.tsx"] Config.default
        ["p"] = .ok both ∧
      ∀ file, file ∈ both ↔ file ∈ first ∨ file ∈ second) ∧
    filesToCheck smallLibrary ["p"] ["lib", "missing", "b.tsx/c.ts"] Config.default ["p"] =
      .error "ENOENT: no such file or directory, stat '/p/missing'" := by
  have hdisk : smallLibrary.IsDisk := by decide
  obtain ⟨-, hunion, -, hfails, -⟩ := filesToCheck_setLike hdisk ["p"] ["p"] Config.default
  constructor
  · refine hunion ["lib", "b.tsx"] ["./lib/deep", "/p/b.tsx"] (by simp) (by simp) ?_
    decide +kernel
  · refine hfails ["lib"] "missing" ["b.tsx/c.ts"] .missing ?_ (by decide)
    decide +kernel

end Lists

end NamedParams
