import Mathlib.Data.List.Induction
import NamedParams.Proofs.Sorting
import NamedParams.Proofs.Source.ImportOrder

namespace NamedParams

section FirstOccurrences

variable {α : Type} [BEq α] [LawfulBEq α]

theorem eraseDups_concat (list : List α) (a : α) :
    (list ++ [a]).eraseDups = if a ∈ list then list.eraseDups else list.eraseDups ++ [a] := by
  rw [List.eraseDups_append]
  by_cases ha : a ∈ list <;> simp [List.removeAll, List.eraseDups_cons, ha]

/-- A list without its repetitions is ordered by where its elements occur first. -/
theorem pairwise_idxOf_eraseDups (list : List α) :
    list.eraseDups.Pairwise fun a b => list.idxOf a < list.idxOf b := by
  induction list using List.reverseRecOn with
  | nil => exact .nil
  | append_singleton list last ih =>
    -- What occurs in the list before the new element occurs first where it did.
    have hkept : list.eraseDups.Pairwise fun a b =>
        (list ++ [last]).idxOf a < (list ++ [last]).idxOf b := by
      refine ih.imp_of_mem ?_
      intro a b ha hb hlt
      rwa [List.idxOf_append_of_mem (List.mem_eraseDups.mp ha),
        List.idxOf_append_of_mem (List.mem_eraseDups.mp hb)]
    rw [eraseDups_concat]
    split
    · exact hkept
    · rename_i hnew
      refine List.pairwise_append.mpr ⟨hkept, List.pairwise_singleton _ _, ?_⟩
      intro a ha b hb
      obtain rfl := List.mem_singleton.mp hb
      have hmem := List.mem_eraseDups.mp ha
      rw [List.idxOf_append_of_mem hmem, List.idxOf_append_of_notMem hnew]
      exact Nat.lt_add_right _ (List.idxOf_lt_length_iff.mpr hmem)

end FirstOccurrences

theorem Arranges.mem_iff {κ α : Type} [LT κ] {list : List α} {At : κ → α → Prop}
    (harranges : Arranges list At) {element : α} : element ∈ list ↔ ∃ place, At place element := by
  obtain ⟨placed, rfl, -, hmem⟩ := harranges
  simp [hmem]

/-- The place at which a key occurs before it occurs anywhere else. -/
def IsFirstPlace {κ α β : Type} [LE κ] (At : κ → α → Prop) (key : α → β) (sought : β) (place : κ) :
    Prop :=
  (∃ element, At place element ∧ key element = sought) ∧
    ∀ later other, At later other → key other = sought → place ≤ later

/-- In an ordered list, a key has its first place where it occurs first. -/
theorem isFirstPlace_getElem {κ α β : Type} [LinearOrder κ] [DecidableEq β]
    {placed : List (κ × α)} (hordered : placed.Pairwise fun a b => a.1 < b.1) (key : α → β)
    {sought : β} {index : ℕ} (hindex : (placed.map fun entry => key entry.2).idxOf sought = index)
    (hlt : index < placed.length) :
    IsFirstPlace (fun place element => (place, element) ∈ placed) key sought placed[index].1 := by
  have hkey : key placed[index].2 = sought := by
    have hinside : (placed.map fun entry => key entry.2).idxOf sought <
        (placed.map fun entry => key entry.2).length := by
      rw [hindex, List.length_map]
      exact hlt
    simpa [hindex] using List.getElem_idxOf hinside
  refine ⟨⟨placed[index].2, List.getElem_mem hlt, hkey⟩, ?_⟩
  intro later other hother hsame
  obtain ⟨j, hj, hentry⟩ := List.getElem_of_mem hother
  have hle : index ≤ j := by
    by_contra hbefore
    have hsooner : j < (placed.map fun entry => key entry.2).findIdx (· == sought) := by
      rw [← List.idxOf, hindex]
      omega
    have hnot := List.not_of_lt_findIdx hsooner
    simp [hentry, hsame] at hnot
  obtain heq | hbefore := Nat.eq_or_lt_of_le hle
  · subst heq
    rw [hentry]
  · have hplaces := List.pairwise_iff_getElem.mp hordered index j hlt hj hbefore
    rw [hentry] at hplaces
    exact hplaces.le

/-- The keys of an ordered list, each once, are in the order of their first places. -/
theorem Arranges.pairwise_first {κ α β : Type} [LinearOrder κ] [DecidableEq β] {list : List α}
    {At : κ → α → Prop} (harranges : Arranges list At) (key : α → β) :
    (list.map key).eraseDups.Pairwise fun a b =>
      ∃ first later, IsFirstPlace At key a first ∧ IsFirstPlace At key b later ∧
        first < later := by
  obtain ⟨placed, rfl, hordered, hmem⟩ := harranges
  have hplaces : At = fun place element => (place, element) ∈ placed := by
    funext place element
    exact propext (hmem place element).symm
  rw [List.map_map, hplaces]
  refine (pairwise_idxOf_eraseDups _).imp_of_mem ?_
  intro a b ha hb hlt
  have hlength {c : β} (hc : c ∈ (placed.map (key ∘ Prod.snd)).eraseDups) :
      (placed.map fun entry => key entry.2).idxOf c < placed.length := by
    have hlt := List.idxOf_lt_length_iff.mpr (List.mem_eraseDups.mp hc)
    rwa [List.length_map] at hlt
  exact ⟨_, _, isFirstPlace_getElem hordered key rfl (hlength ha),
    isFirstPlace_getElem hordered key rfl (hlength hb),
    List.pairwise_iff_getElem.mp hordered _ _ (hlength ha) (hlength hb) hlt⟩

namespace Source

namespace ImportIndex

/-- A new name comes last, and a known one stays where it is. -/
theorem map_localName_insert (index : ImportIndex) (binding : ImportBinding) :
    (index.insert binding).map ImportBinding.localName =
      if binding.localName ∈ index.map ImportBinding.localName then
        index.map ImportBinding.localName
      else index.map ImportBinding.localName ++ [binding.localName] := by
  have hany : index.any (·.localName = binding.localName) = true ↔
      binding.localName ∈ index.map ImportBinding.localName := by
    simp [List.any_eq_true]
  rw [insert]
  by_cases hknown : binding.localName ∈ index.map ImportBinding.localName
  · rw [if_pos (hany.mpr hknown), if_pos hknown, List.map_map]
    apply List.map_congr_left
    intro old _
    rw [Function.comp_apply]
    split
    · exact Eq.symm ‹_›
    · rfl
  · rw [if_neg fun hfound => hknown (hany.mp hfound), if_neg hknown, List.map_append,
      List.map_singleton]

/-- The names of a table are those that have been inserted, in the order of their first times. -/
theorem map_localName_foldl_insert (bindings : List ImportBinding) :
    (bindings.foldl insert []).map ImportBinding.localName =
      (bindings.map ImportBinding.localName).eraseDups := by
  induction bindings using List.reverseRecOn with
  | nil => rfl
  | append_singleton bindings last ih =>
    rw [List.foldl_append, List.foldl_cons, List.foldl_nil, map_localName_insert, ih,
      List.map_append, List.map_singleton, eraseDups_concat]
    simp only [List.mem_eraseDups]

end ImportIndex

/-- A declaration binds a name with the part that has a rank in it, and imports under the name what
    its module exports as the given name: the whole module has no such name, the default is called
    `default`, and a name in braces is the one before its alias, or the name itself. -/
inductive Tree.ImportsAs (declaration : Tree) (name : String) : ℕ → Option String → Prop where
  | whole {part : Tree} (hpart : declaration.child? .namespaceImport = some part)
      (hname : roleText? .name part = some name) :
      ImportsAs declaration name 0 none
  | default (hname : roleText? .defaultImport declaration = some name) :
      ImportsAs declaration name 1 (some "default")
  | alone {braces specifier : Tree} {index : ℕ}
      (hbraces : declaration.child? .namedImports = some braces)
      (hspecifier : braces.children[index]? = some specifier)
      (hvalue : specifier.child? .typeOnly = none)
      (hname : roleText? .name specifier = some name)
      (halias : roleText? .propertyKey specifier = none) :
      ImportsAs declaration name (2 + index) (some name)
  | aliased {braces specifier : Tree} {index : ℕ} {exported : String}
      (hbraces : declaration.child? .namedImports = some braces)
      (hspecifier : braces.children[index]? = some specifier)
      (hvalue : specifier.child? .typeOnly = none)
      (hname : roleText? .name specifier = some name)
      (halias : roleText? .propertyKey specifier = some exported) :
      ImportsAs declaration name (2 + index) (some exported)

/-- The record of a name in a table is what the last import that binds the name says. -/
structure SourceFile.Records (file : SourceFile) (name : String) (record : ImportBinding) : Prop
    where
  localName : record.localName = name
  last : ∃ index declaration rank, file.statements[index]? = some declaration ∧
    declaration.ImportsValues ∧
    declaration.ImportsAs name rank record.imported.exportedName? ∧
    record.module = importedModule declaration ∧
    ∀ later other, file.Binds later other → other.localName = name → later ≤ toLex (index, rank)

theorem Tree.Binds.importsAs {declaration : Tree} {rank : ℕ} {binding : ImportBinding}
    (hbinds : declaration.Binds rank binding) :
    declaration.ImportsAs binding.localName rank binding.imported.exportedName? ∧
      binding.module = importedModule declaration := by
  cases hbinds with
  | whole hpart hname => exact ⟨.whole hpart hname, rfl⟩
  | default hname => exact ⟨.default hname, rfl⟩
  | @member braces specifier index name hbraces hspecifier hkind hvalue hname =>
    refine ⟨?_, rfl⟩
    cases halias : roleText? .propertyKey specifier with
    | none => exact .alone hbraces hspecifier hvalue hname halias
    | some exported => exact .aliased hbraces hspecifier hvalue hname halias

theorem SourceFile.LastBinds.records {file : SourceFile} {name : String} {binding : ImportBinding}
    (hlast : file.LastBinds name binding) : file.Records name binding := by
  obtain ⟨place, ⟨index, declaration, rank, rfl, hstatement, hvalues, hbinds⟩, rfl, hgreatest⟩ :=
    hlast
  obtain ⟨himports, hmodule⟩ := hbinds.importsAs
  exact ⟨rfl, index, declaration, rank, hstatement, hvalues, himports, hmodule, hgreatest⟩

/-- The names in the table of a file are exactly those that its imports bind to values at the top of
    the file. Each is there once, in the order of the places at which they are bound first, and leads
    to the record of the last import that binds it. -/
theorem importIndex_records_last (file : SourceFile) :
    (file.importIndex.map ImportBinding.localName).Nodup ∧
      (∀ name, name ∈ file.importIndex.map ImportBinding.localName ↔
        ∃ place binding, file.Binds place binding ∧ binding.localName = name) ∧
      ((file.importIndex.map ImportBinding.localName).Pairwise fun a b =>
        ∃ first later, IsFirstPlace file.Binds ImportBinding.localName a first ∧
          IsFirstPlace file.Binds ImportBinding.localName b later ∧ first < later) ∧
      (∀ name record, file.importIndex.get? name = some record ↔ file.LastBinds name record) ∧
      ∀ name record, file.importIndex.get? name = some record → file.Records name record := by
  have hnames : file.importIndex.map ImportBinding.localName =
      (file.importBindings.map ImportBinding.localName).eraseDups :=
    ImportIndex.map_localName_foldl_insert file.importBindings
  have hget : ∀ name record, file.importIndex.get? name = some record ↔
      file.LastBinds name record := by
    intro name record
    rw [file.get?_importIndex, SourceFile.lastBinding?_eq_some_iff]
  refine ⟨?_, ?_, ?_, hget, fun name record hrecord => ((hget name record).mp hrecord).records⟩
  · rw [hnames]
    exact nodup_eraseDups _
  · intro name
    rw [hnames, List.mem_eraseDups, List.mem_map]
    simp only [file.arranges_importBindings.mem_iff, exists_and_right.symm]
    exact exists_comm
  · rw [hnames]
    exact file.arranges_importBindings.pairwise_first ImportBinding.localName

end Source

end NamedParams
