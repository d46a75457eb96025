import NamedParams.Proofs.Lookup
import NamedParams.Rule
import NamedParams.Source.Decorators

namespace NamedParams.Source

/-- The binding of a name that comes last. -/
def lastBinding? (bindings : List ImportBinding) (name : String) : Option ImportBinding :=
  bindings.reverse.find? (·.localName = name)

/-- What an expression refers to when names mean what they are bound to last: an imported name
    refers to what its module exports under the name, and a property of an imported module to the
    member of that name. -/
inductive RefersTo (bindings : List ImportBinding) : Tree → LibraryMember → Prop where
  | imported {token : Token} {binding : ImportBinding} {exported : String}
      (identifier : token.isIdentifier = true)
      (last : lastBinding? bindings token.name = some binding)
      (exports : binding.imported.exportedName? = some exported) :
      RefersTo bindings (.leaf token) ⟨binding.module, exported⟩
  | member {target dot member : Token} {binding : ImportBinding}
      (identifier : target.isIdentifier = true)
      (last : lastBinding? bindings target.name = some binding)
      (isModule : binding.imported = .module) :
      RefersTo bindings (.node .propertyAccess [.leaf target, .leaf dot, .leaf member])
        ⟨binding.module, member.displayName⟩

/-- A decorator marks a parameter through the imports of its file when its expression, or what
    that expression calls, refers to the marker. -/
def Decorator.Marks (decorator : Decorator) (file : SourceFile) : Prop :=
  RefersTo file.importBindings (callee decorator.expression) requiredMarker

namespace ImportIndex

theorem get?_insert (index : ImportIndex) (binding : ImportBinding) (name : String) :
    (index.insert binding).get? name =
      if binding.localName = name then some binding else index.get? name := by
  unfold insert get?
  split
  · rename_i hany
    rw [find?_map_replace ImportBinding.localName]
    by_cases hname : binding.localName = name
    · subst hname
      have hfound : (List.find? (fun old : ImportBinding =>
          decide (old.localName = binding.localName)) index).isSome := by
        rw [List.find?_isSome]
        exact List.any_eq_true.mp hany
      obtain ⟨old, hfind⟩ := Option.isSome_iff_exists.mp hfound
      rw [if_pos rfl, if_pos rfl, hfind, Option.map_some]
    · rw [if_neg hname, if_neg hname]
  · rename_i hany
    rw [List.find?_append]
    by_cases hname : binding.localName = name
    · subst hname
      have hnone : List.find? (fun old : ImportBinding => decide (old.localName = binding.localName))
          index = none := by
        rw [List.find?_eq_none]
        intro old hmem hold
        exact hany (List.any_eq_true.mpr ⟨old, hmem, hold⟩)
      simp [hnone]
    · simp [hname]

/-- Among names that are inserted one after the other, the last one counts. -/
theorem get?_foldl_insert (bindings : List ImportBinding) (index : ImportIndex) (name : String) :
    (bindings.foldl insert index).get? name =
      (lastBinding? bindings name).or (index.get? name) := by
  induction bindings generalizing index with
  | nil => rfl
  | cons binding rest ih =>
    rw [List.foldl_cons, ih, get?_insert, lastBinding?, lastBinding?, List.reverse_cons,
      List.find?_append, Option.or_assoc]
    congr 1
    by_cases hname : binding.localName = name <;> simp [hname]

end ImportIndex

theorem SourceFile.get?_importIndex (file : SourceFile) (name : String) :
    file.importIndex.get? name = lastBinding? file.importBindings name := by
  rw [importIndex, ImportIndex.get?_foldl_insert]
  exact Option.or_none

/-- An expression resolves to exactly what it refers to. -/
theorem resolveExpression_eq_some_iff (file : SourceFile) (tree : Tree) (found : LibraryMember) :
    file.importIndex.resolveExpression tree = some found ↔
      RefersTo file.importBindings tree found := by
  constructor
  · intro hresolve
    unfold ImportIndex.resolveExpression at hresolve
    split at hresolve
    · split at hresolve
      · rename_i token hidentifier
        obtain ⟨binding, hget, hbinding⟩ := Option.bind_eq_some_iff.mp hresolve
        obtain ⟨exported, hexported, rfl⟩ := Option.map_eq_some_iff.mp hbinding
        rw [file.get?_importIndex] at hget
        exact .imported hidentifier hget hexported
      · cases hresolve
    · split at hresolve
      · rename_i target dot member hidentifier
        obtain ⟨binding, hget, hbinding⟩ := Option.bind_eq_some_iff.mp hresolve
        rw [file.get?_importIndex] at hget
        split at hbinding
        · cases hbinding
          exact .member hidentifier hget ‹_›
        · cases hbinding
      · cases hresolve
    · cases hresolve
  · intro hrefers
    cases hrefers with
    | imported hidentifier hlast hexported =>
      rw [ImportIndex.resolveExpression, if_pos hidentifier, file.get?_importIndex, hlast,
        Option.bind_some, hexported, Option.map_some]
    | member hidentifier hlast hmodule =>
      rw [ImportIndex.resolveExpression, if_pos hidentifier, file.get?_importIndex, hlast,
        Option.bind_some, if_pos hmodule]

end NamedParams.Source
