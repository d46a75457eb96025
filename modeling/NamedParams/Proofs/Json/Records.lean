import NamedParams.Proofs.Json.RoundTrip

namespace NamedParams.Json

/-- The keys of a record: none of them comes twice, and none is the position of an element, so the
    members of an object with these keys keep their places when it is read. -/
structure AreFields (keys : List String) : Prop where
  distinct : keys.Nodup
  names : ∀ key ∈ keys, index? key = none

instance (keys : List String) : Decidable (AreFields keys) :=
  decidable_of_iff (keys.Nodup ∧ ∀ key ∈ keys, index? key = none)
    ⟨fun ⟨hdistinct, hnames⟩ => ⟨hdistinct, hnames⟩, fun hfields => ⟨hfields.1, hfields.2⟩⟩

theorem insertMember_of_name {key : String} (hkey : index? key = none) (value : Json)
    (members : List (String × Json)) :
    insertMember key value members = members ++ [(key, value)] := by
  induction members with
  | nil => rfl
  | cons member rest ih =>
    obtain ⟨other, old⟩ := member
    rw [insertMember, hkey, List.cons_append, ← ih]

theorem setMember_of_new {key : String} {members : List (String × Json)}
    (hkey : index? key = none) (hnew : key ∉ members.map Prod.fst) (value : Json) :
    setMember members key value = members ++ [(key, value)] := by
  have hany : members.any (·.1 == key) = false := by
    rw [List.any_eq_false]
    intro member hmember heq
    exact hnew (List.mem_map.mpr ⟨member, hmember, by simpa using heq⟩)
  rw [setMember, hany, if_neg Bool.false_ne_true, insertMember_of_name hkey]

/-- Members with new names are read in their order. -/
theorem rereadMembers_of_fields (done members : List (String × Json))
    (hfields : AreFields ((done ++ members).map Prod.fst)) :
    rereadMembers done members =
      done ++ members.map fun member => (member.1, member.2.reread) := by
  induction members generalizing done with
  | nil => simp [rereadMembers]
  | cons member rest ih =>
    obtain ⟨key, value⟩ := member
    have hkey : index? key = none := hfields.names key (by simp)
    have hnew : key ∉ done.map Prod.fst := by
      have hdistinct := hfields.distinct
      rw [List.map_append, List.nodup_append] at hdistinct
      intro hdone
      exact hdistinct.2.2 key hdone key (by simp) rfl
    have hrest : AreFields (((done ++ [(key, value.reread)]) ++ rest).map Prod.fst) := by
      simpa using hfields
    rw [rereadMembers, setMember_of_new hkey hnew, ih _ hrest]
    simp

section Unchanged

/-- What is left of a list when each element is changed is the list itself exactly when no element
    is changed. -/
private theorem map_eq_self_iff {β : Type} {change : β → β} {list : List β} :
    list.map change = list ↔ ∀ element ∈ list, change element = element := by
  conv_lhs => rhs; rw [← List.map_id list]
  exact List.map_inj_left

theorem reread_array_iff {elements : List Json} :
    (Json.array elements).reread = .array elements ↔
      ∀ element ∈ elements, element.reread = element := by
  rw [reread, rereadElements_eq_map, Json.array.injEq, map_eq_self_iff]

theorem reread_object_iff {members : List (String × Json)}
    (hfields : AreFields (members.map Prod.fst)) :
    (Json.object members).reread = .object members ↔
      ∀ member ∈ members, member.2.reread = member.2 := by
  rw [reread, rereadMembers_of_fields [] members hfields, List.nil_append, Json.object.injEq,
    map_eq_self_iff]
  simp only [Prod.ext_iff, true_and]

theorem reread_string (text : String) : (Json.string text).reread = .string text := rfl

theorem reread_texts (texts : List String) :
    (Json.array (texts.map .string)).reread = .array (texts.map .string) := by
  rw [reread_array_iff]
  intro element helement
  obtain ⟨text, -, rfl⟩ := List.mem_map.mp helement
  exact reread_string text

end Unchanged

end NamedParams.Json
