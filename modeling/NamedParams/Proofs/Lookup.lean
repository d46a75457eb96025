namespace NamedParams

/-- In a list, everything with the key of a new element is replaced by it. Afterwards, a key leads to
    the new element if it is the key of that and led to something before. -/
theorem find?_map_replace {α β : Type} [DecidableEq β] (key : α → β) (new : α) (list : List α)
    (sought : β) :
    (list.map fun old => if key old = key new then new else old).find? (fun a => key a = sought) =
      if key new = sought then (list.find? fun a => key a = sought).map fun _ => new
      else list.find? fun a => key a = sought := by
  have hsame : ((fun a => decide (key a = sought)) ∘ fun old =>
      if key old = key new then new else old) = fun a => decide (key a = sought) := by
    funext old
    rw [Function.comp_apply]
    by_cases hold : key old = key new
    · rw [if_pos hold, hold]
    · rw [if_neg hold]
  rw [List.find?_map, hsame]
  cases hfind : list.find? fun a => key a = sought with
  | none => simp
  | some old =>
    have hold : key old = sought := by simpa using List.find?_some hfind
    rw [Option.map_some, Option.map_some, hold]
    by_cases hnew : key new = sought
    · rw [if_pos hnew.symm, if_pos hnew]
    · rw [if_neg fun heq => hnew heq.symm, if_neg hnew]

end NamedParams
