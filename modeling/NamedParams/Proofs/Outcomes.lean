import Mathlib.Data.List.Forall2

namespace NamedParams

variable {α β ε : Type}

theorem bind_eq_ok_iff {first : Except ε α} {next : α → Except ε β} {b : β} :
    (first >>= next) = .ok b ↔ ∃ a, first = .ok a ∧ next a = .ok b := by
  constructor
  · intro hrun
    cases first with
    | error error => cases hrun
    | ok a => exact ⟨a, rfl, hrun⟩
  · rintro ⟨a, rfl, hrun⟩
    exact hrun

theorem bind_eq_error_iff {first : Except ε α} {next : α → Except ε β} {error : ε} :
    (first >>= next) = .error error ↔
      first = .error error ∨ ∃ a, first = .ok a ∧ next a = .error error := by
  cases first with
  | error other =>
    have hrun : (Except.error other >>= next) = .error other := rfl
    simp [hrun]
  | ok a =>
    have hrun : (Except.ok a >>= next) = next a := rfl
    simp [hrun]

theorem isOk_iff_exists {result : Except ε α} : result.isOk = true ↔ ∃ a, result = .ok a := by
  cases result with
  | error error => simp [Except.isOk, Except.toBool]
  | ok a => simp [Except.isOk, Except.toBool]

/-- What only goes on from a result succeeds with it. -/
theorem exists_bind_eq_ok_iff {first : Except ε α} {next : α → β} :
    (∃ b, (first >>= fun a => .ok (next a)) = .ok b) ↔ ∃ a, first = .ok a := by
  constructor
  · rintro ⟨b, hrun⟩
    obtain ⟨a, hfirst, -⟩ := bind_eq_ok_iff.mp hrun
    exact ⟨a, hfirst⟩
  · rintro ⟨a, hfirst⟩
    exact ⟨next a, bind_eq_ok_iff.mpr ⟨a, hfirst, rfl⟩⟩

/-- Steps that all succeed come to one result each. -/
theorem mapM_eq_ok_iff {step : α → Except ε β} {items : List α} {results : List β} :
    items.mapM step = .ok results ↔
      List.Forall₂ (fun item result => step item = .ok result) items results := by
  induction items generalizing results with
  | nil =>
    rw [List.mapM_nil, List.forall₂_nil_left_iff]
    exact ⟨fun hrun => (Except.ok.inj hrun).symm, fun hresults => hresults ▸ rfl⟩
  | cons item rest ih =>
    rw [List.mapM_cons, bind_eq_ok_iff, List.forall₂_cons_left_iff]
    simp only [bind_eq_ok_iff, ih]
    constructor
    · rintro ⟨first, hfirst, others, hothers, hrun⟩
      exact ⟨first, others, hfirst, hothers, (Except.ok.inj hrun).symm⟩
    · rintro ⟨first, others, hfirst, hothers, rfl⟩
      exact ⟨first, hfirst, others, hothers, rfl⟩

/-- What steps that all succeed come to, is what each of them comes to. -/
theorem mem_of_mapM {step : α → Except ε β} {items : List α} {results : List β}
    (hrun : items.mapM step = .ok results) (b : β) :
    b ∈ results ↔ ∃ item ∈ items, step item = .ok b := by
  induction items generalizing results with
  | nil =>
    obtain rfl : [] = results := Except.ok.inj hrun
    simp
  | cons item rest ih =>
    rw [List.mapM_cons] at hrun
    obtain ⟨first, hfirst, hrun⟩ := bind_eq_ok_iff.mp hrun
    obtain ⟨others, hothers, hrun⟩ := bind_eq_ok_iff.mp hrun
    obtain rfl : first :: others = results := Except.ok.inj hrun
    simp [ih hothers, hfirst, eq_comm]

theorem mem_flatten_of_mapM {step : α → Except ε (List β)} {items : List α}
    {results : List (List β)} (hrun : items.mapM step = .ok results) (b : β) :
    b ∈ results.flatten ↔ ∃ item ∈ items, ∃ result, step item = .ok result ∧ b ∈ result := by
  simp only [List.mem_flatten, mem_of_mapM hrun]
  constructor
  · rintro ⟨result, ⟨item, hitem, hstep⟩, hb⟩
    exact ⟨item, hitem, result, hstep, hb⟩
  · rintro ⟨item, hitem, result, hstep, hb⟩
    exact ⟨result, ⟨item, hitem, hstep⟩, hb⟩

theorem exists_ok_of_mem_of_mapM {step : α → Except ε β} {items : List α} {results : List β}
    (hrun : items.mapM step = .ok results) {item : α} (hitem : item ∈ items) :
    ∃ result, step item = .ok result := by
  obtain ⟨before, after, rfl⟩ := List.append_of_mem hitem
  rw [List.mapM_append, bind_eq_ok_iff] at hrun
  obtain ⟨_, _, hrun⟩ := hrun
  rw [List.mapM_cons] at hrun
  simp only [bind_eq_ok_iff] at hrun
  obtain ⟨_, ⟨result, hresult, _⟩, _⟩ := hrun
  exact ⟨result, hresult⟩

theorem exists_mapM_eq_ok_iff {step : α → Except ε β} {items : List α} :
    (∃ results, items.mapM step = .ok results) ↔ ∀ item ∈ items, ∃ result, step item = .ok result := by
  refine ⟨fun ⟨results, hrun⟩ item hitem => exists_ok_of_mem_of_mapM hrun hitem, fun hsteps => ?_⟩
  induction items with
  | nil => exact ⟨[], rfl⟩
  | cons item rest ih =>
    obtain ⟨⟨first, hfirst⟩, hrest⟩ := List.forall_mem_cons.mp hsteps
    obtain ⟨others, hothers⟩ := ih hrest
    refine ⟨first :: others, ?_⟩
    rw [List.mapM_cons]
    exact bind_eq_ok_iff.mpr ⟨first, hfirst, bind_eq_ok_iff.mpr ⟨others, hothers, rfl⟩⟩

/-- Steps are taken one after the other, up to the first that fails. -/
theorem mapM_eq_error {step : α → Except ε β} {before : List α} {item : α} {error : ε}
    (hbefore : ∀ item ∈ before, ∃ result, step item = .ok result)
    (hitem : step item = .error error) (after : List α) :
    (before ++ item :: after).mapM step = .error error := by
  obtain ⟨results, hresults⟩ := exists_mapM_eq_ok_iff.mpr hbefore
  rw [List.mapM_append, List.mapM_cons, hresults, hitem]
  rfl

theorem exists_of_mapM_eq_error {step : α → Except ε β} {items : List α} {error : ε}
    (hrun : items.mapM step = .error error) : ∃ item ∈ items, step item = .error error := by
  induction items with
  | nil => cases hrun
  | cons item rest ih =>
    rw [List.mapM_cons] at hrun
    obtain hitem | ⟨_, -, hrun⟩ := bind_eq_error_iff.mp hrun
    · exact ⟨item, List.mem_cons_self, hitem⟩
    · obtain hrest | ⟨_, -, hrun⟩ := bind_eq_error_iff.mp hrun
      · obtain ⟨other, hother, hfails⟩ := ih hrest
        exact ⟨other, List.mem_cons_of_mem _ hother, hfails⟩
      · cases hrun

theorem mapM_append_eq_ok_iff {step : α → Except ε β} {items more : List α} {results : List β} :
    (items ++ more).mapM step = .ok results ↔ ∃ first second, items.mapM step = .ok first ∧
      more.mapM step = .ok second ∧ first ++ second = results := by
  rw [List.mapM_append, bind_eq_ok_iff]
  simp only [bind_eq_ok_iff]
  constructor
  · rintro ⟨first, hfirst, second, hsecond, hrun⟩
    exact ⟨first, second, hfirst, hsecond, Except.ok.inj hrun⟩
  · rintro ⟨first, second, hfirst, hsecond, rfl⟩
    exact ⟨first, hfirst, second, hsecond, rfl⟩

/-- Steps that change nothing. -/
theorem eq_of_mapM_eq_ok {step : α → Except ε α} {items results : List α}
    (hsame : ∀ item ∈ items, step item = .ok item) (hrun : items.mapM step = .ok results) :
    results = items := by
  induction items generalizing results with
  | nil => exact (Except.ok.inj hrun).symm
  | cons item rest ih =>
    obtain ⟨hitem, hrest⟩ := List.forall_mem_cons.mp hsame
    rw [List.mapM_cons] at hrun
    obtain ⟨first, hfirst, hrun⟩ := bind_eq_ok_iff.mp hrun
    obtain ⟨others, hothers, hrun⟩ := bind_eq_ok_iff.mp hrun
    obtain rfl : item = first := Except.ok.inj (hitem.symm.trans hfirst)
    obtain rfl : item :: others = results := Except.ok.inj hrun
    rw [ih hrest hothers]

end NamedParams
