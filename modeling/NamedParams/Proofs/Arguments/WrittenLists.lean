import NamedParams.Arguments
import NamedParams.Proofs.Text.Blanks
import NamedParams.Proofs.Text.Separators

namespace NamedParams

open NamedParams.Text

/-- What can stand in a list with commas: some text without commas, and without white space at its
    ends. -/
structure IsEntry (entry : String) : Prop where
  nonempty : entry ≠ ""
  noComma : ',' ∉ entry.toList
  trimmed : IsTrimmed entry.toList

instance : DecidablePred IsEntry := fun entry =>
  decidable_of_iff (entry ≠ "" ∧ ',' ∉ entry.toList ∧ IsTrimmed entry.toList)
    ⟨fun ⟨hne, hcomma, htrimmed⟩ => ⟨hne, hcomma, htrimmed⟩,
      fun hentry => ⟨hentry.nonempty, hentry.noComma, hentry.trimmed⟩⟩

/-- Pieces that write entries: one for each of them, with white space around it, and blank ones
    anywhere between. -/
inductive WrittenAs : List String → List String → Prop
  | nil : WrittenAs [] []
  | blank {entries pieces : List String} {piece : String} (hpiece : IsBlank piece.toList)
      (hrest : WrittenAs entries pieces) : WrittenAs entries (piece :: pieces)
  | entry {entries pieces : List String} {entry before after : String}
      (hbefore : IsBlank before.toList) (hafter : IsBlank after.toList)
      (hrest : WrittenAs entries pieces) :
      WrittenAs (entry :: entries) ((before ++ entry ++ after) :: pieces)

/-- Entries are written by themselves. -/
theorem writtenAs_self (entries : List String) : WrittenAs entries entries := by
  induction entries with
  | nil => exact .nil
  | cons entry rest ih =>
    have hblank : IsBlank "".toList := by decide
    have hwritten : WrittenAs (entry :: rest) (("" ++ entry ++ "") :: rest) :=
      .entry hblank hblank ih
    rwa [String.empty_append, String.append_empty] at hwritten

/-- What is left of segments without the white space at their ends, as far as anything is. -/
def trimmedWords (segments : List (List Char)) : List (List Char) :=
  (segments.map trim).filter (!·.isEmpty)

theorem trimmedWords_cons_of_isBlank {segment : List Char} (hblank : IsBlank segment)
    (rest : List (List Char)) : trimmedWords (segment :: rest) = trimmedWords rest := by
  rw [trimmedWords, List.map_cons, trim_eq_nil_iff.mpr hblank]
  rfl

theorem trimmedWords_cons {segment : List Char} (hsome : trim segment ≠ [])
    (rest : List (List Char)) :
    trimmedWords (segment :: rest) = trim segment :: trimmedWords rest := by
  rw [trimmedWords, List.map_cons, List.filter_cons_of_pos (by simpa using hsome)]
  rfl

theorem trimmedWords_eq_nil_iff {segments : List (List Char)} :
    trimmedWords segments = [] ↔ ∀ segment ∈ segments, IsBlank segment := by
  rw [trimmedWords, List.filter_eq_nil_iff, List.forall_mem_map]
  simp only [Bool.not_eq_true', List.isEmpty_eq_false_iff, not_not, trim_eq_nil_iff]

theorem comma_not_mem_of_isBlank {text : List Char} (hblank : IsBlank text) : ',' ∉ text :=
  fun hcomma => absurd (hblank ',' hcomma) (by decide)

section Written

variable {entries pieces : List String}

theorem WrittenAs.comma_not_mem (hwritten : WrittenAs entries pieces)
    (hentries : ∀ entry ∈ entries, IsEntry entry) : ∀ piece ∈ pieces, ',' ∉ piece.toList := by
  induction hwritten with
  | nil => exact List.forall_mem_nil _
  | blank hpiece _ ih =>
    exact List.forall_mem_cons.mpr ⟨comma_not_mem_of_isBlank hpiece, ih hentries⟩
  | entry hbefore hafter _ ih =>
    obtain ⟨hentry, hentries⟩ := List.forall_mem_cons.mp hentries
    refine List.forall_mem_cons.mpr ⟨?_, ih hentries⟩
    simp [comma_not_mem_of_isBlank hbefore, comma_not_mem_of_isBlank hafter, hentry.noComma]

/-- What is left of the pieces are the entries. -/
theorem WrittenAs.trimmedWords_eq (hwritten : WrittenAs entries pieces)
    (hentries : ∀ entry ∈ entries, IsEntry entry) :
    trimmedWords (pieces.map String.toList) = entries.map String.toList := by
  induction hwritten with
  | nil => rfl
  | blank hpiece _ ih =>
    rw [List.map_cons, trimmedWords_cons_of_isBlank hpiece, ih hentries]
  | @entry entries pieces entry before after hbefore hafter _ ih =>
    obtain ⟨hentry, hentries⟩ := List.forall_mem_cons.mp hentries
    have htrim : trim (before ++ entry ++ after).toList = entry.toList := by
      rw [String.toList_append, String.toList_append, trim_append hbefore hafter hentry.trimmed]
    have hsome : entry.toList ≠ [] := fun hnil =>
      hentry.nonempty (String.toList_eq_nil_iff.mp hnil)
    rw [List.map_cons, trimmedWords_cons (htrim ▸ hsome), htrim, ih hentries, List.map_cons]

end Written

/-- Any segments write what is left of them. -/
theorem writtenAs_segments (segments : List (List Char)) :
    WrittenAs ((trimmedWords segments).map String.ofList) (segments.map String.ofList) := by
  induction segments with
  | nil => exact .nil
  | cons segment rest ih =>
    rw [List.map_cons]
    by_cases hnil : trim segment = []
    · have hblank := trim_eq_nil_iff.mp hnil
      rw [trimmedWords_cons_of_isBlank hblank]
      exact .blank (by rwa [String.toList_ofList]) ih
    · obtain ⟨before, after, hbefore, hafter, heq⟩ := exists_eq_append_trim segment
      have hpiece : String.ofList segment =
          String.ofList before ++ String.ofList (trim segment) ++ String.ofList after := by
        rw [← String.ofList_append, ← String.ofList_append, ← heq]
      rw [trimmedWords_cons hnil, List.map_cons, hpiece]
      exact .entry (by rwa [String.toList_ofList]) (by rwa [String.toList_ofList]) ih

theorem isEntry_of_mem_trimmedWords {text word : List Char}
    (hword : word ∈ trimmedWords (text.splitOn ',')) : IsEntry (String.ofList word) := by
  obtain ⟨hword, hsome⟩ := List.mem_filter.mp hword
  obtain ⟨segment, hsegment, rfl⟩ := List.mem_map.mp hword
  obtain ⟨before, after, -, -, heq⟩ := exists_eq_append_trim segment
  have hinside : trim segment ⊆ segment := fun c hc =>
    heq ▸ List.mem_append_left _ (List.mem_append_right _ hc)
  refine ⟨by simpa using hsome, ?_, ?_⟩
  · rw [String.toList_ofList]
    exact fun hcomma => not_mem_of_mem_splitOn hsegment (hinside hcomma)
  · rw [String.toList_ofList]
    exact isTrimmed_trim segment

/-- What is left between the commas of a text, if anything, is what is read. -/
theorem listArgument?_eq (text : String) :
    listArgument? text =
      if trimmedWords (text.toList.splitOn ',') = [] then none
      else some ((trimmedWords (text.toList.splitOn ',')).map String.ofList) := by
  simp only [← List.isEmpty_iff]
  rfl

theorem listArgument?_eq_none_iff {text : String} :
    listArgument? text = none ↔ ∀ piece ∈ text.toList.splitOn ',', IsBlank piece := by
  rw [listArgument?_eq, ← trimmedWords_eq_nil_iff]
  split <;> simp [*]

theorem listArgument?_eq_some_iff {text : String} {entries : List String} :
    listArgument? text = some entries ↔
      entries ≠ [] ∧ (∀ entry ∈ entries, IsEntry entry) ∧
        ∃ pieces, WrittenAs entries pieces ∧ text = ",".intercalate pieces := by
  rw [listArgument?_eq]
  constructor
  · intro hread
    split at hread
    · cases hread
    · rename_i hsome
      obtain rfl := Option.some.inj hread
      refine ⟨by simpa using hsome, ?_, _, writtenAs_segments _,
        (intercalate_segments rfl text).symm⟩
      exact List.forall_mem_map.mpr fun word hword => isEntry_of_mem_trimmedWords hword
  · rintro ⟨hne, hentries, pieces, hwritten, rfl⟩
    have hpieces : pieces ≠ [] := by
      rintro rfl
      cases hwritten
      contradiction
    rw [splitOn_intercalate_texts rfl (hwritten.comma_not_mem hentries) hpieces,
      hwritten.trimmedWords_eq hentries, if_neg (by simpa using hne), List.map_map]
    simp

theorem listArgument?_intercalate {entries : List String} (hne : entries ≠ [])
    (hentries : ∀ entry ∈ entries, IsEntry entry) :
    listArgument? (",".intercalate entries) = some entries :=
  listArgument?_eq_some_iff.mpr ⟨hne, hentries, entries, writtenAs_self entries, rfl⟩

/-- A list is read as exactly the entries that it writes, whatever white space is around them and
    wherever blank pieces are among them, and as none if all of its pieces are blank. Entries with
    commas alone between them are read back, and so are those that were read from any text. -/
theorem listArgument?_reads_entries (text : String) (entries : List String) :
    (listArgument? text = some entries ↔
      entries ≠ [] ∧ (∀ entry ∈ entries, IsEntry entry) ∧
        ∃ pieces, WrittenAs entries pieces ∧ text = ",".intercalate pieces) ∧
    (listArgument? text = none ↔ ∀ piece ∈ text.toList.splitOn ',', IsBlank piece) ∧
    (entries ≠ [] → (∀ entry ∈ entries, IsEntry entry) →
      listArgument? (",".intercalate entries) = some entries) ∧
    (listArgument? text = some entries →
      listArgument? (",".intercalate entries) = some entries) := by
  refine ⟨listArgument?_eq_some_iff, listArgument?_eq_none_iff, listArgument?_intercalate, ?_⟩
  intro hread
  obtain ⟨hne, hentries, -⟩ := listArgument?_eq_some_iff.mp hread
  exact listArgument?_intercalate hne hentries

/-- Two names with white space of several kinds around them, and with blank pieces at the ends and
    between them. -/
theorem listArgument?_reads_entries_of_spacedNames :
    (∀ entry ∈ ["assert.ok", "in variant"], IsEntry entry) ∧
      listArgument? ",\u3000assert.ok ,\t,\ufeffin variant\n," = some ["assert.ok", "in variant"] ∧
      listArgument? "assert.ok,in variant" = some ["assert.ok", "in variant"] :=
  have hentries : ∀ entry ∈ ["assert.ok", "in variant"], IsEntry entry := by decide
  have hwritten : WrittenAs ["assert.ok", "in variant"]
      ["", "\u3000" ++ "assert.ok" ++ " ", "\t", "\ufeff" ++ "in variant" ++ "\n", ""] :=
    .blank (by decide) (.entry (by decide) (by decide) (.blank (by decide)
      (.entry (by decide) (by decide) (.blank (by decide) .nil))))
  have hlaws := listArgument?_reads_entries ",\u3000assert.ok ,\t,\ufeffin variant\n,"
    ["assert.ok", "in variant"]
  have hread := hlaws.1.mpr ⟨by decide, hentries, _, hwritten, by decide⟩
  ⟨hentries, hread, hlaws.2.2.2 hread⟩

end NamedParams
