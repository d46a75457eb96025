import NamedParams.Json.Printer
import NamedParams.Proofs.Json.DecimalText

namespace NamedParams.Json

open NamedParams.Number NamedParams.Text

section Quoted

theorem hexDigit?_hexDigit (n : Nat) : hexDigit? (hexDigit n) = some (n % 16) := by
  have hdigits : ∀ m < 16, hexDigit? (Nat.digitChar m) = some m := by decide
  exact hdigits _ (Nat.mod_lt _ (by decide))

/-- An escaped character is read as itself. -/
theorem readQuoted_escapeChar (taken : List Nat) (c : Char) (rest : List Char) :
    readQuoted taken (escapeChar c ++ rest) = readQuoted (c.toNat :: taken) rest := by
  -- Seven characters have a letter of their own, and the reader knows it.
  fun_cases escapeChar c with
  | case8 _ _ _ _ _ _ _ hcontrol =>
    have hcode : 4096 * 0 + 256 * 0 + 16 * (c.toNat / 16 % 16) + c.toNat % 16 = c.toNat := by
      omega
    simp only [List.cons_append, List.nil_append, readQuoted, hexDigit?_hexDigit,
      show hexDigit? '0' = some 0 from rfl, hcode]
  | case9 hquote hbackslash _ _ _ _ _ hplain =>
    rw [List.cons_append, List.nil_append, readQuoted.eq_def]
    split <;> simp_all
  | _ => simp_all [readQuoted, escaped?]

theorem readQuoted_text (text : List Char) (taken : List Nat) (rest : List Char) :
    readQuoted taken (text.flatMap escapeChar ++ '\x22' :: rest) =
      some (taken.reverse ++ text.map Char.toNat, rest) := by
  induction text generalizing taken with
  | nil => simp [readQuoted]
  | cons c text ih =>
    rw [List.flatMap_cons, List.append_assoc, readQuoted_escapeChar, ih]
    simp

/-- No character is a surrogate. -/
theorem not_high_toNat (c : Char) : ¬ (0xD800 ≤ c.toNat ∧ c.toNat < 0xDC00) := by
  have hvalid := c.valid
  simp only [UInt32.isValidChar, Nat.isValidChar] at hvalid
  have hcode : c.val.toNat = c.toNat := rfl
  omega

theorem pairSurrogates_toNat (text : List Char) : pairSurrogates (text.map Char.toNat) = text := by
  match text with
  | [] => rfl
  | [c] => simp [pairSurrogates]
  | c :: d :: text =>
    have hnext := pairSurrogates_toNat (d :: text)
    have hhigh := not_high_toNat c
    rw [List.map_cons, List.map_cons, pairSurrogates, if_neg (by grind), ← List.map_cons, hnext]
    simp

theorem readString_text (text : String) (rest : List Char) :
    readString (text.toList.flatMap escapeChar ++ '\x22' :: rest) = some (text, rest) := by
  rw [readString, readQuoted_text, List.reverse_nil, List.nil_append, Option.map_some]
  dsimp only
  rw [pairSurrogates_toNat, String.ofList_toList]

end Quoted

section Gaps

/-- Whether a text is nothing but white space. -/
def IsGap (text : List Char) : Prop :=
  ∀ c ∈ text, isSpace c = true

theorem skipSpace_gap {gap : List Char} (hgap : IsGap gap) (rest : List Char) :
    skipSpace (gap ++ rest) = skipSpace rest := by
  rw [skipSpace, skipSpace, List.dropWhile_append_of_pos hgap]

theorem skipSpace_cons {c : Char} (hc : isSpace c = false) (rest : List Char) :
    skipSpace (c :: rest) = c :: rest := by
  rw [skipSpace, List.dropWhile_cons_of_neg (by simp [hc])]

theorem isGap_newline (layout : Layout) : IsGap layout.newline := by
  intro c hc
  cases layout with
  | line => cases hc
  | indented depth =>
    obtain rfl | hc := List.mem_cons.mp hc
    · rfl
    · rw [List.eq_of_mem_replicate hc]
      rfl

/-- White space in front of a value, an element or a member is skipped. -/
theorem readExpected_gap (fuel : Nat) (expected : Expected) {gap : List Char} (hgap : IsGap gap)
    (rest : List Char) : readExpected fuel expected (gap ++ rest) =
      readExpected fuel expected rest := by
  have hvalue (fuel : Nat) :
      readExpected fuel .value (gap ++ rest) = readExpected fuel .value rest := by
    cases fuel with
    | zero => rfl
    | succ fuel => rw [readExpected, readExpected, skipSpace_gap hgap]
  cases fuel with
  | zero => rfl
  | succ fuel =>
    cases expected with
    | value => exact hvalue (fuel + 1)
    | elements done => rw [readExpected, readExpected, hvalue]
    | members done => rw [readExpected, readExpected, skipSpace_gap hgap]

end Gaps

mutual

/-- What a written document is read as: every number as the nearest one that can be held, and of
    several members with one key the last. -/
def reread : Json → Json
  | .number (.finite negative decimal) =>
    .number (numberOf (negative && decimal.digits != 0) decimal.digits decimal.exponent)
  | .number (.infinite _) => .null
  | .array elements => .array (rereadElements elements)
  | .object members => .object (rereadMembers [] members)
  | value => value

def rereadElements : List Json → List Json
  | [] => []
  | element :: rest => reread element :: rereadElements rest

def rereadMembers (done : List (String × Json)) : List (String × Json) → List (String × Json)
  | [] => done
  | (key, value) :: rest => rereadMembers (setMember done key (reread value)) rest

end

theorem exists_gap_colon (layout : Layout) : ∃ gap, IsGap gap ∧ layout.colon = ':' :: gap := by
  cases layout with
  | line => exact ⟨[], List.forall_mem_nil _, rfl⟩
  | indented depth => exact ⟨[' '], by simp [IsGap, isSpace], rfl⟩

theorem colon_deeper (layout : Layout) : layout.deeper.colon = layout.colon := by
  cases layout <;> rfl

theorem rereadElements_eq_map (elements : List Json) :
    rereadElements elements = elements.map reread := by
  induction elements with
  | nil => rfl
  | cons element rest ih => rw [rereadElements, ih, List.map_cons]

section Starts

variable (fuel : Nat) (rest : List Char)

theorem readExpected_minus : readExpected (fuel + 1) .value ('-' :: rest) =
    (readMagnitude true rest).map fun (value, rest) => (.number value, rest) := rfl

theorem readExpected_quote : readExpected (fuel + 1) .value ('\x22' :: rest) =
    (readString rest).map fun (value, rest) => (.string value, rest) := rfl

theorem readExpected_bracket : readExpected (fuel + 1) .value ('[' :: rest) =
    match skipSpace rest with
    | ']' :: rest => some (.array [], rest)
    | rest => readExpected fuel (.elements []) rest := rfl

theorem readExpected_brace : readExpected (fuel + 1) .value ('\x7b' :: rest) =
    match skipSpace rest with
    | '\x7d' :: rest => some (.object [], rest)
    | rest => readExpected fuel (.members []) rest := rfl

end Starts

section Numbers

theorem exists_text_eq_cons (decimal : Decimal) :
    ∃ c rest, decimal.text = c :: rest ∧ c.isDigit = true := by
  obtain ⟨c, digits, hdigits⟩ : ∃ c digits, decimal.digitText = c :: digits :=
    List.exists_cons_of_ne_nil Nat.toDigits_ne_nil
  have hc : c.isDigit = true := isDigit_of_mem_digitText (hdigits ▸ List.mem_cons_self)
  rw [Decimal.text, hdigits]
  dsimp only
  split
  · exact ⟨'0', _, rfl, rfl⟩
  split
  · exact ⟨c, _, rfl, hc⟩
  split
  · rename_i hinside
    obtain ⟨point, hpoint⟩ : ∃ point : Nat,
        ((c :: digits).length + decimal.exponent).toNat = point + 1 :=
      Nat.exists_eq_succ_of_ne_zero (by simp at hinside ⊢; omega)
    rw [hpoint]
    exact ⟨c, _, rfl, hc⟩
  split
  · exact ⟨'0', _, rfl, rfl⟩
  · exact ⟨c, _, rfl, hc⟩

theorem isSpace_of_isDigit {c : Char} (hc : c.isDigit = true) : isSpace c = false := by
  simp only [isSpace, Bool.or_eq_false_iff, beq_eq_false_iff_ne]
  refine ⟨⟨⟨?_, ?_⟩, ?_⟩, ?_⟩ <;> rintro rfl <;> simp at hc

theorem readExpected_of_digit {c : Char} (hc : c.isDigit = true) (fuel : Nat)
    (rest : List Char) : readExpected (fuel + 1) .value (c :: rest) =
      (readMagnitude false (c :: rest)).map fun (value, rest) => (.number value, rest) := by
  rw [readExpected, skipSpace_cons (isSpace_of_isDigit hc)]
  split
  all_goals first | rfl | (rename_i heq; cases heq; simp at hc)

theorem readExpected_number (value : JsonNumber) {rest : List Char} (hrest : EndsNumber rest)
    (fuel : Nat) : readExpected (fuel + 1) .value (numberText value ++ rest) =
      some (reread (.number value), rest) := by
  cases value with
  | infinite negative => rfl
  | finite negative decimal =>
    obtain ⟨c, digits, htext, hc⟩ := exists_text_eq_cons decimal
    have hread := readMagnitude_text decimal hrest
    rw [numberText, JsonNumber.text, reread]
    cases negative && decimal.digits != 0 with
    | true =>
      rw [if_pos rfl, List.cons_append, readExpected_minus, hread]
      rfl
    | false =>
      rw [if_neg Bool.false_ne_true, htext, List.cons_append, readExpected_of_digit hc,
        ← List.cons_append, ← htext, hread]
      rfl

end Numbers

section Sequences

theorem endsNumber_cons {c : Char} (hc : c.isDigit = false ∧ c ≠ '.' ∧ c ≠ 'e' ∧ c ≠ 'E')
    (rest : List Char) : EndsNumber (c :: rest) := by
  rintro _ ⟨⟩
  exact hc

theorem endsNumber_gap {gap rest : List Char} (hgap : IsGap gap) (hrest : EndsNumber rest) :
    EndsNumber (gap ++ rest) := by
  cases gap with
  | nil => exact hrest
  | cons c gap =>
    have hc := hgap c List.mem_cons_self
    simp only [isSpace, Bool.or_eq_true, beq_iff_eq, or_assoc] at hc
    refine endsNumber_cons ?_ _
    obtain rfl | rfl | rfl | rfl := hc <;> decide

theorem endsNumber_printElements (layout : Layout) (elements : List Json) {rest : List Char}
    (hrest : EndsNumber rest) : EndsNumber (printElements layout elements ++ rest) := by
  cases elements with
  | nil => exact hrest
  | cons element elements => exact endsNumber_cons (by decide) _

theorem endsNumber_printMembers (layout : Layout) (members : List (String × Json))
    {rest : List Char} (hrest : EndsNumber rest) :
    EndsNumber (printMembers layout members ++ rest) := by
  cases members with
  | nil => exact hrest
  | cons member members => exact endsNumber_cons (by decide) _

/-- Neither white space nor a closing bracket starts a value. -/
theorem exists_print_eq_cons (layout : Layout) (value : Json) :
    ∃ c rest, print layout value = c :: rest ∧ isSpace c = false ∧ c ≠ ']' := by
  match value with
  | .null => exact ⟨_, _, rfl, rfl, by decide⟩
  | .bool true => exact ⟨_, _, rfl, rfl, by decide⟩
  | .bool false => exact ⟨_, _, rfl, rfl, by decide⟩
  | .string text => exact ⟨_, _, rfl, rfl, by decide⟩
  | .array [] => exact ⟨_, _, rfl, rfl, by decide⟩
  | .array (element :: elements) => exact ⟨_, _, rfl, rfl, by decide⟩
  | .object [] => exact ⟨_, _, rfl, rfl, by decide⟩
  | .object (member :: members) => exact ⟨_, _, rfl, rfl, by decide⟩
  | .number (.infinite negative) => exact ⟨_, _, rfl, rfl, by decide⟩
  | .number (.finite negative decimal) =>
    rw [print, numberText, JsonNumber.text]
    split
    · exact ⟨_, _, rfl, rfl, by decide⟩
    · obtain ⟨c, digits, htext, hc⟩ := exists_text_eq_cons decimal
      refine ⟨c, digits, htext, isSpace_of_isDigit hc, ?_⟩
      rintro rfl
      contradiction

/-- In an array that is not empty, elements are read. -/
theorem readExpected_bracket_print (layout : Layout) (value : Json) {gap : List Char}
    (hgap : IsGap gap) (rest : List Char) (fuel : Nat) :
    readExpected (fuel + 1) .value ('[' :: (gap ++ (print layout value ++ rest))) =
      readExpected fuel (.elements []) (print layout value ++ rest) := by
  obtain ⟨c, text, htext, hspace, hclose⟩ := exists_print_eq_cons layout value
  rw [readExpected_bracket, skipSpace_gap hgap, htext, List.cons_append, skipSpace_cons hspace]
  split
  · rename_i heq
    cases heq
    contradiction
  · rw [← List.cons_append, ← htext]

/-- In an object that is not empty, members are read. -/
theorem readExpected_brace_quote (key : String) (rest : List Char) {gap : List Char}
    (hgap : IsGap gap) (fuel : Nat) :
    readExpected (fuel + 1) .value ('\x7b' :: (gap ++ (quote key ++ rest))) =
      readExpected fuel (.members []) (quote key ++ rest) := by
  rw [readExpected_brace, skipSpace_gap hgap, quote, List.cons_append, skipSpace_cons rfl]
  rfl

/-- What is behind an element decides how an array goes on. -/
theorem readExpected_element {fuel : Nat} {text rest : List Char} {element : Json}
    (hread : readExpected fuel .value text = some (element, rest)) (done : List Json) :
    readExpected (fuel + 1) (.elements done) text =
      match skipSpace rest with
      | ',' :: rest => readExpected fuel (.elements (element :: done)) rest
      | ']' :: rest => some (.array (element :: done).reverse, rest)
      | _ => none := by
  rw [readExpected, hread]
  rfl

/-- What is behind the value of a member decides how an object goes on. -/
theorem readExpected_member {fuel : Nat} {key : String} {text rest : List Char} {value : Json}
    (hread : readExpected fuel .value text = some (value, rest)) (done : List (String × Json)) :
    readExpected (fuel + 1) (.members done) (quote key ++ ':' :: text) =
      match skipSpace rest with
      | ',' :: rest => readExpected fuel (.members (setMember done key value)) rest
      | '\x7d' :: rest => some (.object (setMember done key value), rest)
      | _ => none := by
  rw [quote, List.cons_append, List.append_assoc, List.cons_append, List.nil_append, readExpected,
    skipSpace_cons rfl]
  simp only [readString_text]
  change (readExpected fuel .value text).bind _ = _
  rw [hread]
  rfl

end Sequences

mutual

-- The reader spends one step on each element and each level, and both have at least one character,
-- so the induction is on its fuel and not on the value.

/-- A value that has been written is read back. What is behind it is left. -/
theorem readExpected_print (layout : Layout) (value : Json) {rest : List Char}
    (hrest : EndsNumber rest) {fuel : Nat} (hfuel : 2 * (print layout value).length ≤ fuel) :
    readExpected fuel .value (print layout value ++ rest) = some (reread value, rest) := by
  obtain ⟨fuel, rfl⟩ : ∃ count, fuel = count + 1 := by
    obtain ⟨c, text, htext, -⟩ := exists_print_eq_cons layout value
    rw [htext, List.length_cons] at hfuel
    exact Nat.exists_eq_succ_of_ne_zero (by omega)
  match value with
  | .null => rfl
  | .bool true => rfl
  | .bool false => rfl
  | .number n =>
    rw [print]
    exact readExpected_number n hrest fuel
  | .string text =>
    rw [print, quote, List.cons_append, readExpected_quote, List.append_assoc, List.cons_append,
      List.nil_append, readString_text]
    rfl
  | .array [] => rfl
  | .array (element :: elements) =>
    have hlength := hfuel
    rw [print] at hlength ⊢
    simp only [List.length_cons, List.length_append] at hlength
    simp only [List.cons_append, List.append_assoc, List.nil_append]
    rw [readExpected_bracket_print _ _ (isGap_newline _)]
    exact readExpected_printElements layout.deeper element elements [] (isGap_newline _) rest
      (by simp only [List.length_append]; omega)
  | .object [] => rfl
  | .object ((key, value) :: members) =>
    have hlength := hfuel
    rw [print] at hlength ⊢
    simp only [List.length_cons, List.length_append] at hlength
    simp only [List.cons_append, List.append_assoc, List.nil_append]
    rw [readExpected_brace_quote _ _ (isGap_newline _), ← colon_deeper]
    exact readExpected_printMembers layout.deeper key value members [] (isGap_newline _) rest
      (by simp only [List.length_append]; omega)
termination_by fuel

theorem readExpected_printElements (layout : Layout) (element : Json) (elements : List Json)
    (done : List Json) {gap : List Char} (hgap : IsGap gap) (rest : List Char) {fuel : Nat}
    (hfuel : 2 * (print layout element ++ printElements layout elements).length < fuel) :
    readExpected fuel (.elements done) (print layout element ++ (printElements layout elements ++
      (gap ++ ']' :: rest))) =
      some (.array (done.reverse ++ rereadElements (element :: elements)), rest) := by
  obtain ⟨fuel, rfl⟩ : ∃ count, fuel = count + 1 := Nat.exists_eq_succ_of_ne_zero (by omega)
  rw [List.length_append] at hfuel
  have hend : EndsNumber (gap ++ ']' :: rest) :=
    endsNumber_gap hgap (endsNumber_cons (by decide) _)
  have hroom : 2 * (print layout element).length ≤ fuel := by omega
  have hread := readExpected_print layout element
    (endsNumber_printElements layout elements hend) hroom
  rw [readExpected_element hread]
  match elements with
  | [] =>
    rw [printElements, List.nil_append, skipSpace_gap hgap, skipSpace_cons rfl]
    simp [rereadElements]
  | next :: elements =>
    rw [printElements, List.cons_append, skipSpace_cons rfl]
    simp only [printElements, List.length_cons, List.length_append] at hfuel
    simp only [List.append_assoc]
    rw [readExpected_gap _ _ (isGap_newline layout), readExpected_printElements layout next elements
      (element.reread :: done) hgap rest (by simp only [List.length_append]; omega)]
    simp [rereadElements]
termination_by fuel

theorem readExpected_printMembers (layout : Layout) (key : String) (value : Json)
    (members : List (String × Json)) (done : List (String × Json)) {gap : List Char}
    (hgap : IsGap gap) (rest : List Char) {fuel : Nat}
    (hfuel : 2 * (print layout value ++ printMembers layout members).length < fuel) :
    readExpected fuel (.members done) (quote key ++ (layout.colon ++ (print layout value ++
      (printMembers layout members ++ (gap ++ '\x7d' :: rest))))) =
      some (.object (rereadMembers done ((key, value) :: members)), rest) := by
  obtain ⟨fuel, rfl⟩ : ∃ count, fuel = count + 1 := Nat.exists_eq_succ_of_ne_zero (by omega)
  rw [List.length_append] at hfuel
  have hend : EndsNumber (gap ++ '\x7d' :: rest) :=
    endsNumber_gap hgap (endsNumber_cons (by decide) _)
  have hroom : 2 * (print layout value).length ≤ fuel := by omega
  have hread := readExpected_print layout value
    (endsNumber_printMembers layout members hend) hroom
  obtain ⟨space, hspace, hcolon⟩ := exists_gap_colon layout
  rw [← readExpected_gap fuel .value hspace] at hread
  rw [hcolon, List.cons_append, readExpected_member hread]
  match members with
  | [] =>
    rw [printMembers, List.nil_append, skipSpace_gap hgap, skipSpace_cons rfl]
    simp [rereadMembers]
  | (next, other) :: members =>
    rw [printMembers, List.cons_append, skipSpace_cons rfl]
    simp only [printMembers, List.length_cons, List.length_append] at hfuel
    simp only [List.append_assoc]
    rw [readExpected_gap _ _ (isGap_newline layout), readExpected_printMembers layout next other
      members _ hgap rest (by simp only [List.length_append]; omega)]
    simp [rereadMembers]
termination_by fuel

end

/-- A document that has been written is read back. -/
theorem parse_pretty (value : Json) : parse value.pretty = some value.reread := by
  have hend : EndsNumber [] := by
    rintro _ ⟨⟩
  have hroom : 2 * (print (.indented 0) value).length ≤ 2 * value.pretty.length + 2 := by
    simp [pretty]
  have hread := readExpected_print (.indented 0) value hend hroom
  rw [List.append_nil] at hread
  rw [parse, pretty, String.toList_ofList]
  rw [pretty] at hread
  rw [hread]
  rfl

end NamedParams.Json
