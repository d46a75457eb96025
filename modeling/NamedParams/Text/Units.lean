namespace NamedParams.Text

/-- The UTF-16 code units of a character: one in the basic plane, and a high and a low
    surrogate above it. -/
def codeUnits (c : Char) : List Nat :=
  if c.toNat < 0x10000 then [c.toNat]
  else [0xD800 + (c.toNat - 0x10000) / 0x400, 0xDC00 + (c.toNat - 0x10000) % 0x400]

/-- The UTF-16 code units of a text, in order. -/
def encode (text : List Char) : List Nat :=
  text.flatMap codeUnits

/-- How many code units a character takes. -/
def unitsOf (c : Char) : Nat :=
  if c.toNat < 0x10000 then 1 else 2

/-- The length of a text in code units. Offsets and columns are counted in this measure. -/
def units : List Char → Nat
  | [] => 0
  | c :: rest => unitsOf c + units rest

/-- Texts are sorted by their code units, so a character above the basic plane comes before
    one in the range from U+E000 to U+FFFF. -/
def unitsLE (a b : String) : Bool :=
  !List.lex (encode b.toList) (encode a.toList) fun m n => decide (m < n)

theorem unitsOf_pos (c : Char) : 0 < unitsOf c := by
  unfold unitsOf
  split <;> omega

@[simp] theorem units_nil : units [] = 0 := rfl

@[simp] theorem units_cons (c : Char) (rest : List Char) :
    units (c :: rest) = unitsOf c + units rest := rfl

@[simp] theorem units_append (a b : List Char) : units (a ++ b) = units a + units b := by
  induction a with
  | nil => simp
  | cons c rest ih => simp [ih, Nat.add_assoc]

theorem units_pos {text : List Char} (htext : text ≠ []) : 0 < units text := by
  cases text with
  | nil => contradiction
  | cons c rest =>
    have hc := unitsOf_pos c
    rw [units_cons]
    omega

end NamedParams.Text
