import EditImpact.Value.Json

/-!
Strings in JSON. Every character is written as code units, most of them escaped, and what is
written is read back, whatever follows the closing quote.
-/

namespace EditImpact.Json

set_option autoImplicit false

theorem hex_digit_hex_char (n : Fin 16) : hexDigit? (hexChar n) = some n.val := by
  revert n
  decide

theorem hex4_of_unit {code : Nat} (small : code < 0x10000) :
    hex4? (hexChar (code / 4096 % 16)) (hexChar (code / 256 % 16)) (hexChar (code / 16 % 16))
      (hexChar (code % 16)) = some code := by
  have digit (n : Nat) : hexDigit? (hexChar (n % 16)) = some (n % 16) :=
    hex_digit_hex_char ⟨n % 16, Nat.mod_lt n (by decide)⟩
  simp only [hex4?, digit, Option.bind_eq_bind, Option.bind_some, Option.some.injEq]
  omega

/-- Puts code units in front of those that were read. -/
def unitsBefore (units : List Nat) (read : Option (List Nat × List Char)) :
    Option (List Nat × List Char) :=
  read.map fun (codes, left) => (units ++ codes, left)

theorem read_units_unit {code : Nat} (small : code < 0x10000) (rest : List Char) :
    readUnits (writeUnit code ++ rest) = unitsBefore [code] (readUnits rest) := by
  simp only [writeUnit, List.cons_append, List.nil_append, readUnits, hex4_of_unit small]
  rfl

theorem read_units_plain {c : Char} (printed : 32 ≤ c.toNat) (unquoted : c ≠ '"')
    (unescaped : c ≠ '\\') (rest : List Char) :
    readUnits (c :: rest) = unitsBefore [c.toNat] (readUnits rest) := by
  rw [readUnits]
  · rw [if_neg (by simp [unescaped]; omega)]
    rfl
  · exact unquoted
  · exact fun _ _ _ _ _ same _ => unescaped same
  · exact fun _ _ same _ => unescaped same

/-- The code units of a character: two halves for one beyond the first plane. -/
def unitsOf (c : Char) : List Nat :=
  if c.toNat < 0x10000 then [c.toNat]
  else [0xD800 + (c.toNat - 0x10000) / 0x400, 0xDC00 + (c.toNat - 0x10000) % 0x400]

/-- A character is no half of a pair, and there is a last one. -/
theorem char_in_range (c : Char) : c.toNat < 0xD800 ∨ 0xDFFF < c.toNat ∧ c.toNat < 0x110000 :=
  c.valid

theorem units_of_small {c : Char} (small : c.toNat < 0x10000) : unitsOf c = [c.toNat] :=
  if_pos small

theorem read_units_char (c : Char) (rest : List Char) :
    readUnits (writeChar c ++ rest) = unitsBefore (unitsOf c) (readUnits rest) := by
  have numbered {code : Nat} (same : c.toNat = code) : c = Char.ofNat code := by
    rw [← same, Char.ofNat_toNat]
  unfold writeChar
  split
  · rfl
  · rfl
  · rfl
  · rfl
  · rfl
  · next unquoted unescaped _ _ _ =>
      simp only [beq_iff_eq, Bool.and_eq_true, decide_eq_true_eq]
      split
      · next backspace =>
          rw [numbered backspace]
          rfl
      · split
        · next feed =>
            rw [numbered feed]
            rfl
        · split
          · next printed =>
              rw [units_of_small (by omega)]
              exact read_units_plain printed.1 unquoted unescaped rest
          · split
            · next small =>
                rw [units_of_small small]
                exact read_units_unit small rest
            · next large =>
                have range := char_in_range c
                rw [List.append_assoc, read_units_unit (by omega), read_units_unit (by omega),
                  unitsOf, if_neg large]
                cases readUnits rest <;> rfl

theorem read_units_text (s rest : List Char) :
    readUnits (s.flatMap writeChar ++ '"' :: rest) = some (s.flatMap unitsOf, rest) := by
  induction s with
  | nil => rfl
  | cons c s induction =>
      rw [List.flatMap_cons, List.append_assoc, read_units_char, induction]
      rfl

theorem join_unit {code : Nat} (single : isHighHalf code = false) (codes : List Nat) :
    joinHalves (code :: codes) = unitChar code :: joinHalves codes := by
  cases codes with
  | nil => rfl
  | cons next codes => simp [joinHalves, single]

theorem join_units_char (c : Char) (codes : List Nat) :
    joinHalves (unitsOf c ++ codes) = c :: joinHalves codes := by
  have range := char_in_range c
  by_cases small : c.toNat < 0x10000
  · have single : isHighHalf c.toNat = false := by simp [isHighHalf]; omega
    have whole : isLowHalf c.toNat = false := by simp [isLowHalf]; omega
    rw [units_of_small small, List.singleton_append, join_unit single, unitChar, single, whole]
    simp [Char.ofNat_toNat]
  · have high : isHighHalf (0xD800 + (c.toNat - 0x10000) / 0x400) = true := by
      simp [isHighHalf]; omega
    have low : isLowHalf (0xDC00 + (c.toNat - 0x10000) % 0x400) = true := by
      simp [isLowHalf]; omega
    have joined : 0x10000 + (0xD800 + (c.toNat - 0x10000) / 0x400 - 0xD800) * 0x400 +
        (0xDC00 + (c.toNat - 0x10000) % 0x400 - 0xDC00) = c.toNat := by omega
    rw [unitsOf, if_neg small]
    simp only [List.cons_append, List.nil_append, joinHalves, high, low, Bool.and_self, if_true,
      joined, Char.ofNat_toNat]

theorem join_units (s : List Char) : joinHalves (s.flatMap unitsOf) = s := by
  induction s with
  | nil => rfl
  | cons c s induction => rw [List.flatMap_cons, join_units_char, induction]

/-- A string is read back from behind its opening quote. -/
theorem read_string_text (s rest : List Char) :
    readString (s.flatMap writeChar ++ '"' :: rest) = some (s, rest) := by
  simp only [readString, read_units_text, Option.map_some, join_units]

end EditImpact.Json
