import CodePermit.Text.Encoding
/-!
# Texts as bytes

The bytes of a text are read as that text, whether faults are replaced or refused: every character
is found again at once, whatever came before it and whatever follows.

* `readPieces_last`, `readPieces_more` — a byte that continues a character;
* `lead_encoded_two`, `lead_encoded_three`, `lead_encoded_four` — what a first byte promises;
* `readPieces_encodeChar` — one character;
* `pieces_encode`, `decodeLossy_encode`, `decode_encode` — a whole text.
-/

namespace CodePermit.Text

/-! ### Bytes one at a time -/

theorem toNat_toUInt8 {n : Nat} (h : n < 256) : n.toUInt8.toNat = n := by
  rw [Nat.toUInt8_eq, UInt8.toNat_ofNat_of_lt' h]

section Continuations

variable {p : Begun} {found : List (Option Char)} {b : UInt8} {bs : List UInt8}

/-- The byte that ends a character. -/
theorem readPieces_last (howed : p.owed = 1) (hlow : p.low ≤ b.toNat) (hhigh : b.toNat ≤ p.high) :
    readPieces (some p) found (b :: bs) =
      readPieces none (some (Char.ofNat (p.bits * 0x40 + (b.toNat - 0x80))) :: found) bs := by
  simp only [readPieces, hlow, hhigh, howed, and_self, if_true, Nat.le_refl]

/-- A byte after which others are owed. -/
theorem readPieces_more (howed : 1 < p.owed) (hlow : p.low ≤ b.toNat) (hhigh : b.toNat ≤ p.high) :
    readPieces (some p) found (b :: bs) =
      readPieces (some ⟨p.owed - 1, 0x80, 0xBF, p.bits * 0x40 + (b.toNat - 0x80)⟩) found bs := by
  simp only [readPieces, hlow, hhigh, and_self, if_true, if_neg (Nat.not_le.2 howed)]

end Continuations

/-- What the first of two bytes promises, the other one keeps. -/
theorem lead_encoded_two {n : Nat} (hlow : 0x80 ≤ n) (hhigh : n < 0x800) :
    ∃ p, lead (0xC0 + n / 0x40).toUInt8 = .begins p ∧ p.owed = 1 ∧ p.bits = n / 0x40 ∧
      p.low ≤ 0x80 + n % 0x40 ∧ 0x80 + n % 0x40 ≤ p.high := by
  have hbyte := toNat_toUInt8 (n := 0xC0 + n / 0x40) (by omega)
  unfold lead
  simp only [hbyte]
  rw [if_neg (by omega), if_neg (by omega), if_pos (by omega)]
  exact ⟨_, rfl, rfl, by dsimp only; omega, by dsimp only; omega, by dsimp only; omega⟩

/-- What the first of three bytes promises, its second byte keeps. -/
theorem lead_encoded_three {n : Nat} (hlow : 0x800 ≤ n) (hhigh : n < 0x10000)
    (hvalid : n < 0xD800 ∨ 0xDFFF < n) :
    ∃ p, lead (0xE0 + n / 0x1000).toUInt8 = .begins p ∧ p.owed = 2 ∧ p.bits = n / 0x1000 ∧
      p.low ≤ 0x80 + n / 0x40 % 0x40 ∧ 0x80 + n / 0x40 % 0x40 ≤ p.high := by
  have hbyte := toNat_toUInt8 (n := 0xE0 + n / 0x1000) (by omega)
  unfold lead
  simp only [hbyte]
  rw [if_neg (by omega), if_neg (by omega), if_neg (by omega)]
  split
  · exact ⟨_, rfl, rfl, by dsimp only; omega, by dsimp only; omega, by dsimp only; omega⟩
  split
  · exact ⟨_, rfl, rfl, by dsimp only; omega, by dsimp only; omega, by dsimp only; omega⟩
  · rw [if_pos (by omega)]
    exact ⟨_, rfl, rfl, by dsimp only; omega, by dsimp only; omega, by dsimp only; omega⟩

/-- What the first of four bytes promises, its second byte keeps. -/
theorem lead_encoded_four {n : Nat} (hlow : 0x10000 ≤ n) (hhigh : n < 0x110000) :
    ∃ p, lead (0xF0 + n / 0x40000).toUInt8 = .begins p ∧ p.owed = 3 ∧ p.bits = n / 0x40000 ∧
      p.low ≤ 0x80 + n / 0x1000 % 0x40 ∧ 0x80 + n / 0x1000 % 0x40 ≤ p.high := by
  have hbyte := toNat_toUInt8 (n := 0xF0 + n / 0x40000) (by omega)
  unfold lead
  simp only [hbyte]
  rw [if_neg (by omega), if_neg (by omega), if_neg (by omega), if_neg (by omega),
    if_neg (by omega), if_neg (by omega)]
  split
  · exact ⟨_, rfl, rfl, by dsimp only; omega, by dsimp only; omega, by dsimp only; omega⟩
  split
  · exact ⟨_, rfl, rfl, by dsimp only; omega, by dsimp only; omega, by dsimp only; omega⟩
  · rw [if_pos (by omega)]
    exact ⟨_, rfl, rfl, by dsimp only; omega, by dsimp only; omega, by dsimp only; omega⟩

/-! ### Characters -/

/-- **The bytes of a character are read as that character.** -/
theorem readPieces_encodeChar (c : Char) (found : List (Option Char)) (bs : List UInt8) :
    readPieces none found (encodeChar c ++ bs) = readPieces none (some c :: found) bs := by
  have hvalid : c.toNat < 0xD800 ∨ 0xDFFF < c.toNat ∧ c.toNat < 0x110000 := c.valid
  have hchar : Char.ofNat c.toNat = c := Char.ofNat_toNat c
  unfold encodeChar
  simp only
  split
  · rename_i hone
    have hbyte := toNat_toUInt8 (n := c.toNat) (by omega)
    simp [readPieces, lead, hbyte, hone]
  split
  · rename_i htwo
    obtain ⟨p, hlead, howed, hbits, hlow, hhigh⟩ :=
      lead_encoded_two (n := c.toNat) (by omega) htwo
    have hlast := toNat_toUInt8 (n := 0x80 + c.toNat % 0x40) (by omega)
    simp only [List.cons_append, List.nil_append]
    rw [readPieces, hlead]
    dsimp only
    rw [readPieces_last howed (by omega) (by omega)]
    have hvalue : p.bits * 0x40 + ((0x80 + c.toNat % 0x40).toUInt8.toNat - 0x80) = c.toNat := by
      omega
    rw [hvalue, hchar]
  split
  · rename_i hthree
    obtain ⟨p, hlead, howed, hbits, hlow, hhigh⟩ :=
      lead_encoded_three (n := c.toNat) (by omega) hthree (by omega)
    have hsecond := toNat_toUInt8 (n := 0x80 + c.toNat / 0x40 % 0x40) (by omega)
    have hlast := toNat_toUInt8 (n := 0x80 + c.toNat % 0x40) (by omega)
    simp only [List.cons_append, List.nil_append]
    rw [readPieces, hlead]
    dsimp only
    rw [readPieces_more (by omega) (by omega) (by omega),
      readPieces_last (by dsimp only; omega) (by dsimp only; omega) (by dsimp only; omega)]
    dsimp only
    have hvalue : (p.bits * 0x40 + ((0x80 + c.toNat / 0x40 % 0x40).toUInt8.toNat - 0x80)) * 0x40 +
        ((0x80 + c.toNat % 0x40).toUInt8.toNat - 0x80) = c.toNat := by omega
    rw [hvalue, hchar]
  · obtain ⟨p, hlead, howed, hbits, hlow, hhigh⟩ :=
      lead_encoded_four (n := c.toNat) (by omega) (by omega)
    have hsecond := toNat_toUInt8 (n := 0x80 + c.toNat / 0x1000 % 0x40) (by omega)
    have hthird := toNat_toUInt8 (n := 0x80 + c.toNat / 0x40 % 0x40) (by omega)
    have hlast := toNat_toUInt8 (n := 0x80 + c.toNat % 0x40) (by omega)
    simp only [List.cons_append, List.nil_append]
    rw [readPieces, hlead]
    dsimp only
    rw [readPieces_more (by omega) (by omega) (by omega),
      readPieces_more (by dsimp only; omega) (by dsimp only; omega) (by dsimp only; omega),
      readPieces_last (by dsimp only; omega) (by dsimp only; omega) (by dsimp only; omega)]
    dsimp only
    have hvalue :
        ((p.bits * 0x40 + ((0x80 + c.toNat / 0x1000 % 0x40).toUInt8.toNat - 0x80)) * 0x40 +
        ((0x80 + c.toNat / 0x40 % 0x40).toUInt8.toNat - 0x80)) * 0x40 +
        ((0x80 + c.toNat % 0x40).toUInt8.toNat - 0x80) = c.toNat := by omega
    rw [hvalue, hchar]

/-! ### Texts -/

theorem readPieces_encode (cs : List Char) (found : List (Option Char)) :
    readPieces none found (encode cs) = (cs.map some).reverse ++ found := by
  induction cs generalizing found with
  | nil => rfl
  | cons c cs ih =>
    rw [encode, List.flatMap_cons, readPieces_encodeChar, ← encode, ih]
    simp

/-- The bytes of a text have no faults. -/
theorem pieces_encode (cs : List Char) : pieces (encode cs) = cs.map some := by
  rw [pieces, readPieces_encode, List.append_nil, List.reverse_reverse]

/-- **Where faults are replaced, the bytes of a text are read as it is.** -/
theorem decodeLossy_encode (cs : List Char) : decodeLossy (encode cs) = cs := by
  simp [decodeLossy, pieces_encode, Function.comp_def]

/-- **Where faults are refused, the bytes of a text are read as it is.** -/
theorem decode_encode (cs : List Char) : decode (encode cs) = some cs := by
  simp [decode, pieces_encode, List.filterMap_map]

end CodePermit.Text
