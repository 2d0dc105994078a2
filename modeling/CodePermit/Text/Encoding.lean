/-!
# UTF-8

Bytes are read as UTF-8 one at a time.  What is not well formed is cut into the longest pieces
that could still have begun a character, and each such piece counts as one fault.

* `encode` — the bytes of a text;
* `pieces` — the characters and faults of a byte string;
* `decode` — the text of a byte string without faults;
* `decodeLossy` — the same with each fault replaced by U+FFFD.
-/

namespace CodePermit.Text

/-! ### Writing -/

/-- The bytes of one character. -/
def encodeChar (c : Char) : List UInt8 :=
  let n := c.toNat
  if n < 0x80 then [n.toUInt8]
  else if n < 0x800 then [(0xC0 + n / 0x40).toUInt8, (0x80 + n % 0x40).toUInt8]
  else if n < 0x10000 then
    [(0xE0 + n / 0x1000).toUInt8, (0x80 + n / 0x40 % 0x40).toUInt8, (0x80 + n % 0x40).toUInt8]
  else
    [(0xF0 + n / 0x40000).toUInt8, (0x80 + n / 0x1000 % 0x40).toUInt8,
      (0x80 + n / 0x40 % 0x40).toUInt8, (0x80 + n % 0x40).toUInt8]

/-- The bytes of a text. -/
def encode (cs : List Char) : List UInt8 :=
  cs.flatMap encodeChar

/-! ### Reading -/

/-- A character that has begun: how many bytes it still needs, between which bounds the next one
has to lie, and the bits read so far. -/
structure Begun where
  /-- Continuation bytes still owed; at least one. -/
  owed : Nat
  /-- The least next byte. -/
  low : Nat
  /-- The greatest next byte. -/
  high : Nat
  /-- The value read so far. -/
  bits : Nat
deriving DecidableEq

/-- What a first byte means. -/
inductive Lead where
  /-- A character of its own. -/
  | whole (c : Char)
  /-- The beginning of a longer character. -/
  | begins (p : Begun)
  /-- No character begins so. -/
  | fault
deriving DecidableEq

/-- Reads the first byte of a character. -/
def lead (b : UInt8) : Lead :=
  let n := b.toNat
  if n < 0x80 then .whole (Char.ofNat n)
  else if n < 0xC2 then .fault
  else if n < 0xE0 then .begins ⟨1, 0x80, 0xBF, n - 0xC0⟩
  else if n = 0xE0 then .begins ⟨2, 0xA0, 0xBF, 0⟩
  else if n = 0xED then .begins ⟨2, 0x80, 0x9F, 0xD⟩
  else if n < 0xF0 then .begins ⟨2, 0x80, 0xBF, n - 0xE0⟩
  else if n = 0xF0 then .begins ⟨3, 0x90, 0xBF, 0⟩
  else if n < 0xF4 then .begins ⟨3, 0x80, 0xBF, n - 0xF0⟩
  else if n = 0xF4 then .begins ⟨3, 0x80, 0x8F, 4⟩
  else .fault

/-- Reads on from a character that may have begun, newest piece first; `none` is a fault.  A byte
that does not continue the character begun is read again as a first byte. -/
def readPieces : Option Begun → List (Option Char) → List UInt8 → List (Option Char)
  | none, found, [] => found
  | some _, found, [] => none :: found
  | none, found, b :: bs =>
    match lead b with
    | .whole c => readPieces none (some c :: found) bs
    | .begins p => readPieces (some p) found bs
    | .fault => readPieces none (none :: found) bs
  | some p, found, b :: bs =>
    if p.low ≤ b.toNat ∧ b.toNat ≤ p.high then
      let bits := p.bits * 0x40 + (b.toNat - 0x80)
      if p.owed ≤ 1 then readPieces none (some (Char.ofNat bits) :: found) bs
      else readPieces (some ⟨p.owed - 1, 0x80, 0xBF, bits⟩) found bs
    else
      match lead b with
      | .whole c => readPieces none (some c :: none :: found) bs
      | .begins q => readPieces (some q) (none :: found) bs
      | .fault => readPieces none (none :: none :: found) bs

/-- The characters of a byte string in order; `none` stands for each malformed piece. -/
def pieces (bs : List UInt8) : List (Option Char) :=
  (readPieces none [] bs).reverse

/-- The text of a byte string, with U+FFFD in the place of each malformed piece. -/
def decodeLossy (bs : List UInt8) : List Char :=
  (pieces bs).map (·.getD (Char.ofNat 0xFFFD))

/-- The text of a byte string that is well formed throughout. -/
def decode (bs : List UInt8) : Option (List Char) :=
  let found := pieces bs
  if found.all Option.isSome then some (found.filterMap id) else none

end CodePermit.Text
