/-!
# UTF-8

A machine that takes one byte at a time and gives out pieces: characters, and the longest stretches
of bytes that begin a character but cannot go on (a byte that begins none is such a stretch by
itself). Reading a text leniently puts the replacement character in the place of each malformed
piece; reading it strictly fails at the first one.
-/

namespace TenantHost.Text.Utf8

/-- What is wrong with a malformed piece. -/
inductive Malformation where
  | badStart
  | badContinuation
  | truncated
  deriving DecidableEq, Repr

/-- What the machine gives out. -/
inductive Piece where
  | char (c : Char)
  | malformed (bytes : List UInt8) (reason : Malformation)
  deriving DecidableEq, Repr

/-- Where the machine stands: between characters, or inside one that still owes `owed` bytes, the
next of them between `low` and `high`; `held` are its bytes so far and `code` the bits they
carry. -/
inductive State where
  | ready
  | inside (held : List UInt8) (code owed : Nat) (low high : UInt8)
  deriving DecidableEq, Repr

/-- The first byte of a character. -/
def first (b : UInt8) : List Piece × State :=
  if b < 0x80 then ([.char (Char.ofNat b.toNat)], .ready)
  else if b < 0xC2 then ([.malformed [b] .badStart], .ready)
  else if b < 0xE0 then ([], .inside [b] (b.toNat - 0xC0) 1 0x80 0xBF)
  else if b < 0xF0 then
    ([], .inside [b] (b.toNat - 0xE0) 2 (if b = 0xE0 then 0xA0 else 0x80) (if b = 0xED then 0x9F
      else 0xBF))
  else if b < 0xF5 then
    ([], .inside [b] (b.toNat - 0xF0) 3 (if b = 0xF0 then 0x90 else 0x80) (if b = 0xF4 then 0x8F
      else 0xBF))
  else ([.malformed [b] .badStart], .ready)

/-- One byte. A byte that cannot go on with the character at hand ends it and is read afresh. -/
def step : State → UInt8 → List Piece × State
  | .ready, b => first b
  | .inside held code owed low high, b =>
    if low ≤ b ∧ b ≤ high then
      let code := code * 64 + (b.toNat - 0x80)
      if owed ≤ 1 then ([.char (Char.ofNat code)], .ready)
      else ([], .inside (held ++ [b]) code (owed - 1) 0x80 0xBF)
    else (.malformed held .badContinuation :: (first b).1, (first b).2)

/-- All the pieces of a byte sequence, from a state on. -/
def scanFrom : State → List UInt8 → List Piece
  | .ready, [] => []
  | .inside held _ _ _ _, [] => [.malformed held .truncated]
  | s, b :: rest => (step s b).1 ++ scanFrom (step s b).2 rest

/-- All the pieces of a byte sequence. -/
def scan (bytes : List UInt8) : List Piece :=
  scanFrom .ready bytes

/-- The character that stands for a piece in a lenient reading. -/
def Piece.lenient : Piece → Char
  | .char c => c
  | .malformed _ _ => Char.ofNat 0xFFFD

/-- The lenient reading: one U+FFFD for each malformed piece. -/
def decodeLenient (bytes : List UInt8) : List Char :=
  (scan bytes).map Piece.lenient

/-- Where and why a strict reading fails. -/
structure DecodeError where
  position : Nat
  bytes : List UInt8
  reason : Malformation
  deriving DecidableEq, Repr

/-- The characters of the pieces, if none is malformed; `position` counts the bytes before them. -/
def strictFrom (position : Nat) : List Piece → Except DecodeError (List Char)
  | [] => .ok []
  | .malformed bytes reason :: _ => .error ⟨position, bytes, reason⟩
  | .char c :: rest => (strictFrom (position + c.utf8Size) rest).map (c :: ·)

/-- The strict reading: fails at the first malformed piece. -/
def decodeStrict (bytes : List UInt8) : Except DecodeError (List Char) :=
  strictFrom 0 (scan bytes)

/-- The bytes of a text. -/
def encode (text : List Char) : List UInt8 :=
  text.flatMap String.utf8EncodeChar

end TenantHost.Text.Utf8
