/-!
# UTF-8

A byte machine for text that may be malformed. It reads one byte at a time and cuts its input into
pieces: the characters, and the stretches that belong to none. A faulty stretch is as long as
possible while it could still have begun a character.

- `Utf8.step`: the machine, from one byte to the pieces that it completes.
- `Utf8.pieces`: the pieces of a byte sequence.
- `Utf8.decode`: the characters, or the place of the first fault.
- `Utf8.lossy`: the characters, with one replacement character for every faulty stretch.
- `Utf8.encode`: the bytes of a text.

The machine knows the bounds of each byte: no overlong form, no surrogate, nothing above U+10FFFF.
-/

namespace OwnedHandles.Utf8

/-- A character that has begun: how many bytes it still takes, the bounds of the next one, the bits
gathered so far and the number of bytes read. -/
structure Pending where
  left : Nat
  low : Nat
  high : Nat
  bits : Nat
  seen : Nat
  deriving DecidableEq, Repr

/-- A stretch of the input: a character, or bytes that cannot be continued to one. A stretch is cut
off if only the end of the input keeps it from becoming a character. -/
inductive Piece where
  | char (c : Char)
  | broken (size : Nat)
  | cutOff (size : Nat)
  deriving DecidableEq, Repr

/-- A byte read between characters. Bytes that no character begins with are faults of their own. -/
def start (b : UInt8) : List Piece × Option Pending :=
  let n := b.toNat
  if n < 0x80 then ([.char (Char.ofNat n)], none)
  else if n < 0xC2 then ([.broken 1], none)
  else if n < 0xE0 then ([], some ⟨1, 0x80, 0xBF, n - 0xC0, 1⟩)
  else if n = 0xE0 then ([], some ⟨2, 0xA0, 0xBF, 0, 1⟩)
  else if n = 0xED then ([], some ⟨2, 0x80, 0x9F, 0xD, 1⟩)
  else if n < 0xF0 then ([], some ⟨2, 0x80, 0xBF, n - 0xE0, 1⟩)
  else if n = 0xF0 then ([], some ⟨3, 0x90, 0xBF, 0, 1⟩)
  else if n < 0xF4 then ([], some ⟨3, 0x80, 0xBF, n - 0xF0, 1⟩)
  else if n = 0xF4 then ([], some ⟨3, 0x80, 0x8F, 4, 1⟩)
  else ([.broken 1], none)

/-- One byte. A byte out of bounds ends the character that has begun as a fault and is then read
afresh. -/
def step : Option Pending → UInt8 → List Piece × Option Pending
  | none, b => start b
  | some p, b =>
    if p.low ≤ b.toNat ∧ b.toNat ≤ p.high then
      let bits := p.bits * 64 + (b.toNat - 0x80)
      if p.left ≤ 1 then ([.char (Char.ofNat bits)], none)
      else ([], some ⟨p.left - 1, 0x80, 0xBF, bits, p.seen + 1⟩)
    else
      let (pieces, next) := start b
      (.broken p.seen :: pieces, next)

/-- The pieces of the bytes from a state of the machine on. -/
def piecesFrom : Option Pending → List UInt8 → List Piece
  | none, [] => []
  | some p, [] => [.cutOff p.seen]
  | state, b :: rest =>
    let (pieces, next) := step state b
    pieces ++ piecesFrom next rest

/-- Reading a byte yields its pieces, then those of the rest. -/
theorem piecesFrom_cons (state : Option Pending) (b : UInt8) (rest : List UInt8) :
    piecesFrom state (b :: rest) = (step state b).1 ++ piecesFrom (step state b).2 rest := by
  cases state <;> rfl

/-- The pieces of a byte sequence. -/
def pieces (bytes : List UInt8) : List Piece :=
  piecesFrom none bytes

/-- The place of a fault: the length of the well-formed text before it, and the length of the faulty
stretch, which is open if the input ends within it. -/
structure Fault where
  validUpTo : Nat
  size : Option Nat
  deriving DecidableEq, Repr

/-- The wording of a fault. -/
def Fault.message (f : Fault) : String :=
  match f.size with
  | some size => s!"invalid utf-8 sequence of {size} bytes from index {f.validUpTo}"
  | none => s!"incomplete utf-8 byte sequence from index {f.validUpTo}"

/-- The characters of the pieces, or the first fault among them; `offset` counts the bytes before
them. -/
def decodePieces (offset : Nat) : List Piece → Except Fault (List Char)
  | [] => .ok []
  | .char c :: rest => (decodePieces (offset + c.utf8Size) rest).map (c :: ·)
  | .broken size :: _ => .error ⟨offset, some size⟩
  | .cutOff _ :: _ => .error ⟨offset, none⟩

/-- The characters of a well-formed byte sequence, or the place of its first fault. -/
def decode (bytes : List UInt8) : Except Fault (List Char) :=
  decodePieces 0 (pieces bytes)

/-- What a reader sees of a piece: U+FFFD stands for a fault. -/
def Piece.shown : Piece → Char
  | .char c => c
  | .broken _ | .cutOff _ => '\uFFFD'

/-- The text of a byte sequence, one U+FFFD for each faulty stretch. -/
def lossy (bytes : List UInt8) : List Char :=
  (pieces bytes).map Piece.shown

/-- The bytes of a text. -/
def encode (text : List Char) : List UInt8 :=
  text.flatMap String.utf8EncodeChar

@[simp] theorem encode_append (s t : List Char) : encode (s ++ t) = encode s ++ encode t := by
  simp [encode]

@[simp] theorem pieces_nil : pieces [] = [] := rfl

@[simp] theorem decode_nil : decode [] = .ok [] := rfl

@[simp] theorem lossy_nil : lossy [] = [] := rfl

end OwnedHandles.Utf8
