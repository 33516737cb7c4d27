import OwnedHandles.Text.Quoted
import OwnedHandles.Text.Utf8
import OwnedHandles.HandleKind

/-!
# Text for C

`CText` is a byte string that a C program reads up to its terminator. It holds no zero byte: the
constructors refuse one, or stop at it, and joining keeps it out.

- `CText.ofBytes`, `CText.ofString`: copy the bytes, or report the first zero among them.
- `CText.ofMemory`: the text at an address, up to the terminator.
- `CText.join`: parts with a separator byte between them.
- `CText.terminated`, `readTerminated`: the bytes as they lie in memory, and what is read back.
- `CText.toStr`, `CText.display`: the text as characters, strictly or with replacements.
-/

namespace OwnedHandles

/-- A byte string without zero bytes, in any encoding. -/
structure CText where
  bytes : List UInt8
  deriving DecidableEq, Repr

/-- Why bytes are no text, or no characters. -/
inductive TextError where
  | interiorNul (position : Nat)
  | invalidUtf8 (fault : Utf8.Fault)
  deriving DecidableEq, Repr

/-- The wording of a text error. -/
def TextError.message : TextError → String
  | .interiorNul position => s!"text contains an interior NUL byte at position {position}"
  | .invalidUtf8 fault => s!"text is not valid UTF-8: {fault.message}"

/-- Why parts cannot be joined. Parts without zeros, joined by a byte other than zero, never give a
zero byte. -/
inductive JoinFault where
  | nulSeparator
  | nulInBuffer (position : Nat)
  deriving DecidableEq, Repr

/-- The wording of a join fault. -/
def JoinFault.message : JoinFault → String
  | .nulSeparator => "called `RString::join` with a NUL separator"
  | .nulInBuffer _ => "`RString::join` should produce a NUL-free buffer"

/-- The bytes before the terminator, as a reader in C sees them. -/
def readTerminated (memory : List UInt8) : List UInt8 :=
  memory.takeWhile (· ≠ 0)

/-- Memory without a zero byte is read whole. -/
theorem readTerminated_of_not_mem {bytes : List UInt8} (h : 0 ∉ bytes) (rest : List UInt8) :
    readTerminated (bytes ++ 0 :: rest) = bytes := by
  have hall : ∀ b ∈ bytes, decide (b ≠ 0) = true := fun b hb =>
    decide_eq_true fun hz => h (hz ▸ hb)
  rw [readTerminated, List.takeWhile_append_of_pos hall]
  simp

/-- What is read before the terminator holds no zero byte. -/
theorem zero_not_mem_readTerminated (memory : List UInt8) : 0 ∉ readTerminated memory := by
  induction memory with
  | nil => exact List.not_mem_nil
  | cons b rest ih =>
    by_cases hz : b = 0
    · simp [readTerminated, hz]
    · rw [readTerminated, List.takeWhile_cons_of_pos (by simpa using hz)]
      exact fun hmem => (List.mem_cons.mp hmem).elim (fun h => hz h.symm) ih

namespace CText

instance : HandleKind CText := ⟨"RString"⟩

/-- The text without bytes. -/
def empty : CText := ⟨[]⟩

/-- Copies bytes; the first zero byte among them is an error. -/
def ofBytes (bytes : List UInt8) : Except TextError CText :=
  match bytes.findIdx? (· = 0) with
  | some position => .error (.interiorNul position)
  | none => .ok ⟨bytes⟩

/-- No zero byte is found iff there is none. -/
theorem findIdx?_zero_eq_none_iff (bytes : List UInt8) :
    bytes.findIdx? (· = 0) = none ↔ 0 ∉ bytes := by
  rw [List.findIdx?_eq_none_iff]
  constructor
  · intro h hz
    simpa using h 0 hz
  · intro h b hb
    exact decide_eq_false fun hz => h (hz ▸ hb)

/-- Bytes are taken as they are, iff none of them is zero. -/
theorem ofBytes_eq_ok_iff (bytes : List UInt8) (t : CText) :
    ofBytes bytes = .ok t ↔ 0 ∉ bytes ∧ t.bytes = bytes := by
  obtain ⟨own⟩ := t
  unfold ofBytes
  cases h : bytes.findIdx? (· = 0) with
  | some position =>
    have hmem : 0 ∈ bytes := by
      refine Decidable.byContradiction fun hz => ?_
      rw [(findIdx?_zero_eq_none_iff bytes).mpr hz] at h
      cases h
    simp [hmem]
  | none => simp [(findIdx?_zero_eq_none_iff bytes).mp h, eq_comm]

/-- Copies the UTF-8 bytes of a string; a NUL character in it is an error. -/
def ofString (text : String) : Except TextError CText :=
  ofBytes (Utf8.encode text.toList)

/-- Copies the text at an address, up to the terminator. -/
def ofMemory (memory : List UInt8) : CText :=
  ⟨readTerminated memory⟩

/-- The number of bytes, without the terminator. -/
def length (t : CText) : Nat :=
  t.bytes.length

/-- Tells whether the text has no bytes. -/
def isEmpty (t : CText) : Bool :=
  t.bytes.isEmpty

/-- The bytes as they lie in memory, with the terminator. -/
def terminated (t : CText) : List UInt8 :=
  t.bytes ++ [0]

/-- The bytes of the parts, with the separator between them. -/
def joinBytes (separator : UInt8) : List CText → List UInt8
  | [] => []
  | [part] => part.bytes
  | part :: next :: rest => part.bytes ++ separator :: joinBytes separator (next :: rest)

/-- The first part stands before the separator and the rest, if there is a rest. -/
theorem joinBytes_cons (separator : UInt8) (part : CText) {rest : List CText} (h : rest ≠ []) :
    joinBytes separator (part :: rest) = part.bytes ++ separator :: joinBytes separator rest := by
  cases rest with
  | nil => exact absurd rfl h
  | cons next rest => rfl

/-- The parts with the separator byte between them. A zero separator is refused first, whatever the
parts are. -/
def join (parts : List CText) (separator : UInt8) : Except JoinFault CText :=
  if separator = 0 then .error .nulSeparator
  else
    match ofBytes (joinBytes separator parts) with
    | .ok text => .ok text
    | .error (.interiorNul position) => .error (.nulInBuffer position)
    | .error (.invalidUtf8 fault) => .error (.nulInBuffer fault.validUpTo)

/-- The characters of a text that is well-formed UTF-8. -/
def toStr (t : CText) : Except TextError String :=
  match Utf8.decode t.bytes with
  | .ok chars => .ok (String.ofList chars)
  | .error fault => .error (.invalidUtf8 fault)

/-- The text for a reader, with U+FFFD for what is not well-formed. -/
def display (t : CText) : String :=
  String.ofList (Utf8.lossy t.bytes)

/-- Texts are ordered by their bytes. -/
instance : Ord CText where
  compare a b := compare a.bytes b.bytes

/-- The two lower-case hexadecimal digits of a byte. -/
def hexDigits (b : UInt8) : List Char :=
  [Nat.digitChar (b.toNat / 16), Nat.digitChar (b.toNat % 16)]

/-- A single byte between quotes: printable ASCII as it is, with a backslash before quotes and
backslashes; all else by a letter or in hexadecimal. -/
def escaped (b : UInt8) : List Char :=
  if b = 0x09 then ['\\', 't']
  else if b = 0x0A then ['\\', 'n']
  else if b = 0x0D then ['\\', 'r']
  else if b = 0x22 ∨ b = 0x27 ∨ b = 0x5C then ['\\', Char.ofNat b.toNat]
  else if 0x20 ≤ b ∧ b ≤ 0x7E then [Char.ofNat b.toNat]
  else '\\' :: 'x' :: hexDigits b

/-- Bytes between quotes, by the pieces they fall into: a character beyond ASCII as a character, all
else byte by byte. -/
def quotedPieces : List Utf8.Piece → List UInt8 → List Char
  | [], _ => []
  | .char c :: rest, bytes =>
    let own := if c.toNat < 0x80 then escaped (UInt8.ofNat c.toNat) else Text.quotedChar c
    own ++ quotedPieces rest (bytes.drop c.utf8Size)
  | .broken size :: rest, bytes | .cutOff size :: rest, bytes =>
    (bytes.take size).flatMap escaped ++ quotedPieces rest (bytes.drop size)

/-- The text as it stands in a dump of a data structure. -/
def dump (t : CText) : String :=
  let quoted := quotedPieces (Utf8.pieces t.bytes) t.bytes
  "RString \x7b inner: \"" ++ String.ofList quoted ++ "\" \x7d"

end CText

end OwnedHandles
