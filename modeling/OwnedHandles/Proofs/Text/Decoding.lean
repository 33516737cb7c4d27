import OwnedHandles.Proofs.Text.Openings
import OwnedHandles.Text.CText

/-!
# Reading UTF-8

Strict reading and reading with replacements are two ways to look at the same pieces, so they agree
on where each fault begins and ends.

- `Utf8.IsWellFormed`: the bytes are those of some text.
- `Utf8.wellFormed_or_faulty`: a byte sequence is well-formed, or is so up to a faulty stretch.
- `Utf8.decode_eq_ok_iff`, `Utf8.decode_of_faulty`: what strict reading gives.
- `Utf8.lossy_encode_append`, `Utf8.lossy_of_faulty`: what reading with replacements gives.
- `CText.reads_well_formed`: both together.
-/

namespace OwnedHandles

namespace Utf8

/-- The bytes are those of some text. -/
def IsWellFormed (bytes : List UInt8) : Prop :=
  ∃ text, bytes = encode text

theorem encode_cons (c : Char) (text : List Char) :
    encode (c :: text) = String.utf8EncodeChar c ++ encode text := rfl

/-! ## One fault after the other -/

/-- **A byte sequence is well-formed, or is so up to a faulty stretch.** -/
theorem wellFormed_or_faulty (bytes : List UInt8) :
    IsWellFormed bytes ∨ ∃ text rest size, bytes = encode text ++ rest ∧ Faulty rest size ∧
      pieces rest = faultyPieces rest size := by
  -- on the number of bytes, since a character takes at least one
  induction hlength : bytes.length using Nat.strong_induction_on generalizing bytes with
  | _ length ih =>
    rcases eq_or_ne bytes [] with rfl | hne
    · exact .inl ⟨[], rfl⟩
    · rcases front_cases hne with ⟨c, rest, rfl⟩ | ⟨size, hfaulty, hpieces⟩
      · have hpos := List.length_pos_of_ne_nil (String.utf8EncodeChar_ne_nil (c := c))
        rw [List.length_append] at hlength
        rcases ih rest.length (by omega) rest rfl with
          ⟨text, rfl⟩ | ⟨text, tail, size, rfl, hfaulty⟩
        · exact .inl ⟨c :: text, rfl⟩
        · exact .inr ⟨c :: text, tail, size, (List.append_assoc _ _ _).symm, hfaulty⟩
      · exact .inr ⟨[], bytes, size, rfl, hfaulty, hpieces⟩

/-- **No longer text is there before the fault.** -/
theorem Faulty.length_le {rest : List UInt8} {size : Option ℕ} (h : Faulty rest size)
    {text other : List Char} (hother : encode other <+: encode text ++ rest) :
    (encode other).length ≤ (encode text).length := by
  -- both texts begin with the same characters, for as long as the shorter one goes on
  induction text generalizing other with
  | nil =>
    cases other with
    | nil => exact Nat.le_refl 0
    | cons c other => exact absurd ((List.prefix_append _ _).trans hother) (h.noChar c)
  | cons c text ih =>
    cases other with
    | nil => exact Nat.zero_le _
    | cons c' other =>
      obtain ⟨tail, htail⟩ := hother
      rw [encode_cons, encode_cons, List.append_assoc, List.append_assoc] at htail
      have hpieces := congrArg pieces htail
      rw [pieces_encodeChar_append, pieces_encodeChar_append] at hpieces
      obtain ⟨hchar, -⟩ := List.cons.inj hpieces
      obtain rfl := Piece.char.inj hchar
      have hle := ih ⟨tail, List.append_cancel_left htail⟩
      rw [encode_cons, encode_cons, List.length_append, List.length_append]
      omega

/-! ## Strict reading -/

/-- Characters are read as they are; they move the place of a later fault by their bytes. -/
theorem decodePieces_chars (offset : ℕ) (text : List Char) (rest : List Piece) :
    decodePieces offset (text.map Piece.char ++ rest) =
      (decodePieces (offset + (encode text).length) rest).map (text ++ ·) := by
  induction text generalizing offset with
  | nil =>
    show decodePieces offset rest = (decodePieces offset rest).map id
    cases decodePieces offset rest <;> rfl
  | cons c text ih =>
    have hlength : offset + c.utf8Size + (encode text).length =
        offset + (encode (c :: text)).length := by
      rw [encode_cons, List.length_append, String.length_utf8EncodeChar, Nat.add_assoc]
    show (decodePieces (offset + c.utf8Size) (text.map Piece.char ++ rest)).map _ = _
    rw [ih, hlength]
    cases decodePieces (offset + (encode (c :: text)).length) rest <;> rfl

theorem decode_encode_append (text : List Char) (rest : List UInt8) :
    decode (encode text ++ rest) =
      (decodePieces (encode text).length (pieces rest)).map (text ++ ·) := by
  rw [decode, pieces_encode_append, decodePieces_chars, Nat.zero_add]

/-- An encoded text is read back. -/
theorem decode_encode (text : List Char) : decode (encode text) = .ok text := by
  have hread := decode_encode_append text []
  rw [List.append_nil] at hread
  rw [hread]
  show Except.ok (text ++ []) = _
  rw [List.append_nil]

/-- **The first fault is reported** with its place and its length. -/
theorem decode_of_faulty {rest : List UInt8} {size : Option ℕ}
    (hpieces : pieces rest = faultyPieces rest size) (text : List Char) :
    decode (encode text ++ rest) = .error ⟨(encode text).length, size⟩ := by
  rw [decode_encode_append, hpieces]
  cases size <;> rfl

/-- **Exactly the bytes of a text are read as this text.** -/
theorem decode_eq_ok_iff {bytes : List UInt8} {text : List Char} :
    decode bytes = .ok text ↔ encode text = bytes := by
  constructor
  · intro hread
    rcases wellFormed_or_faulty bytes with ⟨own, rfl⟩ | ⟨own, rest, size, rfl, -, hpieces⟩
    · rw [decode_encode] at hread
      rw [Except.ok.inj hread]
    · rw [decode_of_faulty hpieces] at hread
      cases hread
  · rintro rfl
    exact decode_encode text

/-! ## Reading with replacements -/

/-- Characters are shown as they are, whatever comes after them. -/
theorem lossy_encode_append (text : List Char) (rest : List UInt8) :
    lossy (encode text ++ rest) = text ++ lossy rest := by
  rw [lossy, pieces_encode_append, List.map_append, List.map_map]
  show List.map id text ++ _ = _
  rw [List.map_id]
  rfl

/-- What comes after a faulty stretch: nothing if it has no length of its own. -/
def afterFault (bytes : List UInt8) : Option ℕ → List UInt8
  | none => []
  | some size => bytes.drop size

/-- **A replacement stands for a faulty stretch**, and what comes after it is read afresh. -/
theorem lossy_of_faulty {rest : List UInt8} {size : Option ℕ}
    (hpieces : pieces rest = faultyPieces rest size) :
    lossy rest = '\uFFFD' :: lossy (afterFault rest size) := by
  rw [lossy, hpieces]
  cases size <;> rfl

end Utf8

namespace CText

open Utf8

/-- Strict reading of a text. -/
theorem toStr_eq_ok_iff (t : CText) (s : String) :
    t.toStr = .ok s ↔ decode t.bytes = .ok s.toList := by
  unfold toStr
  cases decode t.bytes with
  | ok chars =>
    constructor
    · intro h
      obtain rfl := Except.ok.inj h
      rw [String.toList_ofList]
    · intro h
      obtain rfl := Except.ok.inj h
      show Except.ok (String.ofList s.toList) = _
      rw [String.ofList_toList]
  | error fault => simp

theorem toStr_eq_error_iff (t : CText) (e : TextError) :
    t.toStr = .error e ↔ ∃ fault, decode t.bytes = .error fault ∧ e = .invalidUtf8 fault := by
  unfold toStr
  cases decode t.bytes with
  | ok chars => simp
  | error fault => simp [eq_comm]

/-- **Exactly well-formed UTF-8 is read strictly, and then as it is shown.** All other bytes are at
fault at the end of their longest well-formed front:

- The fault has no length iff the rest begins a character and does not complete it. Else its length
  is that of the longest part at the front of the rest that does so, or one byte if there is none.
- The text is shown as its well-formed front, one replacement character, and what is shown of the
  bytes after the fault. -/
theorem reads_well_formed (t : CText) :
    (∀ s, t.toStr = .ok s ↔ encode s.toList = t.bytes) ∧
    (∀ s, t.toStr = .ok s → t.display = s) ∧
    (¬IsWellFormed t.bytes → ∃ fault front, t.toStr = .error (.invalidUtf8 fault) ∧
      t.bytes.take fault.validUpTo = encode front ∧ fault.validUpTo < t.bytes.length ∧
      (∀ n, n ≤ t.bytes.length → IsWellFormed (t.bytes.take n) → n ≤ fault.validUpTo) ∧
      (fault.size = none ↔ IsOpening (t.bytes.drop fault.validUpTo)) ∧
      (∀ k, fault.size = some k →
        1 ≤ k ∧ k ≤ 3 ∧ IsFaultLength (t.bytes.drop fault.validUpTo) k) ∧
      t.display = String.ofList front ++ "\uFFFD" ++
        CText.display ⟨afterFault (t.bytes.drop fault.validUpTo) fault.size⟩) := by
  refine ⟨fun s => ?_, fun s hs => ?_, fun hill => ?_⟩
  · rw [toStr_eq_ok_iff, decode_eq_ok_iff]
  · rw [toStr_eq_ok_iff, decode_eq_ok_iff] at hs
    have hshown := lossy_encode_append s.toList []
    rw [List.append_nil, hs, lossy_nil, List.append_nil] at hshown
    rw [display, hshown, String.ofList_toList]
  · rcases wellFormed_or_faulty t.bytes with hwell | ⟨front, rest, size, hbytes, hfaulty, hpieces⟩
    · exact absurd hwell hill
    · have hdrop : t.bytes.drop (encode front).length = rest := by
        rw [hbytes, List.drop_left]
      have hpos := List.length_pos_of_ne_nil hfaulty.ne_nil
      refine ⟨⟨(encode front).length, size⟩, front, ?_, ?_, ?_, ?_, ?_, ?_, ?_⟩
      · rw [toStr_eq_error_iff, hbytes]
        exact ⟨_, decode_of_faulty hpieces front, rfl⟩
      · rw [hbytes, List.take_left]
      · show (encode front).length < _
        rw [hbytes, List.length_append]
        omega
      · rintro n hn ⟨other, hother⟩
        have hprefix : encode other <+: encode front ++ rest := by
          rw [← hother, ← hbytes]
          exact List.take_prefix n t.bytes
        have hle := hfaulty.length_le hprefix
        rwa [← hother, List.length_take, Nat.min_eq_left hn] at hle
      · rw [hdrop]
        exact hfaulty.open_iff
      · rw [hdrop]
        exact hfaulty.closed
      · rw [hdrop, display, hbytes, lossy_encode_append, lossy_of_faulty hpieces,
          String.ofList_append, String.ofList_cons, String.append_assoc]
        rfl

end CText

end OwnedHandles
