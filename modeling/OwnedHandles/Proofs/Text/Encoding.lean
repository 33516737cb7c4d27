import Mathlib.Data.List.Basic
import Mathlib.Tactic.Ring
import OwnedHandles.Text.Utf8

/-!
# Characters as bytes

The first byte of a character tells how many follow, and each of those carries six bits of the
character's code.

- `Utf8.encodeChar_eq`: the bytes of a character, in this form.
- `Utf8.Pending.Admits`: the codes that a character can still come to, once it has begun. Its bits
  are those gathered so far, and the next byte is within the bounds.
- `Utf8.Pending.Opened.admits_iff`: after a first byte, these are the codes of the characters that
  begin with it.
- `Utf8.pieces_encode_append`: the machine reads every encoded text as its characters.
-/

namespace OwnedHandles.Utf8

/-- A byte that carries six bits. -/
def continuationByte (bits : ℕ) : UInt8 :=
  UInt8.ofNat (0x80 + bits % 64)

/-- The last groups of six bits of a code, each in a byte of its own, the highest one first. -/
def continuation (n : ℕ) : ℕ → List UInt8
  | 0 => []
  | count + 1 => continuationByte (n / 64 ^ count) :: continuation n count

/-- How many bytes follow the first one of a code. -/
def trailing (n : ℕ) : ℕ :=
  if n < 0x80 then 0 else if n < 0x800 then 1 else if n < 0x10000 then 2 else 3

/-- The first byte of a code: the bits that the other bytes leave over, marked with the number of
these. -/
def lead (n : ℕ) : ℕ :=
  if n < 0x80 then n
  else if n < 0x800 then 0xC0 + n / 64
  else if n < 0x10000 then 0xE0 + n / 4096
  else 0xF0 + n / 262144

@[simp] theorem toNat_continuationByte (bits : ℕ) :
    (continuationByte bits).toNat = 0x80 + bits % 64 := by
  rw [continuationByte, UInt8.toNat_ofNat']
  omega

@[simp] theorem length_continuation (n count : ℕ) : (continuation n count).length = count := by
  induction count with
  | zero => rfl
  | succ count ih => exact congrArg Nat.succ ih

/-- There are four ranges of codes. -/
theorem lead_cases (n : ℕ) :
    n < 0x80 ∧ trailing n = 0 ∧ lead n = n ∨
    0x80 ≤ n ∧ n < 0x800 ∧ trailing n = 1 ∧ lead n = 0xC0 + n / 64 ∨
    0x800 ≤ n ∧ n < 0x10000 ∧ trailing n = 2 ∧ lead n = 0xE0 + n / 4096 ∨
    0x10000 ≤ n ∧ trailing n = 3 ∧ lead n = 0xF0 + n / 262144 := by
  unfold lead trailing
  rcases Nat.lt_or_ge n 0x80 with h1 | h1
  · exact .inl ⟨h1, if_pos h1, if_pos h1⟩
  refine .inr ?_
  rw [if_neg (Nat.not_lt.mpr h1), if_neg (Nat.not_lt.mpr h1)]
  rcases Nat.lt_or_ge n 0x800 with h2 | h2
  · exact .inl ⟨h1, h2, if_pos h2, if_pos h2⟩
  refine .inr ?_
  rw [if_neg (Nat.not_lt.mpr h2), if_neg (Nat.not_lt.mpr h2)]
  rcases Nat.lt_or_ge n 0x10000 with h3 | h3
  · exact .inl ⟨h2, h3, if_pos h3, if_pos h3⟩
  · exact .inr ⟨h3, if_neg (Nat.not_lt.mpr h3), if_neg (Nat.not_lt.mpr h3)⟩

/-- The codes of characters: no surrogates, nothing above U+10FFFF. -/
theorem isValidChar_iff (n : ℕ) : n.isValidChar ↔ n < 0xD800 ∨ 0xDFFF < n ∧ n < 0x110000 :=
  Iff.rfl

theorem isValidChar_toNat (c : Char) : c.toNat.isValidChar :=
  c.valid

theorem toNat_ofNat {n : ℕ} (h : n.isValidChar) : (Char.ofNat n).toNat = n := by
  rw [Char.ofNat, dif_pos h]
  rfl

/-- **The bytes of a character** are its first byte and the ones that follow. -/
theorem encodeChar_eq (c : Char) :
    String.utf8EncodeChar c =
      UInt8.ofNat (lead c.toNat) :: continuation c.toNat (trailing c.toNat) := by
  have hvalid := (isValidChar_iff _).mp (isValidChar_toNat c)
  have hcode : c.val.toNat = c.toNat := rfl
  unfold String.utf8EncodeChar
  simp only [hcode]
  generalize c.toNat = n at hvalid
  rcases lead_cases n with ⟨h1, htrailing, hlead⟩ | ⟨h1, h2, htrailing, hlead⟩ |
    ⟨h1, h2, htrailing, hlead⟩ | ⟨h1, htrailing, hlead⟩
  · rw [if_pos (by omega), htrailing, hlead]
    rfl
  · have hbits : n / 64 % 32 + 192 = 192 + n / 64 := by omega
    rw [if_neg (by omega), if_pos (by omega), htrailing, hlead, hbits]
    simp [continuation, continuationByte, Nat.add_comm]
  · have hbits : n / 4096 % 16 + 224 = 224 + n / 4096 := by omega
    rw [if_neg (by omega), if_neg (by omega), if_pos (by omega), htrailing, hlead, hbits]
    simp [continuation, continuationByte, Nat.add_comm]
  · have hbits : n / 262144 % 8 + 240 = 240 + n / 262144 := by omega
    rw [if_neg (by omega), if_neg (by omega), if_neg (by omega), htrailing, hlead, hbits]
    simp [continuation, continuationByte, Nat.add_comm]

/-- A byte of ASCII is a character of its own. -/
theorem encodeChar_ascii {b : UInt8} (h : b.toNat < 0x80) :
    String.utf8EncodeChar (Char.ofNat b.toNat) = [b] := by
  have hvalid : b.toNat.isValidChar := .inl (by omega)
  have hcases := lead_cases b.toNat
  have hlead : lead b.toNat = b.toNat := by omega
  have htrailing : trailing b.toNat = 0 := by omega
  rw [encodeChar_eq, toNat_ofNat hvalid, hlead, htrailing, UInt8.ofNat_toNat]
  rfl

/-! ## The first byte -/

/-- What a first byte leaves open: the number of bytes to come and the bits gathered, and the bounds
of the second byte. These are narrower where a code would be overlong, a surrogate or too large. -/
structure Pending.Opened (p : Pending) (b : ℕ) : Prop where
  seen : p.seen = 1
  bits : 0xC2 ≤ b ∧ b < 0xE0 ∧ p.left = 1 ∧ p.bits = b - 0xC0 ∨
    0xE0 ≤ b ∧ b < 0xF0 ∧ p.left = 2 ∧ p.bits = b - 0xE0 ∨
    0xF0 ≤ b ∧ b < 0xF5 ∧ p.left = 3 ∧ p.bits = b - 0xF0
  low : b = 0xE0 ∧ p.low = 0xA0 ∨ b = 0xF0 ∧ p.low = 0x90 ∨ b ≠ 0xE0 ∧ b ≠ 0xF0 ∧ p.low = 0x80
  high : b = 0xED ∧ p.high = 0x9F ∨ b = 0xF4 ∧ p.high = 0x8F ∨ b ≠ 0xED ∧ b ≠ 0xF4 ∧ p.high = 0xBF

/-- A byte between characters is one itself, begins one, or neither. -/
theorem start_cases (b : UInt8) :
    b.toNat < 0x80 ∧ start b = ([.char (Char.ofNat b.toNat)], none) ∨
    (∃ p, start b = ([], some p) ∧ p.Opened b.toNat) ∨
    (0x80 ≤ b.toNat ∧ b.toNat < 0xC2 ∨ 0xF5 ≤ b.toNat) ∧ start b = ([.broken 1], none) := by
  generalize hstart : start b = out
  unfold start at hstart
  generalize b.toNat = n at hstart
  simp only at hstart
  repeat' split at hstart
  all_goals subst hstart
  · exact .inl ⟨by assumption, rfl⟩
  · exact .inr (.inr ⟨by omega, rfl⟩)
  iterate 7
    · refine .inr (.inl ⟨_, rfl, ?_⟩)
      constructor <;> dsimp only <;> omega
  · exact .inr (.inr ⟨by omega, rfl⟩)

/-- The byte is within the bounds for the next one. -/
def Pending.Takes (p : Pending) (b : UInt8) : Prop :=
  p.low ≤ b.toNat ∧ b.toNat ≤ p.high

/-- The code has the bits gathered so far, and its next byte is within the bounds. -/
structure Pending.Admits (p : Pending) (n : ℕ) : Prop where
  bits : n / 64 ^ p.left = p.bits
  takes : p.Takes (continuationByte (n / 64 ^ (p.left - 1)))

/-- **What a first byte leaves open** are the codes of characters that begin with it. -/
theorem Pending.Opened.admits_iff {p : Pending} {b n : ℕ} (h : p.Opened b) :
    p.Admits n ↔ n.isValidChar ∧ lead n = b ∧ trailing n = p.left := by
  obtain ⟨-, hbits, hlow, hhigh⟩ := h
  have hcases := lead_cases n
  rw [isValidChar_iff]
  constructor
  · rintro ⟨hbits', htakes⟩
    unfold Takes at htakes
    rw [toNat_continuationByte] at htakes
    rcases hbits with ⟨h1, h2, hleft, hbits⟩ | ⟨h1, h2, hleft, hbits⟩ | ⟨h1, h2, hleft, hbits⟩
    all_goals
      simp only [hleft, Nat.reduceSub, Nat.reducePow] at hbits' htakes ⊢
      omega
  · rintro ⟨hvalid, hlead, htrailing⟩
    rcases hbits with ⟨h1, h2, hleft, hbits⟩ | ⟨h1, h2, hleft, hbits⟩ | ⟨h1, h2, hleft, hbits⟩
    all_goals
      constructor
      · rw [hleft]
        omega
      · unfold Takes
        rw [toNat_continuationByte]
        simp only [hleft, Nat.reduceSub, Nat.reducePow]
        omega

/-- The first byte of a character is the character itself, or leaves its code open. -/
theorem start_lead {n : ℕ} (h : n.isValidChar) :
    trailing n = 0 ∧ start (UInt8.ofNat (lead n)) = ([.char (Char.ofNat n)], none) ∨
    ∃ p, start (UInt8.ofNat (lead n)) = ([], some p) ∧ p.left = trailing n ∧ 1 ≤ trailing n ∧
      p.Admits n := by
  have hvalid := (isValidChar_iff n).mp h
  have hcases := lead_cases n
  have hbyte : (UInt8.ofNat (lead n)).toNat = lead n := by
    rw [UInt8.toNat_ofNat']
    omega
  rcases start_cases (UInt8.ofNat (lead n)) with ⟨hlt, hstart⟩ | ⟨p, hstart, hopened⟩ | ⟨hout, -⟩
  · rw [hbyte] at hlt hstart
    have hn : lead n = n := by omega
    rw [hn] at hstart ⊢
    exact .inl ⟨by omega, hstart⟩
  · rw [hbyte] at hopened
    have hbits := hopened.bits
    have hleft : trailing n = p.left := by omega
    exact .inr ⟨p, hstart, hleft.symm, by omega, hopened.admits_iff.mpr ⟨h, rfl, hleft⟩⟩
  · rw [hbyte] at hout
    omega

/-! ## The bytes that follow -/

/-- A character after one more byte of it. -/
def Pending.next (p : Pending) (b : UInt8) : Pending :=
  ⟨p.left - 1, 0x80, 0xBF, p.bits * 64 + (b.toNat - 0x80), p.seen + 1⟩

variable {p : Pending} {b : UInt8} {n : ℕ}

theorem step_last (h : p.Takes b) (hleft : p.left ≤ 1) :
    step (some p) b = ([.char (Char.ofNat (p.bits * 64 + (b.toNat - 0x80)))], none) := by
  simp [step, h.1, h.2, hleft]

theorem step_next (h : p.Takes b) (hleft : 1 < p.left) :
    step (some p) b = ([], some (p.next b)) := by
  simp [step, h.1, h.2, Nat.not_le.mpr hleft, Pending.next]

/-- A byte out of bounds is read as if nothing had begun before it. -/
theorem step_out (h : ¬p.Takes b) :
    step (some p) b = (.broken p.seen :: (start b).1, (start b).2) :=
  if_neg h

/-- A byte ends the character that has begun, goes on with it, or breaks it off. -/
theorem step_cases (p : Pending) (b : UInt8) :
    (∃ c, step (some p) b = ([.char c], none)) ∨ step (some p) b = ([], some (p.next b)) ∨
    step (some p) b = (.broken p.seen :: (start b).1, (start b).2) := by
  by_cases h : p.Takes b
  · rcases Nat.lt_or_ge 1 p.left with hleft | hleft
    · exact .inr (.inl (step_next h hleft))
    · exact .inl ⟨_, step_last h hleft⟩
  · exact .inr (.inr (step_out h))

/-- The bits before the last group, and those with it. -/
theorem div_pow_succ (n k : ℕ) : n / 64 ^ (k + 1) = n / 64 ^ k / 64 := by
  rw [pow_succ, Nat.div_div_eq_div_mul]

/-- A code is still admitted after its next byte. -/
theorem Pending.Admits.next (h : p.Admits n) (hleft : 1 < p.left) :
    (p.next (continuationByte (n / 64 ^ (p.left - 1)))).Admits n := by
  have hbits := h.bits
  obtain ⟨k, hk⟩ : ∃ k, p.left = k + 1 := ⟨p.left - 1, by omega⟩
  rw [hk, div_pow_succ] at hbits
  rw [hk, Nat.add_sub_cancel]
  constructor
  · show n / 64 ^ (p.left - 1) = p.bits * 64 + ((continuationByte (n / 64 ^ k)).toNat - 0x80)
    rw [hk, Nat.add_sub_cancel, toNat_continuationByte]
    omega
  · show 0x80 ≤ (continuationByte _).toNat ∧ (continuationByte _).toNat ≤ 0xBF
    rw [toNat_continuationByte]
    omega

/-- The last byte completes the code. -/
theorem Pending.Admits.last (h : p.Admits n) (hleft : p.left = 1) :
    p.bits * 64 + ((continuationByte n).toNat - 0x80) = n := by
  have hbits := h.bits
  rw [hleft, pow_one] at hbits
  rw [toNat_continuationByte]
  omega

/-- An admitted code is read to its end. -/
theorem piecesFrom_continuation (h : p.Admits n) (hleft : 1 ≤ p.left) (rest : List UInt8) :
    piecesFrom (some p) (continuation n p.left ++ rest) = .char (Char.ofNat n) :: pieces rest := by
  -- on the number of bytes to come, which every byte lowers by one
  generalize hk : p.left = k at hleft
  induction k generalizing p with
  | zero => omega
  | succ k ih =>
    have htakes := h.takes
    rw [hk, Nat.add_sub_cancel] at htakes
    rw [continuation, List.cons_append, piecesFrom_cons]
    rcases Nat.eq_zero_or_pos k with rfl | hpos
    · rw [pow_zero, Nat.div_one] at htakes ⊢
      rw [step_last htakes (Nat.le_of_eq hk), h.last hk]
      rfl
    · have hnext := h.next (by omega)
      rw [hk, Nat.add_sub_cancel] at hnext
      rw [step_next htakes (by omega)]
      refine ih hnext ?_ hpos
      show p.left - 1 = k
      omega

/-! ## Encoded texts -/

/-- **A character is read from its bytes**, whatever comes after them. -/
theorem pieces_encodeChar_append (c : Char) (rest : List UInt8) :
    pieces (String.utf8EncodeChar c ++ rest) = .char c :: pieces rest := by
  rw [encodeChar_eq, List.cons_append, pieces, piecesFrom_cons]
  show (start _).1 ++ piecesFrom (start _).2 _ = _
  rcases start_lead (isValidChar_toNat c) with ⟨htrailing, hstart⟩ | ⟨p, hstart, hleft, hpos, hn⟩
  · rw [hstart, htrailing, Char.ofNat_toNat]
    rfl
  · rw [hstart, ← hleft, piecesFrom_continuation hn (hleft ▸ hpos), Char.ofNat_toNat]
    rfl

/-- **An encoded text is read as its characters**, whatever comes after it. -/
theorem pieces_encode_append (text : List Char) (rest : List UInt8) :
    pieces (encode text ++ rest) = text.map Piece.char ++ pieces rest := by
  induction text with
  | nil => rfl
  | cons c text ih =>
    show pieces (String.utf8EncodeChar c ++ encode text ++ rest) = _
    rw [List.append_assoc, pieces_encodeChar_append, ih]
    rfl

end OwnedHandles.Utf8
