import OwnedHandles.Proofs.Text.Encoding

/-!
# Bytes that begin a character

Some bytes begin a character and stop within it. The machine keeps such bytes together, for as long
as there is a character that goes on with them.

- `Utf8.IsOpening`: the bytes begin a character and do not complete it.
- `Utf8.Pending.Follows`: what is known of a character that has begun. The bytes read so far belong
  to every code that is still admitted, so that no overlong form passes, no surrogate, and nothing
  above U+10FFFF.
- `Utf8.Faulty`: the bytes begin with no character, but with a faulty stretch.
- `Utf8.front_cases`: a byte sequence begins with a character or with a faulty stretch.
-/

namespace OwnedHandles.Utf8

/-- The bytes begin a character and do not complete it. -/
def IsOpening (bytes : List UInt8) : Prop :=
  bytes ≠ [] ∧ ∃ c, bytes <+: String.utf8EncodeChar c ∧ bytes ≠ String.utf8EncodeChar c

/-! ## A character that has begun -/

/-- The machine is in the middle of a character after reading these bytes. All codes that it admits
are codes of characters that begin with them. -/
structure Pending.Follows (p : Pending) (read : List UInt8) : Prop where
  reached : ∀ rest, pieces (read ++ rest) = piecesFrom (some p) rest
  seen : p.seen = read.length
  begun : 1 ≤ p.seen
  unfinished : 1 ≤ p.left
  short : p.seen + p.left ≤ 4
  bounds : 0x80 ≤ p.low ∧ p.low ≤ p.high ∧ p.high ≤ 0xBF
  encode : ∀ n, p.Admits n → n.isValidChar ∧
    String.utf8EncodeChar (Char.ofNat n) = read ++ continuation n p.left

namespace Pending.Follows

variable {p : Pending} {read : List UInt8} {b : UInt8}

/-- A first byte that leaves a code open. -/
theorem of_start (hstart : start b = ([], some p)) : p.Follows [b] := by
  have hopened : p.Opened b.toNat := by
    rcases start_cases b with ⟨-, h⟩ | ⟨q, h, hq⟩ | ⟨-, h⟩
    · rw [hstart] at h
      cases h
    · rw [hstart] at h
      cases h
      exact hq
    · rw [hstart] at h
      cases h
  have hseen := hopened.seen
  have hbits := hopened.bits
  have hlow := hopened.low
  have hhigh := hopened.high
  refine ⟨?_, hseen, by omega, by omega, by omega, by omega, ?_⟩
  · intro rest
    show (start b).1 ++ piecesFrom (start b).2 rest = _
    rw [hstart]
    rfl
  · intro n hn
    obtain ⟨hvalid, hlead, htrailing⟩ := hopened.admits_iff.mp hn
    refine ⟨hvalid, ?_⟩
    rw [encodeChar_eq, toNat_ofNat hvalid, hlead, htrailing, UInt8.ofNat_toNat]
    rfl

/-- What is admitted after a byte has been admitted before, with this byte as the next one. -/
theorem admits_of_next {n : ℕ} (h : p.Follows read) (htakes : p.Takes b) (hleft : 1 < p.left)
    (hn : (p.next b).Admits n) : p.Admits n ∧ b = continuationByte (n / 64 ^ (p.left - 1)) := by
  have hbounds := h.bounds
  obtain ⟨hlow, hhigh⟩ := htakes
  obtain ⟨k, hk⟩ : ∃ k, p.left = k + 1 := ⟨p.left - 1, by omega⟩
  have hbits : n / 64 ^ (p.left - 1) = p.bits * 64 + (b.toNat - 0x80) := hn.bits
  rw [hk, Nat.add_sub_cancel] at hbits ⊢
  have hbyte : b = continuationByte (n / 64 ^ k) := by
    rw [← UInt8.toNat_inj, toNat_continuationByte]
    omega
  refine ⟨⟨?_, ?_⟩, hbyte⟩
  · rw [hk, div_pow_succ]
    omega
  · rw [hk, Nat.add_sub_cancel, ← hbyte]
    exact ⟨hlow, hhigh⟩

/-- One more byte, which is not the last one. -/
theorem next (h : p.Follows read) (htakes : p.Takes b) (hleft : 1 < p.left) :
    (p.next b).Follows (read ++ [b]) := by
  have hseen := h.seen
  have hshort := h.short
  refine ⟨?_, ?_, ?_, ?_, ?_, ?_, ?_⟩
  · intro rest
    rw [List.append_assoc, h.reached]
    show piecesFrom (some p) (b :: rest) = _
    rw [piecesFrom_cons, step_next htakes hleft]
    rfl
  · show p.seen + 1 = _
    rw [List.length_append, hseen]
    rfl
  · exact Nat.le_add_left 1 p.seen
  · show 1 ≤ p.left - 1
    omega
  · show p.seen + 1 + (p.left - 1) ≤ 4
    omega
  · show 0x80 ≤ 0x80 ∧ 0x80 ≤ 0xBF ∧ 0xBF ≤ 0xBF
    omega
  · intro n hn
    obtain ⟨hadmits, hbyte⟩ := h.admits_of_next htakes hleft hn
    obtain ⟨hvalid, hencode⟩ := h.encode n hadmits
    obtain ⟨k, hk⟩ : ∃ k, p.left = k + 1 := ⟨p.left - 1, by omega⟩
    refine ⟨hvalid, ?_⟩
    show _ = read ++ [b] ++ continuation n (p.left - 1)
    rw [hencode, hbyte, hk, continuation, Nat.add_sub_cancel, List.append_assoc]
    rfl

/-- The last byte completes a character. -/
theorem last (h : p.Follows read) (htakes : p.Takes b) (hleft : p.left = 1) :
    ∃ c, String.utf8EncodeChar c = read ++ [b] := by
  have hbounds := h.bounds
  obtain ⟨hlow, hhigh⟩ := htakes
  have hbyte : b = continuationByte (p.bits * 64 + (b.toNat - 0x80)) := by
    rw [← UInt8.toNat_inj, toNat_continuationByte]
    omega
  have hadmits : p.Admits (p.bits * 64 + (b.toNat - 0x80)) := by
    constructor
    · rw [hleft, pow_one]
      omega
    · rw [hleft, Nat.sub_self, pow_zero, Nat.div_one, ← hbyte]
      exact ⟨hlow, hhigh⟩
  obtain ⟨-, hencode⟩ := h.encode _ hadmits
  refine ⟨_, hencode.trans ?_⟩
  rw [hleft, continuation, pow_zero, Nat.div_one, ← hbyte]
  rfl

/-- There is always a character to go on with. -/
theorem isOpening (h : p.Follows read) : IsOpening read := by
  have hbounds := h.bounds
  have hopen := h.unfinished
  -- the least byte within the bounds, and zeros after it
  obtain ⟨n, hn⟩ : ∃ n, p.Admits n := by
    refine ⟨(p.bits * 64 + (p.low - 0x80)) * 64 ^ (p.left - 1), ?_⟩
    obtain ⟨k, hk⟩ : ∃ k, p.left = k + 1 := ⟨p.left - 1, by omega⟩
    have hpow : 0 < 64 ^ k := Nat.pow_pos (by decide)
    constructor
    · rw [hk, Nat.add_sub_cancel, div_pow_succ, Nat.mul_div_cancel _ hpow]
      omega
    · rw [hk, Nat.add_sub_cancel, Nat.mul_div_cancel _ hpow]
      show _ ≤ (continuationByte _).toNat ∧ (continuationByte _).toNat ≤ _
      rw [toNat_continuationByte]
      omega
  obtain ⟨-, hencode⟩ := h.encode n hn
  have hseen := h.seen
  have hbegun := h.begun
  refine ⟨?_, Char.ofNat n, ?_, ?_⟩
  · rintro rfl
    rw [List.length_nil] at hseen
    omega
  · rw [hencode]
    exact List.prefix_append _ _
  · intro heq
    have hlength := congrArg List.length (heq.trans hencode)
    rw [List.length_append, length_continuation] at hlength
    omega

end Pending.Follows

/-! ## Faulty stretches -/

/-- Bytes that begin with a character are read so. -/
theorem pieces_of_prefix {c : Char} {bytes : List UInt8} (h : String.utf8EncodeChar c <+: bytes) :
    ∃ rest, pieces bytes = .char c :: rest := by
  obtain ⟨rest, rfl⟩ := h
  exact ⟨pieces rest, pieces_encodeChar_append c rest⟩

/-- If the machine finds a fault whatever comes next, no character begins with the bytes. -/
theorem not_prefix_of_broken {bytes : List UInt8}
    (h : ∀ rest, ∃ size tail, pieces (bytes ++ rest) = .broken size :: tail) (c : Char) :
    ¬bytes <+: String.utf8EncodeChar c := by
  rintro ⟨rest, hrest⟩
  obtain ⟨size, tail, hbroken⟩ := h rest
  obtain ⟨others, hchar⟩ := pieces_of_prefix (List.prefix_refl (String.utf8EncodeChar c))
  rw [hrest, hchar] at hbroken
  cases hbroken

/-- The length of the stretch that is at fault at the front of some bytes: that of the longest
opening there, or one byte if there is none. -/
def IsFaultLength (bytes : List UInt8) (size : ℕ) : Prop :=
  (∃ opening, opening <+: bytes ∧ IsOpening opening ∧ opening.length = size ∧
    ∀ other, other <+: bytes → IsOpening other → other.length ≤ size) ∨
  size = 1 ∧ ∀ other, other <+: bytes → ¬IsOpening other

/-- The bytes begin with no character, but with a faulty stretch. The stretch has a length of its
own unless all the bytes are an opening. -/
structure Faulty (bytes : List UInt8) (size : Option ℕ) : Prop where
  ne_nil : bytes ≠ []
  noChar : ∀ c, ¬String.utf8EncodeChar c <+: bytes
  open_iff : size = none ↔ IsOpening bytes
  closed : ∀ k, size = some k → 1 ≤ k ∧ k ≤ 3 ∧ IsFaultLength bytes k

/-- The pieces of bytes that begin with a faulty stretch. -/
def faultyPieces (bytes : List UInt8) : Option ℕ → List Piece
  | none => [.cutOff bytes.length]
  | some size => .broken size :: pieces (bytes.drop size)

/-- The rest of an opening's character never comes: the opening is a stretch of its own. -/
theorem Pending.Follows.faulty_of_out {p : Pending} {read : List UInt8} {b : UInt8}
    (h : p.Follows read) (hout : ¬p.Takes b) (rest : List UInt8) :
    Faulty (read ++ b :: rest) (some read.length) ∧
      pieces (read ++ b :: rest) = faultyPieces (read ++ b :: rest) (some read.length) := by
  have hread : ∀ rest, pieces (read ++ b :: rest) = .broken read.length :: pieces (b :: rest) := by
    intro rest
    rw [h.reached, piecesFrom_cons, step_out hout, h.seen]
    rfl
  have hbegun := h.begun
  have hopen := h.unfinished
  have hshort := h.short
  have hseen := h.seen
  -- no character begins with the bytes up to the one out of bounds
  have hstop : ∀ c, ¬read ++ [b] <+: String.utf8EncodeChar c :=
    not_prefix_of_broken fun rest => ⟨_, _, by rw [List.append_assoc]; exact hread rest⟩
  have hfront : read ++ [b] <+: read ++ b :: rest := ⟨rest, by simp⟩
  refine ⟨⟨by simp, ?_, ?_, ?_⟩, ?_⟩
  · intro c hc
    obtain ⟨others, hchar⟩ := pieces_of_prefix hc
    rw [hread] at hchar
    cases hchar
  · refine iff_of_false (by simp) ?_
    rintro ⟨-, c, hc, -⟩
    exact hstop c (hfront.trans hc)
  · rintro k hk
    obtain rfl := Option.some.inj hk
    refine ⟨by omega, by omega, .inl ⟨read, List.prefix_append _ _, h.isOpening, rfl, ?_⟩⟩
    rintro other hother ⟨-, c, hc, -⟩
    by_contra hlong
    refine hstop c (List.IsPrefix.trans ?_ hc)
    refine List.prefix_of_prefix_length_le hfront hother ?_
    rw [List.length_append, List.length_singleton]
    omega
  · rw [hread, faultyPieces, List.drop_left]

/-- A byte that begins no character is a stretch of its own. -/
theorem faulty_of_start {b : UInt8} (hstart : start b = ([.broken 1], none)) (rest : List UInt8) :
    Faulty (b :: rest) (some 1) ∧ pieces (b :: rest) = faultyPieces (b :: rest) (some 1) := by
  have hread : ∀ rest, pieces (b :: rest) = .broken 1 :: pieces rest := by
    intro rest
    show (start b).1 ++ piecesFrom (start b).2 rest = _
    rw [hstart]
    rfl
  have hfirst : ∀ c, ¬[b] <+: String.utf8EncodeChar c :=
    not_prefix_of_broken fun rest => ⟨_, _, hread rest⟩
  have hstop : ∀ other, other <+: b :: rest → ¬IsOpening other := by
    rintro other hother ⟨hne, c, hc, -⟩
    obtain ⟨b', tail, rfl⟩ := List.exists_cons_of_ne_nil hne
    obtain ⟨rfl, -⟩ := List.cons_prefix_cons.mp hother
    exact hfirst c (List.IsPrefix.trans ⟨tail, rfl⟩ hc)
  refine ⟨⟨List.cons_ne_nil _ _, ?_, ?_, ?_⟩, hread rest⟩
  · intro c hc
    obtain ⟨others, hchar⟩ := pieces_of_prefix hc
    rw [hread] at hchar
    cases hchar
  · exact iff_of_false (by simp) (hstop _ (List.prefix_refl _))
  · rintro k hk
    obtain rfl := Option.some.inj hk
    exact ⟨Nat.le_refl 1, by decide, .inr ⟨rfl, hstop⟩⟩

/-- Bytes that are all an opening are cut off by the end. -/
theorem Pending.Follows.faulty_of_end {p : Pending} {read : List UInt8} (h : p.Follows read) :
    Faulty read none ∧ pieces read = faultyPieces read none := by
  have hread : pieces read = [.cutOff read.length] := by
    have hreached := h.reached []
    rw [List.append_nil] at hreached
    rw [hreached, ← h.seen]
    rfl
  refine ⟨⟨h.isOpening.1, ?_, iff_of_true rfl h.isOpening, fun k hk => by cases hk⟩, hread⟩
  intro c hc
  obtain ⟨others, hchar⟩ := pieces_of_prefix hc
  rw [hread] at hchar
  cases hchar

/-- A character that has begun is completed, broken off or cut off. -/
theorem Pending.Follows.front_cases {p : Pending} {read : List UInt8} (h : p.Follows read)
    (rest : List UInt8) :
    (∃ c tail, read ++ rest = String.utf8EncodeChar c ++ tail) ∨
      ∃ size, Faulty (read ++ rest) size ∧
        pieces (read ++ rest) = faultyPieces (read ++ rest) size := by
  induction rest generalizing p read with
  | nil =>
    rw [List.append_nil]
    exact .inr ⟨none, h.faulty_of_end⟩
  | cons b rest ih =>
    by_cases htakes : p.Takes b
    · have hassoc : read ++ b :: rest = read ++ [b] ++ rest := by simp
      rcases Nat.lt_or_eq_of_le h.unfinished with hleft | hleft
      · have hnext := ih (h.next htakes hleft)
        rwa [← hassoc] at hnext
      · obtain ⟨c, hc⟩ := h.last htakes hleft.symm
        exact .inl ⟨c, rest, by rw [hc, hassoc]⟩
    · exact .inr ⟨_, h.faulty_of_out htakes rest⟩

/-- **A byte sequence begins with a character or with a faulty stretch.** -/
theorem front_cases {bytes : List UInt8} (hne : bytes ≠ []) :
    (∃ c rest, bytes = String.utf8EncodeChar c ++ rest) ∨
      ∃ size, Faulty bytes size ∧ pieces bytes = faultyPieces bytes size := by
  obtain ⟨b, rest, rfl⟩ := List.exists_cons_of_ne_nil hne
  rcases start_cases b with ⟨hlt, -⟩ | ⟨p, hstart, -⟩ | ⟨-, hstart⟩
  · exact .inl ⟨Char.ofNat b.toNat, rest, by rw [encodeChar_ascii hlt]; rfl⟩
  · exact (Pending.Follows.of_start hstart).front_cases rest
  · exact .inr ⟨_, faulty_of_start hstart rest⟩

end OwnedHandles.Utf8
