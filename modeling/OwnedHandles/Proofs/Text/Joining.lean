import OwnedHandles.Proofs.Text.Decoding
import OwnedHandles.Proofs.Text.NulFree

/-!
# Reading joined texts

A byte of ASCII is never part of a longer character. It breaks off whatever has begun before it, and
what comes after it is read afresh. So a joined text is read part by part.

- `Utf8.pieces_append_ascii`: the pieces of bytes with a byte of ASCII among them.
- `Utf8.lossy_append_ascii`: what is shown of them.
- `Utf8.decode_append_ascii_ok`, `Utf8.decode_append_ascii_error`: what strict reading gives.
- `CText.join_reads_by_parts`: the same for any number of parts.
-/

namespace OwnedHandles

namespace Utf8

/-- A stretch with a byte of ASCII after it: not the end of the input stops it, but this byte. -/
def Piece.brokenOff : Piece → Piece
  | .cutOff size => .broken size
  | piece => piece

@[simp] theorem shown_brokenOff (piece : Piece) : piece.brokenOff.shown = piece.shown := by
  cases piece <;> rfl

variable {b : UInt8}

theorem start_ascii (hb : b.toNat < 0x80) : start b = ([.char (Char.ofNat b.toNat)], none) :=
  if_pos hb

/-! ## The machine -/

/-- A character that has begun takes no byte of ASCII. -/
def RefusesAscii (state : Option Pending) : Prop :=
  ∀ p, state = some p → 0x80 ≤ p.low

theorem refusesAscii_start (b : UInt8) : RefusesAscii (start b).2 := by
  intro p hp
  rcases start_cases b with ⟨-, hstart⟩ | ⟨q, hstart, hopened⟩ | ⟨-, hstart⟩
  · rw [hstart] at hp
    cases hp
  · rw [hstart] at hp
    obtain rfl := Option.some.inj hp
    have hlow := hopened.low
    omega
  · rw [hstart] at hp
    cases hp

/-- No byte leads the machine to a state that takes one of ASCII. -/
theorem refusesAscii_step (state : Option Pending) (b : UInt8) : RefusesAscii (step state b).2 := by
  cases state with
  | none => exact refusesAscii_start b
  | some p =>
    rcases step_cases p b with ⟨c, hstep⟩ | hstep | hstep
    · rintro q hq
      rw [hstep] at hq
      cases hq
    · rintro q hq
      rw [hstep] at hq
      obtain rfl := Option.some.inj hq
      exact Nat.le_refl 0x80
    · rw [hstep]
      exact refusesAscii_start b

/-- Nothing is cut off before the end of the input. -/
theorem brokenOff_step (state : Option Pending) (b : UInt8) :
    (step state b).1.map Piece.brokenOff = (step state b).1 := by
  have hstart : (start b).1.map Piece.brokenOff = (start b).1 := by
    rcases start_cases b with ⟨-, h⟩ | ⟨q, h, -⟩ | ⟨-, h⟩ <;> rw [h] <;> rfl
  cases state with
  | none => exact hstart
  | some p =>
    rcases step_cases p b with ⟨c, hstep⟩ | hstep | hstep
    · rw [hstep]
      rfl
    · rw [hstep]
      rfl
    · rw [hstep]
      exact congrArg (Piece.broken p.seen :: ·) hstart

/-- **A byte of ASCII is read as itself in every state**, and what comes after it is read afresh. -/
theorem piecesFrom_append_ascii {state : Option Pending} (hstate : RefusesAscii state)
    (hb : b.toNat < 0x80) (bytes rest : List UInt8) :
    piecesFrom state (bytes ++ b :: rest) =
      (piecesFrom state bytes).map Piece.brokenOff ++
        .char (Char.ofNat b.toNat) :: pieces rest := by
  induction bytes generalizing state with
  | nil =>
    cases state with
    | none =>
      show (start b).1 ++ piecesFrom (start b).2 rest = _
      rw [start_ascii hb]
      rfl
    | some p =>
      have hout : ¬p.Takes b := fun htakes => by
        have hlow := hstate p rfl
        have hle := htakes.1
        omega
      show piecesFrom (some p) (b :: rest) = _
      rw [piecesFrom_cons, step_out hout, start_ascii hb]
      rfl
  | cons x bytes ih =>
    show piecesFrom state (x :: (bytes ++ b :: rest)) = _
    rw [piecesFrom_cons, piecesFrom_cons, ih (refusesAscii_step state x), List.map_append,
      brokenOff_step, List.append_assoc]

theorem pieces_append_ascii (hb : b.toNat < 0x80) (bytes rest : List UInt8) :
    pieces (bytes ++ b :: rest) =
      (pieces bytes).map Piece.brokenOff ++ .char (Char.ofNat b.toNat) :: pieces rest :=
  piecesFrom_append_ascii (fun _ h => by cases h) hb bytes rest

/-- **The text on both sides of a byte of ASCII is shown on its own.** -/
theorem lossy_append_ascii (hb : b.toNat < 0x80) (bytes rest : List UInt8) :
    lossy (bytes ++ b :: rest) = lossy bytes ++ Char.ofNat b.toNat :: lossy rest := by
  have hshown : Piece.shown ∘ Piece.brokenOff = Piece.shown := funext shown_brokenOff
  rw [lossy, pieces_append_ascii hb, List.map_append, List.map_map, hshown]
  rfl

/-! ## Strict reading -/

/-- A text in front is read as itself, and moves the place of a later fault by its bytes. -/
theorem decode_after_text (text : List Char) (rest : List UInt8) :
    decode (encode text ++ rest) =
      match decode rest with
      | .ok chars => .ok (text ++ chars)
      | .error fault => .error ⟨(encode text).length + fault.validUpTo, fault.size⟩ := by
  rcases wellFormed_or_faulty rest with ⟨chars, rfl⟩ | ⟨own, tail, size, rfl, -, hpieces⟩
  · rw [← encode_append, decode_encode, decode_encode]
  · rw [decode_of_faulty hpieces, ← List.append_assoc, ← encode_append, decode_of_faulty hpieces,
      encode_append, List.length_append]

/-- What is well-formed on the left of a byte of ASCII is read on its own. -/
theorem decode_append_ascii_ok (hb : b.toNat < 0x80) {bytes : List UInt8} {chars : List Char}
    (h : decode bytes = .ok chars) (rest : List UInt8) :
    decode (bytes ++ b :: rest) =
      match decode rest with
      | .ok others => .ok (chars ++ Char.ofNat b.toNat :: others)
      | .error fault => .error ⟨bytes.length + 1 + fault.validUpTo, fault.size⟩ := by
  obtain rfl := decode_eq_ok_iff.mp h
  have hfront : encode chars ++ b :: rest = encode (chars ++ [Char.ofNat b.toNat]) ++ rest := by
    rw [encode_append, encode_cons, encodeChar_ascii hb, List.append_assoc]
    rfl
  rw [hfront, decode_after_text, encode_append, encode_cons, encodeChar_ascii hb,
    List.length_append]
  cases decode rest with
  | ok others => exact congrArg Except.ok (List.append_assoc _ _ _)
  | error fault => rfl

/-- A fault on the left of a byte of ASCII is found where it is found there. -/
theorem decode_append_ascii_error (hb : b.toNat < 0x80) {bytes : List UInt8} {fault : Fault}
    (h : decode bytes = .error fault) (rest : List UInt8) :
    ∃ size, decode (bytes ++ b :: rest) = .error ⟨fault.validUpTo, size⟩ := by
  rcases wellFormed_or_faulty bytes with ⟨text, rfl⟩ | ⟨text, tail, size, rfl, -, hpieces⟩
  · rw [decode_encode] at h
    cases h
  · rw [decode_of_faulty hpieces] at h
    obtain rfl := Except.error.inj h
    rw [List.append_assoc, decode_encode_append, pieces_append_ascii hb, hpieces]
    cases size with
    | none => exact ⟨_, rfl⟩
    | some k => exact ⟨_, rfl⟩

end Utf8

namespace CText

open Utf8

variable {separator : UInt8}

/-- The parts are shown one by one, with the separator as a character between them. -/
theorem lossy_joinBytes (hascii : separator.toNat < 0x80) (parts : List CText) :
    lossy (joinBytes separator parts) =
      [Char.ofNat separator.toNat].intercalate (parts.map fun t => lossy t.bytes) := by
  induction parts with
  | nil => rfl
  | cons part rest ih =>
    rcases eq_or_ne rest [] with rfl | hne
    · simp [joinBytes]
    · have hmap : (rest.map fun t => lossy t.bytes) ≠ [] := by simpa using hne
      rw [joinBytes_cons separator part hne, lossy_append_ascii hascii, ih, List.map_cons,
        List.intercalate_cons_of_ne_nil hmap, List.append_assoc]
      rfl

/-- The bytes of the parts before one of them, with their separators. -/
def front (separator : UInt8) (before : List CText) : List UInt8 :=
  before.flatMap fun t => t.bytes ++ [separator]

theorem front_cons (separator : UInt8) (part : CText) (before : List CText) :
    front separator (part :: before) = part.bytes ++ separator :: front separator before := by
  simp [front]

/-- A part stands behind those before it. -/
theorem joinBytes_append_cons (separator : UInt8) (before : List CText) (first : CText)
    (after : List CText) :
    front separator before ++ first.bytes <+: joinBytes separator (before ++ first :: after) := by
  induction before with
  | nil =>
    rcases eq_or_ne after [] with rfl | hne
    · exact List.prefix_refl _
    · show first.bytes <+: joinBytes separator (first :: after)
      rw [joinBytes_cons separator first hne]
      exact List.prefix_append _ _
  | cons part before ih =>
    show front separator (part :: before) ++ _ <+: joinBytes separator (part :: (before ++ _))
    rw [joinBytes_cons separator part (by simp)]
    rw [front_cons, List.append_assoc, List.prefix_append_right_inj]
    exact List.cons_prefix_cons.mpr ⟨rfl, ih⟩

/-- Either all parts are well-formed and so is the joined text, or the first one that is not puts
its own fault behind the parts before it. -/
theorem decode_joinBytes_cases (hascii : separator.toNat < 0x80) (parts : List CText) :
    ((∀ t ∈ parts, ∃ chars, decode t.bytes = .ok chars) ∧
      ∃ chars, decode (joinBytes separator parts) = .ok chars) ∨
    ∃ before first after fault size, parts = before ++ first :: after ∧
      (∀ t ∈ before, ∃ chars, decode t.bytes = .ok chars) ∧ decode first.bytes = .error fault ∧
      decode (joinBytes separator parts) =
        .error ⟨(front separator before).length + fault.validUpTo, size⟩ := by
  induction parts with
  | nil => exact .inl ⟨fun t ht => absurd ht List.not_mem_nil, [], rfl⟩
  | cons part rest ih =>
    cases hpart : decode part.bytes with
    | error fault =>
      refine .inr ⟨[], part, rest, fault, ?_⟩
      show ∃ size, _ ∧ _ ∧ _ ∧ _ = Except.error (Fault.mk (0 + fault.validUpTo) size)
      rw [Nat.zero_add]
      rcases eq_or_ne rest [] with rfl | hne
      · exact ⟨fault.size, rfl, by simp, hpart, hpart⟩
      · obtain ⟨size, hsize⟩ := decode_append_ascii_error hascii hpart (joinBytes separator rest)
        refine ⟨size, rfl, by simp, hpart, ?_⟩
        rw [joinBytes_cons separator part hne, hsize]
    | ok chars =>
      rcases eq_or_ne rest [] with rfl | hne
      · exact .inl ⟨by simp [hpart], chars, hpart⟩
      · have hread := decode_append_ascii_ok hascii hpart (joinBytes separator rest)
        rw [← joinBytes_cons separator part hne] at hread
        rcases ih with ⟨hrest, others, hothers⟩ |
          ⟨before, first, after, fault, size, rfl, hbefore, hfirst, herror⟩
        · rw [hothers] at hread
          exact .inl ⟨List.forall_mem_cons.mpr ⟨⟨chars, hpart⟩, hrest⟩, _, hread⟩
        · rw [herror] at hread
          refine .inr ⟨part :: before, first, after, fault, size, rfl,
            List.forall_mem_cons.mpr ⟨⟨chars, hpart⟩, hbefore⟩, hfirst, ?_⟩
          have hlength :
              part.bytes.length + 1 + ((front separator before).length + fault.validUpTo) =
              (front separator (part :: before)).length + fault.validUpTo := by
            rw [front_cons, List.length_append, List.length_cons]
            omega
          rw [hread, ← hlength]

theorem exists_toStr_iff (t : CText) :
    (∃ s, t.toStr = .ok s) ↔ ∃ chars, decode t.bytes = .ok chars := by
  constructor
  · rintro ⟨s, hs⟩
    exact ⟨s.toList, (toStr_eq_ok_iff t s).mp hs⟩
  · rintro ⟨chars, hchars⟩
    refine ⟨String.ofList chars, (toStr_eq_ok_iff t _).mpr ?_⟩
    rw [String.toList_ofList, hchars]

/-- The parts are shown one by one, with the separator between them. -/
theorem display_joinBytes (hascii : separator.toNat < 0x80) (parts : List CText) :
    CText.display ⟨joinBytes separator parts⟩ =
      (String.singleton (Char.ofNat separator.toNat)).intercalate (parts.map display) := by
  have hlossy : String.toList ∘ display = fun t => lossy t.bytes :=
    funext fun t => String.toList_ofList
  rw [← String.toList_inj, display, String.toList_ofList, lossy_joinBytes hascii,
    String.toList_intercalate, List.map_map, hlossy, String.toList_singleton]

/-- **A text joined by a byte of ASCII is read part by part**, whatever bytes the parts have.

- What is shown of it is what is shown of the parts, with the separator between them.
- It is well-formed iff all parts are. If not, the first part that is not well-formed lies in it
  behind the parts before it, and the fault is found at the place that it has in this part.
- So a person is shown as their full name is, although each name is made readable on its own. -/
theorem join_reads_by_parts (parts : List CText) (hparts : ∀ t ∈ parts, t.NulFree)
    (separator : UInt8) (hnul : separator ≠ 0) (hascii : separator < 0x80) :
    (∃ joined, join parts separator = .ok joined ∧
      joined.display =
        (String.singleton (Char.ofNat separator.toNat)).intercalate (parts.map display) ∧
      ((∃ s, joined.toStr = .ok s) ↔ ∀ t ∈ parts, ∃ s, t.toStr = .ok s) ∧
      ((∀ s, joined.toStr ≠ .ok s) → ∃ before first after start fault size,
        parts = before ++ first :: after ∧ (∀ t ∈ before, ∃ s, t.toStr = .ok s) ∧
        start = before.flatMap (fun t => t.bytes ++ [separator]) ∧
        start ++ first.bytes <+: joined.bytes ∧
        first.toStr = .error (.invalidUtf8 fault) ∧
        joined.toStr = .error (.invalidUtf8 ⟨start.length + fault.validUpTo, size⟩))) ∧
    ∀ p : Person, p.givenName.NulFree → p.familyName.NulFree →
      ∃ name, p.fullName = .ok name ∧ name.display = p.display := by
  have hlt : separator.toNat < 0x80 := UInt8.lt_iff_toNat_lt.mp hascii
  refine ⟨⟨_, join_eq hparts hnul, display_joinBytes hlt parts, ?_, ?_⟩, ?_⟩
  · simp only [exists_toStr_iff]
    rcases decode_joinBytes_cases hlt parts with
      ⟨hall, hjoined⟩ | ⟨before, first, after, fault, size, rfl, -, hfirst, herror⟩
    · exact iff_of_true hjoined hall
    · refine iff_of_false ?_ fun hall => ?_
      · rintro ⟨chars, hchars⟩
        rw [herror] at hchars
        cases hchars
      · obtain ⟨chars, hchars⟩ := hall first (by simp)
        rw [hfirst] at hchars
        cases hchars
  · intro hill
    rcases decode_joinBytes_cases hlt parts with
      ⟨-, hjoined⟩ | ⟨before, first, after, fault, size, rfl, hbefore, hfirst, herror⟩
    · obtain ⟨s, hs⟩ := (exists_toStr_iff ⟨_⟩).mpr hjoined
      exact absurd hs (hill s)
    · refine ⟨before, first, after, front separator before, fault, size, rfl, ?_, rfl,
        joinBytes_append_cons separator before first after, ?_, ?_⟩
      · intro t ht
        exact (exists_toStr_iff t).mpr (hbefore t ht)
      · exact (toStr_eq_error_iff _ _).mpr ⟨fault, hfirst, rfl⟩
      · exact (toStr_eq_error_iff _ _).mpr ⟨_, herror, rfl⟩
  · intro p hgiven hfamily
    refine ⟨_, Person.fullName_eq hgiven hfamily, ?_⟩
    exact display_joinBytes (by decide) [p.givenName, p.familyName]

/-- The three bytes of the euro sign, on both sides of a hyphen: the hyphen breaks off what has
begun, and the last byte begins nothing. -/
theorem join_reads_by_parts_split_euro :
    (∀ t ∈ [CText.mk [0x61], ⟨[0xE2, 0x82]⟩, ⟨[0xAC]⟩], t.NulFree) ∧
    ∃ joined, join [⟨[0x61]⟩, ⟨[0xE2, 0x82]⟩, ⟨[0xAC]⟩] 0x2D = .ok joined ∧
      joined.display = "a-\uFFFD-\uFFFD" ∧
      joined.toStr = .error (.invalidUtf8 ⟨2, some 2⟩) := by
  have hparts : ∀ t ∈ [CText.mk [0x61], ⟨[0xE2, 0x82]⟩, ⟨[0xAC]⟩], t.NulFree := by
    simp [NulFree]
  obtain ⟨⟨joined, hjoin, hdisplay, -, -⟩, -⟩ :=
    join_reads_by_parts _ hparts 0x2D (by decide) (by decide)
  refine ⟨hparts, joined, hjoin, hdisplay.trans (by decide), ?_⟩
  cases hjoin
  rfl

end CText

end OwnedHandles
