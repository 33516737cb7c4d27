import OwnedHandles.Clock.Rendering
import OwnedHandles.Payload.Person
import OwnedHandles.Proofs.Text.Numeral

/-!
# Texts without zero bytes

A C program sees a text up to its first zero byte, so it sees all of a text that has none.

- `CText.NulFree`: the text has no zero byte. `CText.ofMemory`, `CText.ofBytes` and `CText.ofString`
  yield no others.
- `CText.join_eq`: such texts join to one, by any separator that is not zero.
- `Person.fullName_eq`: so do the names of a person.
- `Duration.ofString_render`: a rendered duration is such a text, whatever style it is rendered in.
-/

namespace OwnedHandles

namespace CText

/-- No byte of the text is zero. -/
def NulFree (t : CText) : Prop :=
  0 ∉ t.bytes

theorem nulFree_ofMemory (memory : List UInt8) : (ofMemory memory).NulFree :=
  zero_not_mem_readTerminated memory

theorem nulFree_of_ofBytes {bytes : List UInt8} {t : CText} (h : ofBytes bytes = .ok t) :
    t.NulFree := by
  obtain ⟨hnul, hbytes⟩ := (ofBytes_eq_ok_iff bytes t).mp h
  rw [NulFree, hbytes]
  exact hnul

/-- All of the text is read back. -/
theorem NulFree.readTerminated_terminated {t : CText} (h : t.NulFree) :
    readTerminated t.terminated = t.bytes :=
  readTerminated_of_not_mem h []

/-! ## Joining -/

/-- A separator that is not zero adds no zero byte. -/
theorem nulFree_joinBytes {parts : List CText} (hparts : ∀ t ∈ parts, t.NulFree)
    {separator : UInt8} (hseparator : separator ≠ 0) : NulFree ⟨joinBytes separator parts⟩ := by
  induction parts with
  | nil => exact List.not_mem_nil
  | cons part rest ih =>
    obtain ⟨hpart, hrest⟩ := List.forall_mem_cons.mp hparts
    rcases eq_or_ne rest [] with rfl | hne
    · exact hpart
    · show 0 ∉ joinBytes separator (part :: rest)
      rw [joinBytes_cons separator part hne]
      intro hmem
      rcases List.mem_append.mp hmem with hmem | hmem
      · exact hpart hmem
      · rcases List.mem_cons.mp hmem with hmem | hmem
        · exact hseparator hmem.symm
        · exact ih hrest hmem

/-- **Texts always join**, by any separator that is not zero. -/
theorem join_eq {parts : List CText} (hparts : ∀ t ∈ parts, t.NulFree) {separator : UInt8}
    (hseparator : separator ≠ 0) :
    join parts separator = .ok ⟨joinBytes separator parts⟩ := by
  have hbytes := (ofBytes_eq_ok_iff _ ⟨_⟩).mpr ⟨nulFree_joinBytes hparts hseparator, rfl⟩
  rw [join, if_neg hseparator, hbytes]

end CText

/-! ## Names -/

/-- Both names of a person are without zero bytes. -/
theorem Person.nulFree_names {p : Person} (hgiven : p.givenName.NulFree)
    (hfamily : p.familyName.NulFree) : ∀ t ∈ [p.givenName, p.familyName], t.NulFree :=
  List.forall_mem_cons.mpr ⟨hgiven, List.forall_mem_singleton.mpr hfamily⟩

/-- A space between two names adds no zero byte. -/
theorem Person.nulFree_fullName {p : Person} (hgiven : p.givenName.NulFree)
    (hfamily : p.familyName.NulFree) :
    CText.NulFree ⟨p.givenName.bytes ++ 0x20 :: p.familyName.bytes⟩ :=
  CText.nulFree_joinBytes (nulFree_names hgiven hfamily) (by decide)

/-- The full name is the given name, a space and the family name. It always exists. -/
theorem Person.fullName_eq {p : Person} (hgiven : p.givenName.NulFree)
    (hfamily : p.familyName.NulFree) :
    p.fullName = .ok ⟨p.givenName.bytes ++ 0x20 :: p.familyName.bytes⟩ :=
  CText.join_eq (nulFree_names hgiven hfamily) (by decide)

/-! ## Characters -/

namespace Utf8

/-- A number that is no multiple of 256 makes a byte that is not zero. -/
theorem zero_ne_ofNat {n : Nat} (h : n % 256 ≠ 0) : (0 : UInt8) ≠ UInt8.ofNat n := by
  intro heq
  have hmod := congrArg UInt8.toNat heq
  rw [UInt8.toNat_ofNat'] at hmod
  exact h hmod.symm

/-- Only NUL has a zero byte: beyond ASCII, the highest bit is set in every byte. -/
theorem zero_not_mem_encodeChar {c : Char} (h : c ≠ '\x00') : 0 ∉ String.utf8EncodeChar c := by
  have hpos : c.val.toNat ≠ 0 := fun hzero => h (Char.ext (UInt32.toNat_inj.mp hzero))
  have hhigh : ∀ low high, 0 < high → low + high < 256 →
      (0 : UInt8) ≠ UInt8.ofNat (low + high) := fun low high hhigh hlt =>
    zero_ne_ofNat (by omega)
  unfold String.utf8EncodeChar
  generalize c.val.toNat = n at hpos
  intro hmem
  simp only at hmem
  split at hmem
  · have hne := zero_ne_ofNat (n := n) (by omega)
    exact hne (List.mem_singleton.mp hmem)
  · -- what is beyond ASCII begins with 0xc0, 0xe0 or 0xf0 and goes on with 0x80, plus lower bits
    have hlead := hhigh (n / 64 % 0x20) 0xc0 (by omega) (by omega)
    have hlead' := hhigh (n / 4096 % 0x10) 0xe0 (by omega) (by omega)
    have hlead'' := hhigh (n / 262144 % 0x08) 0xf0 (by omega) (by omega)
    have hnext : ∀ m, (0 : UInt8) ≠ UInt8.ofNat (m % 0x40 + 0x80) := fun m =>
      hhigh (m % 0x40) 0x80 (by omega) (by omega)
    split at hmem
    · simp only [List.mem_cons, hlead, hnext, List.not_mem_nil, or_self] at hmem
    · split at hmem
      · simp only [List.mem_cons, hlead', hnext, List.not_mem_nil, or_self] at hmem
      · simp only [List.mem_cons, hlead'', hnext, List.not_mem_nil, or_self] at hmem

/-- A text without NUL has no zero byte. -/
theorem zero_not_mem_encode {text : List Char} (h : '\x00' ∉ text) : 0 ∉ encode text := by
  intro hmem
  obtain ⟨c, hc, hbyte⟩ := List.mem_flatMap.mp hmem
  have hne : c ≠ '\x00' := fun heq => h (heq ▸ hc)
  exact zero_not_mem_encodeChar hne hbyte

end Utf8

/-- A string without NUL becomes a text of all its bytes. -/
theorem CText.ofString_eq {text : String} (h : '\x00' ∉ text.toList) :
    CText.ofString text = .ok ⟨Utf8.encode text.toList⟩ :=
  (CText.ofBytes_eq_ok_iff _ ⟨_⟩).mpr ⟨Utf8.zero_not_mem_encode h, rfl⟩

/-! ## Rendered durations -/

/-- A character of a decimal numeral. -/
def IsNumeral (c : Char) : Prop :=
  c.isDigit = true ∨ c = '.'

theorem not_isNumeral_nul : ¬IsNumeral '\x00' := by
  rintro (h | h)
  · cases h
  · exact absurd h (by decide)

namespace Decimal

theorem isNumeral_of_mem_digits {n : Nat} {c : Char} (h : c ∈ digits n) : IsNumeral c :=
  .inl (isDigit_of_mem_digits h)

theorem isNumeral_of_mem_fixed {places n : Nat} {c : Char} (h : c ∈ fixed places n) :
    IsNumeral c := by
  rcases List.mem_append.mp h with h | h
  · exact isNumeral_of_mem_digits h
  · unfold fraction at h
    split at h
    · cases h
    · rcases List.mem_cons.mp h with rfl | h
      · exact .inr rfl
      · exact .inl (isDigit_of_mem_padded h)

end Decimal

theorem Magnitude.isNumeral_of_mem_fractionText {nanos : Nat} {unit : TimeUnit} {places : Nat}
    {c : Char} (h : c ∈ fractionText nanos unit places) : IsNumeral c := by
  rw [fractionText, Binary64.toFixed] at h
  exact Decimal.isNumeral_of_mem_fixed h

/-- A carry takes a digit off the text, and adds no character. -/
theorem Magnitude.mem_of_mem_carry {whole : Nat} {text : List Char} {c : Char}
    (h : c ∈ (carry whole text).fraction) : c ∈ text := by
  unfold carry at h
  split at h
  · exact List.mem_cons_of_mem _ h
  · exact List.mem_of_mem_drop h

theorem TimeUnit.nul_not_mem_suffix (unit : TimeUnit) : '\x00' ∉ unit.suffix.toList := by
  cases unit <;> decide

namespace Duration

theorem nul_not_mem_renderChars (d : Duration) (style : RenderStyle) :
    '\x00' ∉ d.renderChars style := by
  intro h
  rcases List.mem_append.mp h with h | h
  · rcases List.mem_append.mp h with h | h
    · exact not_isNumeral_nul (Decimal.isNumeral_of_mem_digits h)
    · have hfraction := Magnitude.mem_of_mem_carry h
      exact not_isNumeral_nul (Magnitude.isNumeral_of_mem_fractionText hfraction)
  · exact TimeUnit.nul_not_mem_suffix _ h

/-- **A rendered duration becomes a text of all its bytes**, in every style. -/
theorem ofString_render (d : Duration) (style : RenderStyle) :
    CText.ofString (d.render style) = .ok ⟨Utf8.encode (d.render style).toList⟩ := by
  refine CText.ofString_eq ?_
  rw [render, String.toList_ofList]
  exact d.nul_not_mem_renderChars style

end Duration

end OwnedHandles
