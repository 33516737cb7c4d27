import OwnedHandles.Proofs.Text.NulFree

/-!
# Texts by every route

A text is copied from bytes or from a string, which are checked, or from memory up to its
terminator; it is made of other texts by joining them, or of the names of a person.

- `CText.Obtainable`: what can be had by these routes, in any order and to any depth.
- `CText.obtainable_iff_nulFree`: these are the texts without zero bytes, and all of them.
- `CText.IsFirstZero`: the place that a check reports. `CText.Checked`: what a check of bytes comes
  to. `ofBytes_checked`, `ofString_checked`: bytes and strings are checked alike.
- `Person.ofBytes_eq_ok_iff`, `Person.ofBytes_eq_error_iff`: two names are checked one after the
  other.
- `CText.nulFree_by_every_route`: what a program in C can rely on.
-/

namespace OwnedHandles

namespace CText

/-! ## What can be had -/

/-- The texts that can be had. Parts of a text and names of a person are had before. -/
inductive Obtainable : CText → Prop
  | ofBytes {bytes : List UInt8} {t : CText} (made : CText.ofBytes bytes = .ok t) : Obtainable t
  | ofString {text : String} {t : CText} (made : CText.ofString text = .ok t) : Obtainable t
  | ofMemory (memory : List UInt8) : Obtainable (CText.ofMemory memory)
  | empty : Obtainable CText.empty
  | join {parts : List CText} {separator : UInt8} {t : CText} (had : ∀ p ∈ parts, Obtainable p)
      (made : CText.join parts separator = .ok t) : Obtainable t
  | fullName {p : Person} {t : CText} (given : Obtainable p.givenName)
      (family : Obtainable p.familyName) (made : p.fullName = .ok t) : Obtainable t

theorem separator_ne_zero_of_join {parts : List CText} {separator : UInt8} {t : CText}
    (h : join parts separator = .ok t) : separator ≠ 0 := by
  rintro rfl
  rw [join, if_pos rfl] at h
  cases h

/-- **No route lets a zero byte in.** -/
theorem Obtainable.nulFree {t : CText} (h : Obtainable t) : t.NulFree := by
  induction h with
  | ofBytes made => exact nulFree_of_ofBytes made
  | ofString made => exact nulFree_of_ofBytes made
  | ofMemory memory => exact nulFree_ofMemory memory
  | empty => exact List.not_mem_nil
  | join _ made ih =>
    have hseparator := separator_ne_zero_of_join made
    rw [join_eq ih hseparator] at made
    obtain rfl := Except.ok.inj made
    exact nulFree_joinBytes ih hseparator
  | fullName _ _ made hgiven hfamily =>
    rw [Person.fullName_eq hgiven hfamily] at made
    obtain rfl := Except.ok.inj made
    exact Person.nulFree_fullName hgiven hfamily

/-- **The texts that can be had are those without zero bytes.** -/
theorem obtainable_iff_nulFree (t : CText) : Obtainable t ↔ t.NulFree :=
  ⟨Obtainable.nulFree, fun h => .ofBytes ((ofBytes_eq_ok_iff t.bytes t).mpr ⟨h, rfl⟩)⟩

/-- Joining fails for a separator that is zero, and for no other reason. -/
theorem join_ne_nulInBuffer {parts : List CText} (hparts : ∀ t ∈ parts, t.NulFree)
    (separator : UInt8) (position : ℕ) :
    join parts separator ≠ .error (.nulInBuffer position) := by
  intro h
  by_cases hseparator : separator = 0
  · rw [join, if_pos hseparator] at h
    cases h
  · rw [join_eq hparts hseparator] at h
    cases h

/-! ## What is checked -/

/-- The place of the first zero byte. -/
def IsFirstZero (bytes : List UInt8) (position : ℕ) : Prop :=
  bytes[position]? = some 0 ∧ ∀ i < position, bytes[i]? ≠ some 0

/-- The search for a zero byte finds the first one. -/
theorem findIdx?_zero_eq_some_iff (bytes : List UInt8) (position : ℕ) :
    bytes.findIdx? (· = 0) = some position ↔ IsFirstZero bytes position := by
  rw [List.findIdx?_eq_some_iff_getElem]
  constructor
  · rintro ⟨hlt, hzero, hbefore⟩
    refine ⟨?_, fun i hi => ?_⟩
    · rw [List.getElem?_eq_getElem hlt, of_decide_eq_true hzero]
    · rw [List.getElem?_eq_getElem (Nat.lt_trans hi hlt)]
      intro heq
      exact hbefore i hi (decide_eq_true (Option.some.inj heq))
  · rintro ⟨hzero, hbefore⟩
    obtain ⟨hlt, heq⟩ := List.getElem?_eq_some_iff.mp hzero
    refine ⟨hlt, decide_eq_true heq, fun i hi hfound => hbefore i hi ?_⟩
    rw [List.getElem?_eq_getElem (Nat.lt_trans hi hlt), of_decide_eq_true hfound]

/-- What a check of bytes comes to: the text of just these bytes if none of them is zero, else the
place of the first zero. -/
structure Checked (bytes : List UInt8) (made : Except TextError CText) : Prop where
  ok_iff : ∀ t, made = .ok t ↔ 0 ∉ bytes ∧ t.bytes = bytes
  error_iff : ∀ e, made = .error e ↔ ∃ i, IsFirstZero bytes i ∧ e = .interiorNul i

theorem ofBytes_eq_error_iff (bytes : List UInt8) (e : TextError) :
    ofBytes bytes = .error e ↔ ∃ i, IsFirstZero bytes i ∧ e = .interiorNul i := by
  simp only [← findIdx?_zero_eq_some_iff]
  unfold ofBytes
  cases bytes.findIdx? (· = 0) <;> simp [eq_comm]

theorem ofBytes_checked (bytes : List UInt8) : Checked bytes (ofBytes bytes) :=
  ⟨ofBytes_eq_ok_iff bytes, ofBytes_eq_error_iff bytes⟩

theorem ofString_checked (text : String) :
    Checked (Utf8.encode text.toList) (ofString text) :=
  ofBytes_checked _

/-- Checks of the same bytes yield the same text. -/
theorem Checked.unique {bytes : List UInt8} {made other : Except TextError CText}
    (h : Checked bytes made) (h' : Checked bytes other) {t u : CText} (hmade : made = .ok t)
    (hother : other = .ok u) : t = u := by
  obtain ⟨-, ht⟩ := (h.ok_iff t).mp hmade
  obtain ⟨-, hu⟩ := (h'.ok_iff u).mp hother
  cases t
  cases u
  exact congrArg CText.mk (ht.trans hu.symm)

end CText

/-! ## Two names -/

namespace Person

/-- A person is made of two names that both pass. -/
theorem ofBytes_eq_ok_iff (given family : List UInt8) (p : Person) :
    ofBytes given family = .ok p ↔
      CText.ofBytes given = .ok p.givenName ∧ CText.ofBytes family = .ok p.familyName := by
  obtain ⟨givenName, familyName⟩ := p
  unfold ofBytes
  cases CText.ofBytes given with
  | error e => simp
  | ok first => cases CText.ofBytes family <;> simp

/-- The given name is reported if it is at fault, and the family name if only that one is. -/
theorem ofBytes_eq_error_iff (given family : List UInt8) (e : TextError) :
    ofBytes given family = .error e ↔
      CText.ofBytes given = .error e ∨
      (∃ t, CText.ofBytes given = .ok t) ∧ CText.ofBytes family = .error e := by
  unfold ofBytes
  cases CText.ofBytes given with
  | error e' => simp
  | ok first => cases CText.ofBytes family <;> simp

/-- The zero of the family name comes sooner, and still goes unreported. -/
example : ofBytes [0x61, 0] [0, 0x62] = .error (.interiorNul 1) := rfl

end Person

/-- **All of a text is there to see for C, by whatever route it was had.**

- It has no zero byte, and is read through its pointer up to its terminator as just its bytes, as
  many as its length says, whatever lies behind it in memory.
- Texts that can be had join, unless the separator is zero; a zero in the joined bytes is never
  found. So a person always has a full name.
- Bytes and strings are checked alike: they pass iff they have no zero byte, and are then kept byte
  for byte, as one and the same text; else the first zero is reported.
- Of two names, the given one is reported if it is at fault, else the family name. -/
theorem CText.nulFree_by_every_route :
    (∀ t, Obtainable t → 0 ∉ t.bytes ∧
      ∀ behind, readTerminated (t.terminated ++ behind) = t.bytes ∧
        (readTerminated (t.terminated ++ behind)).length = t.length) ∧
    (∀ parts separator, (∀ t ∈ parts, Obtainable t) →
      (separator ≠ 0 → ∃ t, join parts separator = .ok t ∧ Obtainable t) ∧
      ∀ position, join parts separator ≠ .error (.nulInBuffer position)) ∧
    (∀ p : Person, Obtainable p.givenName → Obtainable p.familyName →
      ∃ t, p.fullName = .ok t ∧ Obtainable t) ∧
    (∀ bytes, Checked bytes (ofBytes bytes)) ∧
    (∀ text, Checked (Utf8.encode text.toList) (ofString text)) ∧
    (∀ text t u, ofString text = .ok t → ofBytes (Utf8.encode text.toList) = .ok u → t = u) ∧
    (∀ given family p, Person.ofBytes given family = .ok p ↔
      ofBytes given = .ok p.givenName ∧ ofBytes family = .ok p.familyName) ∧
    ∀ given family e, Person.ofBytes given family = .error e ↔
      ofBytes given = .error e ∨ (∃ t, ofBytes given = .ok t) ∧ ofBytes family = .error e := by
  refine ⟨fun t ht => ⟨ht.nulFree, fun behind => ?_⟩, fun parts separator hparts => ⟨?_, ?_⟩, ?_,
    ofBytes_checked, ofString_checked,
    fun text t u => (ofString_checked text).unique (ofBytes_checked _),
    Person.ofBytes_eq_ok_iff, Person.ofBytes_eq_error_iff⟩
  · have hread : readTerminated (t.terminated ++ behind) = t.bytes := by
      rw [terminated, List.append_assoc]
      exact readTerminated_of_not_mem ht.nulFree behind
    rw [hread]
    exact ⟨rfl, rfl⟩
  · intro hseparator
    have hjoin := join_eq (fun t ht => (hparts t ht).nulFree) hseparator
    exact ⟨_, hjoin, .join hparts hjoin⟩
  · exact join_ne_nulInBuffer (fun t ht => (hparts t ht).nulFree) separator
  · intro p hgiven hfamily
    have hfull := Person.fullName_eq hgiven.nulFree hfamily.nulFree
    exact ⟨_, hfull, .fullName hgiven hfamily hfull⟩

end OwnedHandles
