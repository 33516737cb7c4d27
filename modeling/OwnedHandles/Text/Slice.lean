import OwnedHandles.Text.Quoted

/-!
# Slices by byte

A text is cut at byte positions of its UTF-8 form. A cut must fall between two characters.

- `Text.positions`: the characters with the bytes they begin at.
- `Text.slice`: the characters between two cuts.
- `Straddle`: a cut that falls inside a character, with the character.
-/

namespace OwnedHandles.Text

/-- The characters of a text with the bytes they begin at; `offset` is the first of these. -/
def positions (offset : Nat) : List Char → List (Nat × Char)
  | [] => []
  | c :: rest => (offset, c) :: positions (offset + c.utf8Size) rest

/-- Positions leave the characters as they are. -/
@[simp] theorem map_snd_positions (offset : Nat) (text : List Char) :
    (positions offset text).map (·.2) = text := by
  induction text generalizing offset with
  | nil => rfl
  | cons c rest ih => simp [positions, ih]

/-- No character begins before the offset. -/
theorem le_of_mem_positions {offset : Nat} {text : List Char} {p : Nat × Char}
    (h : p ∈ positions offset text) : offset ≤ p.1 := by
  induction text generalizing offset with
  | nil => cases h
  | cons c rest ih =>
    rcases List.mem_cons.mp h with rfl | h
    · exact Nat.le_refl _
    · exact Nat.le_trans (Nat.le_add_right _ _) (ih h)

/-- The end of a slice that a cut makes. -/
inductive Edge where
  | start
  | stop
  deriving DecidableEq, Repr

/-- The name of an end. -/
def Edge.name : Edge → String
  | .start => "start"
  | .stop => "end"

/-- A cut inside a character, which begins at the given byte. -/
structure Straddle where
  edge : Edge
  cut : Nat
  first : Nat
  char : Char
  deriving DecidableEq, Repr

/-- The wording of a cut inside a character. -/
def Straddle.message (s : Straddle) : String :=
  s!"{s.edge.name} byte index {s.cut} is not a char boundary; it is inside " ++
    s!"'{String.ofList (quotedChar s.char)}' " ++
    s!"(bytes {s.first}..{s.first + s.char.utf8Size} of string)"

/-- The character that a cut falls inside of, with its first byte. -/
def charAround? (text : List Char) (cut : Nat) : Option (Nat × Char) :=
  (positions 0 text).find? fun p => p.1 < cut && cut < p.1 + p.2.utf8Size

/-- A cut before the first byte falls inside no character. -/
@[simp] theorem charAround?_zero (text : List Char) : charAround? text 0 = none := by
  simp [charAround?]

/-- The characters between two cuts. The cut at the start is looked at first. -/
def slice (text : List Char) (start stop : Nat) : Except Straddle (List Char) :=
  match charAround? text start, charAround? text stop with
  | some (first, c), _ => .error ⟨.start, start, first, c⟩
  | none, some (first, c) => .error ⟨.stop, stop, first, c⟩
  | none, none =>
    .ok (((positions 0 text).filter fun p => start ≤ p.1 && p.1 < stop).map (·.2))

/-- The characters from a cut on. -/
def sliceFrom (text : List Char) (start : Nat) : Except Straddle (List Char) :=
  match charAround? text start with
  | some (first, c) => .error ⟨.start, start, first, c⟩
  | none => .ok (((positions 0 text).filter fun p => start ≤ p.1).map (·.2))

/-- From the first byte on there is the whole text. -/
@[simp] theorem sliceFrom_zero (text : List Char) : sliceFrom text 0 = .ok text := by
  simp [sliceFrom, List.filter_eq_self.mpr]

end OwnedHandles.Text
