import OwnedHandles.Proofs.Clock.Promotion
import OwnedHandles.Text.Slice

/-!
# Rendering pass by pass

A duration is rendered in passes: each takes the unit that is up, splits the duration in it, and
either moves on to a larger unit or ends with the text. Much of this is partial: the open choice has
neither a length nor a suffix, a text may be cut where it has no cut, and a carry may leave the 128
bits of the whole part.

- `RenderFault`: what could go wrong. `Duration.attempt`: one pass, with all that could.
- `Duration.RendersFrom`: the passes from a unit on end, after so many, with a text.
- `Magnitude.fractionText_eq_cons`, `Duration.whole_add_one_lt`: why nothing does go wrong.
- `Duration.rendersFrom_resolved`: the passes from the first unit on end with the rendered text.
-/

namespace OwnedHandles

open Arith

/-- A text that is cut behind its first character. -/
theorem Text.sliceFrom_utf8Size (c : Char) (rest : List Char) :
    sliceFrom (c :: rest) c.utf8Size = .ok rest := by
  have hbefore : ∀ p ∈ positions (0 + c.utf8Size) rest, c.utf8Size ≤ p.1 := fun p hp =>
    Nat.le_trans (Nat.le_of_eq (Nat.zero_add _).symm) (le_of_mem_positions hp)
  have haround : charAround? (c :: rest) c.utf8Size = none := by
    rw [charAround?, List.find?_eq_none]
    intro p hp
    rcases List.mem_cons.mp hp with rfl | hp
    · simp
    · simp [Nat.not_lt_of_le (hbefore p hp)]
  have hfirst : ¬c.utf8Size ≤ 0 := Nat.not_le_of_lt c.utf8Size_pos
  have hrest : (positions (0 + c.utf8Size) rest).filter (fun p => c.utf8Size ≤ p.1) =
      positions (0 + c.utf8Size) rest :=
    List.filter_eq_self.mpr fun p hp => decide_eq_true (hbefore p hp)
  rw [sliceFrom, haround, positions, List.filter_cons_of_neg (by simpa using hfirst)]
  simp only [hrest, map_snd_positions]

/-! ## One pass -/

/-- What could go wrong in a pass. -/
inductive RenderFault where
  /-- The open choice is asked for its length or its suffix. -/
  | openChoice (e : OpenChoice)
  /-- The unit has no length to divide by. -/
  | noLength
  /-- The whole part leaves its 128 bits. -/
  | overflow (whole : ℕ)
  /-- A text without characters is cut. -/
  | pastEnd
  /-- A text is cut inside a character. -/
  | straddle (s : Text.Straddle)
  deriving DecidableEq, Repr

/-- The bits of a whole part. -/
def wholeBits : ℕ := 128

namespace Magnitude

/-- Whole units and the text of the rest, as `carry` has them. -/
def tryCarry (whole : ℕ) : List Char → Except RenderFault Magnitude
  | [] => .error .pastEnd
  | c :: rest =>
    if c = '1' then
      if whole + 1 < twoPow wholeBits then .ok ⟨whole + 1, rest⟩
      else .error (.overflow (whole + 1))
    else
      match Text.sliceFrom (c :: rest) 1 with
      | .ok behind => .ok ⟨whole, behind⟩
      | .error s => .error (.straddle s)

/-- Whole part and fraction in a unit that may be open, as `split` has them. -/
def trySplit (nanos : ℕ) (choice : UnitChoice) (places : ℕ) : Except RenderFault Magnitude :=
  match choice.nanosPerUnit with
  | .error e => .error (.openChoice e)
  | .ok length =>
    if length = 0 then .error .noLength
    else
      let part := Binary64.ofNat (nanos % length)
      let one := Binary64.ofNat length
      tryCarry (nanos / length) ((part / one).toFixed places)

end Magnitude

namespace UnitChoice

/-- The next larger unit. There is none in the open choice. -/
def larger : UnitChoice → Option UnitChoice
  | .auto => none
  | .fixed unit => unit.larger.map .fixed

/-- The choice that is made for a duration; a fixed unit stays. -/
def resolved (choice : UnitChoice) (d : Duration) : UnitChoice :=
  match choice with
  | .auto => .fixed (TimeUnit.largestIn d)
  | .fixed unit => .fixed unit

/-- The choice that is made is never open. -/
theorem resolved_eq (choice : UnitChoice) (d : Duration) :
    choice.resolved d = .fixed (choice.resolve d) := by
  cases choice <;> rfl

end UnitChoice

/-- What a pass comes to: another unit is up, or the text is there. -/
inductive Pass where
  | again (unit : UnitChoice)
  | done (text : List Char)
  deriving DecidableEq, Repr

namespace Duration

/-- One pass. Where the style leaves the unit open, a whole part that reaches a thousand moves on to
the next larger unit, if there is one. -/
def attempt (d : Duration) (style : RenderStyle) (unit : UnitChoice) : Except RenderFault Pass :=
  match Magnitude.trySplit d.nanos unit style.places with
  | .error fault => .error fault
  | .ok magnitude =>
    let moves := style.unit = .auto ∧ promotionBound ≤ magnitude.whole
    match if moves then unit.larger else none with
    | some next => .ok (.again next)
    | none =>
      match unit.suffix with
      | .error e => .error (.openChoice e)
      | .ok suffix => .ok (.done (magnitude.text ++ suffix.toList))

/-- The passes from a unit on end with a text, and none of them fails. -/
inductive RendersFrom (d : Duration) (style : RenderStyle) :
    UnitChoice → ℕ → List Char → Prop
  | done {unit : UnitChoice} {text : List Char} (pass : d.attempt style unit = .ok (.done text)) :
      RendersFrom d style unit 1 text
  | again {unit next : UnitChoice} {passes : ℕ} {text : List Char}
      (pass : d.attempt style unit = .ok (.again next))
      (rest : RendersFrom d style next passes text) :
      RendersFrom d style unit (passes + 1) text

/-- Passes that end do so in one way only: there are no others, and none go on. -/
theorem RendersFrom.unique {d : Duration} {style : RenderStyle} {unit : UnitChoice}
    {passes passes' : ℕ} {text text' : List Char} (h : d.RendersFrom style unit passes text)
    (h' : d.RendersFrom style unit passes' text') : passes' = passes ∧ text' = text := by
  induction h generalizing passes' with
  | done pass =>
    cases h' with
    | done pass' =>
      rw [pass] at pass'
      cases pass'
      exact ⟨rfl, rfl⟩
    | again pass' rest' =>
      rw [pass] at pass'
      cases pass'
  | again pass rest ih =>
    cases h' with
    | done pass' =>
      rw [pass] at pass'
      cases pass'
    | again pass' rest' =>
      rw [pass] at pass'
      cases pass'
      obtain ⟨rfl, rfl⟩ := ih rest'
      exact ⟨rfl, rfl⟩

end Duration

/-! ## Why no pass fails -/

/-- **The text of a rest begins with a nought or a one**, and then has a point and digits, or nothing
if there are no places. The rest is less than one unit, and the float of the quotient no more. -/
theorem Magnitude.fractionText_eq_cons (nanos : ℕ) (unit : TimeUnit) {places : ℕ}
    (hplaces : places ≤ maxPlaces) :
    ∃ c digits, (c = '0' ∨ c = '1') ∧
      fractionText nanos unit places = c :: Decimal.behindPoint digits ∧
      digits.length = places ∧ ∀ x ∈ digits, x.isDigit = true := by
  have hle := rest_le nanos unit hplaces
  rw [fractionText, Binary64.toFixed]
  generalize (Binary64.ofNat (nanos % unit.nanosPerUnit) /
    Binary64.ofNat unit.nanosPerUnit).scaled places = rest at hle
  have hwhole : rest / tenPow places ≤ 1 :=
    Nat.div_le_of_le_mul (by rwa [Nat.mul_one])
  refine ⟨Nat.digitChar (rest / tenPow places), Decimal.padded places (rest % tenPow places), ?_,
    ?_, Decimal.length_padded _ _, fun x => Decimal.isDigit_of_mem_padded⟩
  · rcases Nat.le_one_iff_eq_zero_or_eq_one.mp hwhole with h | h
    · exact .inl (by rw [h]; rfl)
    · exact .inr (by rw [h]; rfl)
  · rw [Decimal.fixed, Decimal.digits_of_lt (Nat.lt_of_le_of_lt hwhole (by decide)),
      Decimal.fraction_eq]
    rfl

/-- **The whole part never leaves its bits**, in no unit, with a carry or without. -/
theorem Duration.whole_add_one_lt (d : Duration) (unit : TimeUnit) :
    d.nanos / unit.nanosPerUnit + 1 < twoPow wholeBits := by
  have hdiv := Nat.div_le_self d.nanos unit.nanosPerUnit
  have hlt := d.nanos_lt
  have hbound : secondsBound * nanosPerSecond + 1 < twoPow wholeBits := by decide
  omega

/-- A text that begins with a nought or a one is carried as it is. -/
theorem Magnitude.tryCarry_eq {whole : ℕ} (hwhole : whole + 1 < twoPow wholeBits) {c : Char}
    (hc : c = '0' ∨ c = '1') (rest : List Char) :
    tryCarry whole (c :: rest) = .ok (carry whole (c :: rest)) := by
  rcases hc with rfl | rfl
  · have hslice : Text.sliceFrom ('0' :: rest) 1 = .ok rest := Text.sliceFrom_utf8Size '0' rest
    rw [tryCarry, if_neg (by decide), hslice]
    rfl
  · rw [tryCarry, if_pos rfl, if_pos hwhole]
    rfl

/-- **In a fixed unit, a duration is split without fault.** -/
theorem Magnitude.trySplit_fixed (d : Duration) (unit : TimeUnit) {places : ℕ}
    (hplaces : places ≤ maxPlaces) :
    trySplit d.nanos (.fixed unit) places = .ok (split d.nanos unit places) := by
  obtain ⟨c, digits, hc, htext, -, -⟩ := fractionText_eq_cons d.nanos unit hplaces
  have hlength : trySplit d.nanos (.fixed unit) places =
      tryCarry (d.nanos / unit.nanosPerUnit) (fractionText d.nanos unit places) :=
    if_neg (Nat.ne_of_gt unit.nanosPerUnit_pos)
  rw [hlength, split, htext]
  exact tryCarry_eq (d.whole_add_one_lt unit) hc _

namespace Duration

variable {d : Duration} {style : RenderStyle} {unit next : TimeUnit}

/-- A pass in a fixed unit that moves on. -/
theorem attempt_again (hauto : style.unit = .auto) (hlarger : unit.larger = some next)
    (hbound : promotionBound ≤ (Magnitude.split d.nanos unit style.places).whole) :
    d.attempt style (.fixed unit) = .ok (.again (.fixed next)) := by
  rw [attempt, Magnitude.trySplit_fixed d unit style.places_le]
  simp only [if_pos (And.intro hauto hbound), UnitChoice.larger, hlarger]
  rfl

/-- A pass in a fixed unit that ends with the text. -/
theorem attempt_done (hstay : unit.larger = none ∨ ¬(style.unit = .auto ∧
      promotionBound ≤ (Magnitude.split d.nanos unit style.places).whole)) :
    d.attempt style (.fixed unit) =
      .ok (.done ((Magnitude.split d.nanos unit style.places).text ++ unit.suffix.toList)) := by
  have hnone : (if style.unit = .auto ∧
      promotionBound ≤ (Magnitude.split d.nanos unit style.places).whole then
        (UnitChoice.fixed unit).larger else none) = none := by
    rcases hstay with hlarger | hstay
    · rw [UnitChoice.larger, hlarger]
      exact ite_self _
    · exact if_neg hstay
  rw [attempt, Magnitude.trySplit_fixed d unit style.places_le]
  simp only [hnone]
  rfl

/-- The passes from a fixed unit on end in the unit that is tried last. -/
theorem rendersFrom_passes (d : Duration) (style : RenderStyle) (unit : TimeUnit) :
    ∃ last, (style.unit.passes d style.places unit).getLast? = some last ∧
      d.RendersFrom style (.fixed unit) (style.unit.passes d style.places unit).length
        ((Magnitude.split d.nanos last style.places).text ++ last.suffix.toList) := by
  fun_induction UnitChoice.passes style.unit d style.places unit with
  | case1 unit next hlarger hbound ih =>
    obtain ⟨last, hlast, hrenders⟩ := ih
    refine ⟨last, ?_, .again (attempt_again hbound.1 hlarger hbound.2) hrenders⟩
    rw [List.getLast?_cons, hlast]
    rfl
  | case2 unit next hlarger hbound => exact ⟨unit, rfl, .done (attempt_done (.inr hbound))⟩
  | case3 unit hlarger => exact ⟨unit, rfl, .done (attempt_done (.inl hlarger))⟩

/-- In every style, at most two units are tried. -/
theorem length_passes_le (d : Duration) (style : RenderStyle) :
    (style.unit.passes d style.places (style.unit.resolve d)).length ≤ 2 := by
  cases hunit : style.unit with
  | auto => exact UnitChoice.length_passes_auto_le d style.places_le
  | fixed unit =>
    rw [UnitChoice.passes]
    split
    · rw [if_neg (by simp)]
      exact Nat.le_succ 1
    · exact Nat.le_succ 1

/-- **Rendering ends after at most two passes**, none of which fails, and it ends with the text. -/
theorem rendersFrom_resolved (d : Duration) (style : RenderStyle) :
    ∃ passes, passes ≤ 2 ∧
      d.RendersFrom style (style.unit.resolved d) passes (d.render style).toList := by
  obtain ⟨last, hlast, hrenders⟩ := rendersFrom_passes d style (style.unit.resolve d)
  rw [UnitChoice.getLast?_passes] at hlast
  obtain rfl := Option.some.inj hlast
  refine ⟨_, length_passes_le d style, ?_⟩
  rw [UnitChoice.resolved_eq, render, String.toList_ofList]
  exact hrenders

/-- A pass in the open choice would fail, and so would the cut of a text without characters. -/
example : zero.attempt .default .auto = .error (.openChoice ⟨"nanos_per_unit"⟩) ∧
    Magnitude.tryCarry 0 [] = .error .pastEnd ∧
    Magnitude.tryCarry 0 ['µ', 's'] = .error (.straddle ⟨.start, 1, 0, 'µ'⟩) :=
  ⟨rfl, rfl, rfl⟩

end Duration

end OwnedHandles
