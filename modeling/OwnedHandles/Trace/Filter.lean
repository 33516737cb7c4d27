import OwnedHandles.Trace.Directive

/-!
# Event filters

A filter says which events are written. It is a list of directives, written with commas between
them.

- `Filter.parse`: the filter that a text spells, unless a directive in it is at fault.
- `Filter.enables`: the most specific directive that applies to an event decides; without one, the
  event is not written.
- `Filter.choose`: the filter in effect, from the environment, from the caller, or the usual one.
-/

namespace OwnedHandles

/-- The directives in effect, in the order they were given. -/
abbrev Filter := List Directive

namespace Filter

/-- A filter with one level for all targets. -/
def forAll (level : Level) : Filter := [{ Directive.everything with threshold := some level }]

/-- What an empty filter stands for. -/
def emptyFilter : Filter := forAll .error

/-- The filter where nobody asks for another one. -/
def usual : Filter := forAll .warn

/-- The items between commas. -/
def items : List Char → List (List Char)
  | [] => [[]]
  | c :: rest =>
    if c = ',' then [] :: items rest
    else
      match items rest with
      | first :: others => (c :: first) :: others
      | [] => [[c]]

/-- The filter that a text spells. Empty items are skipped; the first item at fault spoils it. -/
def parse (text : List Char) : Except DirectiveFault Filter := do
  match ← ((items text).filter (· ≠ [])).mapM Directive.parse with
  | [] => return emptyFilter
  | directives => return directives

/-- The threshold for an event: that of the most specific directive that applies, the last one among
equals. -/
def threshold (f : Filter) (e : Event) : Threshold :=
  let better (best : Option Directive) (d : Directive) : Option Directive :=
    match best with
    | some b => if (b.specificity d).isLE then some d else some b
    | none => some d
  match (f.filter (·.appliesTo e)).foldl better none with
  | some d => d.threshold
  | none => none

/-- Tells whether an event is written. -/
def enables (f : Filter) (e : Event) : Bool :=
  (f.threshold e).admits e.level

/-- The filter that a text spells, if there is a text and it is well-formed. A cut inside a
character is not passed over. -/
def attempt (text : Option (List Char)) : Except Text.Straddle (Option Filter) :=
  match text.map parse with
  | some (.ok filter) => .ok (some filter)
  | some (.error (.straddle s)) => .error s
  | some (.error .malformed) | none => .ok none

/-- The filter in effect: the one from the environment if it is set and well-formed, else the
caller's if there is one and it is, else the usual one. -/
def choose (environment caller : Option (List Char)) : Except Text.Straddle Filter := do
  match ← attempt environment with
  | some filter => return filter
  | none => return (← attempt caller).getD usual

end Filter

end OwnedHandles
