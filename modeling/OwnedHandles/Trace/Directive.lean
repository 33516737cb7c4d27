import OwnedHandles.Text.Slice
import OwnedHandles.Trace.Event
import OwnedHandles.Trace.Pattern

/-!
# Directives

A directive sets the most verbose level that is written, for the events that it applies to: those
whose target begins with its text, and that have the field it names. It may also speak about spans.

Its text has up to three parts: a target; in square brackets the name of a span and, in curly ones,
a field, perhaps with a pattern for its value; after an equals sign a level. A level may also stand
alone.

- `Threshold.parse`: the level that a word stands for.
- `Directive.parse`: the directive that a text spells, or what is wrong with the text.
- `Directive.appliesTo`: tells whether a directive speaks about an event.
- `Directive.specificity`: of the directives that apply to an event, the most specific one decides.
-/

namespace OwnedHandles

/-- The most verbose level that is written; nothing is written at all without one. -/
abbrev Threshold := Option Level

namespace Threshold

/-- Levels by number, from nothing at all to everything. -/
def ofNumber : Nat → Option Threshold
  | 0 => some none
  | 1 => some (some .error)
  | 2 => some (some .warn)
  | 3 => some (some .info)
  | 4 => some (some .debug)
  | 5 => some (some .trace)
  | _ => none

/-- The number that a numeral spells; a plus sign may stand before it. -/
def numeral? (word : List Char) : Option Nat :=
  let numerals := match word with
    | '+' :: rest => rest
    | _ => word
  if Pattern.isNumeral numerals then some (Nat.ofDigitChars 10 numerals 0) else none

/-- Levels by name, in any case. -/
def ofName (word : List Char) : Option Threshold :=
  match String.ofList (word.map Char.toLower) with
  | "off" => some none
  | "error" => some (some .error)
  | "warn" => some (some .warn)
  | "info" => some (some .info)
  | "debug" => some (some .debug)
  | "trace" => some (some .trace)
  | _ => none

/-- The level that a word stands for, by number or by name. -/
def parse (word : List Char) : Option Threshold :=
  match numeral? word with
  | some n => ofNumber n
  | none => ofName word

/-- Tells whether events of a level are written. -/
def admits (threshold : Threshold) (level : Level) : Bool :=
  match threshold with
  | some limit => level.rank ≤ limit.rank
  | none => false

end Threshold

/-- What a directive says about a field: its name, and perhaps a pattern for its value. -/
structure FieldTest where
  name : List Char
  pattern : Option (List Char)
  deriving DecidableEq, Repr

/-- A threshold for the events of a target, of all targets without one. The events may be further
restricted to those in a span and to those with a field. -/
structure Directive where
  target : Option (List Char)
  span : Option (List Char)
  field : Option FieldTest
  threshold : Threshold
  deriving DecidableEq, Repr

/-- What is wrong with the text of a directive: it is malformed, or a part of it would have to be
cut inside a character. -/
inductive DirectiveFault where
  | malformed
  | straddle (s : Text.Straddle)
  deriving DecidableEq, Repr

/-- A field with what follows an equals sign, up to another one, as the pattern. -/
def FieldTest.parse (text : List Char) : Except DirectiveFault FieldTest :=
  let name := text.takeWhile (· ≠ '=')
  match text.dropWhile (· ≠ '=') with
  | [] => .ok ⟨name, none⟩
  | _ :: rest =>
    let pattern := rest.takeWhile (· ≠ '=')
    if Pattern.isNumber pattern || Pattern.isWellFormed pattern then .ok ⟨name, some pattern⟩
    else .error .malformed

namespace Directive

/-- The directive that lets all events through. -/
def everything : Directive := ⟨none, none, none, some .trace⟩

/-! ## Reading -/

/-- The part of a directive that is being read, with the byte it begins at. -/
inductive Part where
  | beginning
  | head
  | span (start : Nat)
  | field (start : Nat)
  | fieldEnd
  | bracketEnd
  | level (start : Nat)
  deriving DecidableEq, Repr

/-- Characters that a target or a level may begin with. -/
def opens (c : Char) : Bool :=
  c = '-' || c = ':' || c = '_' || Text.isAlphanumeric c

/-- The characters between two bytes of a directive. -/
def cut (item : List Char) (start stop : Nat) : Except DirectiveFault (List Char) :=
  (Text.slice item start stop).mapError .straddle

/-- One character at the given byte. A mark that ends a part cuts it out of the item. -/
def read (item : List Char) (state : Part × Directive) (place : Nat × Char) :
    Except DirectiveFault (Part × Directive) := do
  let (part, d) := state
  let (i, c) := place
  match part, c with
  | .beginning, '[' => return (.span (i + 1), d)
  | .beginning, c => if opens c then return (.head, d) else throw .malformed
  | .head, '=' => return (.level (i + 1), { d with target := some (← cut item 0 i) })
  | .head, '[' => return (.span (i + 1), { d with target := some (← cut item 0 i) })
  | .span start, ']' => return (.bracketEnd, { d with span := some (← cut item start i) })
  | .span start, '\x7b' =>
    let name ← cut item start i
    return (.field (i + 1), if name = [] then d else { d with span := some name })
  | .field start, '\x7d' =>
    let text ← cut item start i
    if text = [] then throw .malformed
    return (.fieldEnd, { d with field := some (← FieldTest.parse text) })
  | .fieldEnd, ']' => return (.bracketEnd, d)
  | .bracketEnd, '=' => return (.level (i + 1), d)
  | .head, _ | .span _, _ | .field _, _ | .level _, _ => return (part, d)
  | .fieldEnd, _ | .bracketEnd, _ => throw .malformed

/-- The directive at the end of its text. A head that is no level is a target for all its events; so
is a part without a level, or with an empty one. -/
def finish (item : List Char) (state : Part × Directive) : Except DirectiveFault Directive := do
  let (part, d) := state
  match part with
  | .head =>
    match Threshold.parse item with
    | some threshold => return { d with threshold }
    | none => return { d with target := some item }
  | .level start =>
    match ← (Text.sliceFrom item start).mapError .straddle with
    | [] => return d
    | word =>
      match Threshold.parse word with
      | some threshold => return { d with threshold }
      | none => throw .malformed
  | .bracketEnd => return d
  | .beginning | .span _ | .field _ | .fieldEnd => throw .malformed

/-- The directive that a text spells. Places are counted in the text without the blanks around it,
but parts are cut out of the text with them. -/
def parse (item : List Char) : Except DirectiveFault Directive := do
  finish item (← (Text.positions 0 (Text.trim item)).foldlM (read item) (.beginning, everything))

/-! ## Applying -/

/-- Tells whether a directive speaks about spans or about what happens in one: those that name a
span, and those that want to see a value. -/
def isAboutSpans (d : Directive) : Bool :=
  d.span.isSome || d.field.any (·.pattern.isSome)

/-- Tells whether a directive speaks about an event. No event happens in a span. -/
def appliesTo (d : Directive) (e : Event) : Bool :=
  !d.isAboutSpans && d.target.all (·.isPrefixOf e.target.toList)
    && d.field.all (fun field => e.hasField (String.ofList field.name))

/-- The order of directives: one with a target is more specific than one without, and one with a
longer target than one with a shorter; then one with a field is more specific than one without. The
names of fields decide between directives that are alike in all this. -/
def specificity (d e : Directive) : Ordering :=
  let length (d : Directive) : Nat := d.target.elim 0 (·.length + 1)
  let fields (d : Directive) : Nat := if d.field.isSome then 1 else 0
  let name (d : Directive) : List Char := d.field.elim [] FieldTest.name
  ((compare (length d) (length e)).then (compare (fields d) (fields e))).then
    (compare (name d) (name e))

end Directive

end OwnedHandles
