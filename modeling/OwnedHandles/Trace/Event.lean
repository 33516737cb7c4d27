/-!
# Events

What the library reports about its own work: handles that come and go, slots that are used up, and
values that are derived. An event has a level, a target (the part of the library that reports it), a
message and named fields.

- `Event`: the events, one constructor each.
- `Event.line`: an event as a line of text, in the style of its reader.
-/

namespace OwnedHandles

/-- How grave an event is. -/
inductive Level where
  | error
  | warn
  | info
  | debug
  | trace
  deriving DecidableEq, Repr

namespace Level

/-- The name of a level. -/
def name : Level → String
  | .error => "ERROR"
  | .warn => "WARN"
  | .info => "INFO"
  | .debug => "DEBUG"
  | .trace => "TRACE"

/-- Verbosity: the graver a level, the lower its rank. -/
def rank : Level → Nat
  | .error => 1
  | .warn => 2
  | .info => 3
  | .debug => 4
  | .trace => 5

end Level

/-- Something the library reports. -/
inductive Event where
  /-- A payload has moved to an address of its own. -/
  | created (kind : String) (address : Nat)
  /-- A payload has been dropped and its address given back. -/
  | released (kind : String) (address : Nat)
  /-- A payload has been taken out and its address given back. -/
  | consumed (kind : String) (address : Nat)
  /-- A slot has issued all its generations. -/
  | slotRetired (kind : String) (index : Nat)
  /-- A full name has been derived from a person. -/
  | fullNameDerived (length : Nat)
  /-- A duration has been derived from an instant. -/
  | durationDerived (text : String)
  /-- A duration could not be written. -/
  | printFailed (reason : String)
  /-- An address that counted as live has been handed out anew: its handle of the given kind was
  freed behind the ledger's back. -/
  | displaced (kind : String) (address : Nat)
  deriving DecidableEq, Repr

/-- The value of a field. -/
inductive FieldValue where
  | text (s : String)
  | shown (s : String)
  | number (n : Nat)
  | address (a : Nat)
  deriving DecidableEq, Repr

namespace Event

/-- How grave an event is. -/
def level : Event → Level
  | .created .. | .released .. | .consumed .. => .trace
  | .slotRetired .. | .fullNameDerived .. | .durationDerived .. => .debug
  | .printFailed .. | .displaced .. => .warn

/-- The part of the library that reports an event. -/
def target : Event → String
  | .created .. | .released .. | .consumed .. => "tether_core::handle"
  | .slotRetired .. => "tether_core::registry"
  | .fullNameDerived .. => "tether::person"
  | .durationDerived .. | .printFailed .. => "tether::time"
  | .displaced .. => "tether::ledger::checked"

/-- The message of an event. -/
def message : Event → String
  | .created .. => "created handle"
  | .released .. => "released handle"
  | .consumed .. => "consumed handle"
  | .slotRetired .. => "retired exhausted registry slot"
  | .fullNameDerived .. => "derived full name from person"
  | .durationDerived .. => "derived duration from instant"
  | .printFailed .. => "failed to print duration"
  | .displaced .. => "handle was freed outside of its release function"

/-- The named fields of an event, in order. -/
def fields : Event → List (String × FieldValue)
  | .created kind address | .released kind address | .consumed kind address
  | .displaced kind address => [("kind", .text kind), ("addr", .address address)]
  | .slotRetired kind index => [("kind", .text kind), ("index", .number index)]
  | .fullNameDerived length => [("len", .number length)]
  | .durationDerived text => [("duration", .shown text)]
  | .printFailed reason => [("err", .shown reason)]

/-- Tells whether an event has a field of the given name. The message counts as one. -/
def hasField (e : Event) (name : String) : Bool :=
  name = "message" || e.fields.any (·.1 = name)

end Event

/-- How events are written: whether texts stand in quotes, and how addresses are shown, if they
are. -/
structure LineStyle where
  quoteText : Bool
  showAddress : Option (Nat → String)

/-- The value of a field in a style; nothing for an address that is not shown. -/
def FieldValue.render (style : LineStyle) : FieldValue → Option String
  | .text s => some (if style.quoteText then "\"" ++ s ++ "\"" else s)
  | .shown s => some s
  | .number n => some (toString n)
  | .address a => style.showAddress.map (· a)

/-- An event as one line: level, target, message and fields. -/
def Event.line (style : LineStyle) (e : Event) : String :=
  let field (named : String × FieldValue) : Option String :=
    (named.2.render style).map (s!" {named.1}=" ++ ·)
  s!"{e.level.name} {e.target}: {e.message}" ++ String.join (e.fields.filterMap field)

end OwnedHandles
