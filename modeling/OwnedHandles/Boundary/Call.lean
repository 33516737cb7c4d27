import OwnedHandles.Boundary.Cell
import OwnedHandles.Clock.Rendering
import OwnedHandles.Trace.Filter

/-!
# Calls across the boundary

- `Call`: the calls a C program can make, with their arguments. Handles are addresses, texts are
  memory up to a terminator, and both may be null.
- `Surroundings`: what a call takes from the world around it.
- `Call.action`: what a call comes to. There are few shapes: an answer that needs no handle, a new
  handle, the use of a payload of one kind, the release of a handle, the choice of an event filter.

What an action does to memory and ledger is told in one place for all calls, by the machine.
-/

namespace OwnedHandles

/-- A text argument: the memory behind it, or a null pointer. -/
abbrev TextArg := Option (List UInt8)

/-- The calls of the C interface. -/
inductive Call where
  | add (a b : Int32)
  | counterNew (initial : IntType.int64.Value)
  | counterCount (counter : Address) (delta : IntType.int64.Value)
  | counterGetCount (counter : Address)
  | counterDrop (counter : Address)
  | textNew (text : TextArg)
  | textBytes (text : Address)
  | textLength (text : Address)
  | textDrop (text : Address)
  | personNew (givenName familyName : TextArg)
  | personFullName (person : Address)
  | personGivenName (person : Address)
  | personFamilyName (person : Address)
  | personDrop (person : Address)
  | now
  | elapsed (instant : Address)
  | instantDrop (instant : Address)
  | printDuration (duration : Address)
  | durationNanos (duration : Address)
  | durationSeconds (duration : Address)
  | durationRender (duration : Address)
  | durationRenderWith (duration : Address) (unit : UnitChoice) (places : Nat)
  | durationDrop (duration : Address)
  | logInit (filter : TextArg)
  deriving DecidableEq, Repr

/-- The name of a call in C. -/
def Call.name : Call → String
  | .add .. => "add"
  | .counterNew .. => "Counter_new"
  | .counterCount .. => "Counter_count"
  | .counterGetCount .. => "Counter_get_count"
  | .counterDrop .. => "Counter_drop"
  | .textNew .. => "RString_new"
  | .textBytes .. => "RString_as_ptr"
  | .textLength .. => "RString_len"
  | .textDrop .. => "RString_drop"
  | .personNew .. => "Person_new"
  | .personFullName .. => "Person_full_name"
  | .personGivenName .. => "Person_given_name"
  | .personFamilyName .. => "Person_family_name"
  | .personDrop .. => "Person_drop"
  | .now => "now"
  | .elapsed .. => "elapsed"
  | .instantDrop .. => "Instant_drop"
  | .printDuration .. => "print_duration"
  | .durationNanos .. => "Duration_as_nanos"
  | .durationSeconds .. => "Duration_as_secs_f64"
  | .durationRender .. => "Duration_render"
  | .durationRenderWith .. => "Duration_render_with"
  | .durationDrop .. => "Duration_drop"
  | .logInit .. => "tether_log_init"

/-- What a call takes from the world: the address that the allocator has ready, the clocks, why
standard output cannot be written if so, and the variable that sets the event filter. -/
structure Surroundings where
  freshAddress : Address
  clock : Instant
  outputFault : Option String
  filterVariable : Option (List Char)

/-- What a call gives back. Texts are the bytes that are read through the pointer. What a call
prints is no part of it. -/
inductive Reply where
  | nothing
  | integer (n : Int)
  | float (x : Binary64)
  | bytes (b : List UInt8)
  | flag (b : Bool)
  | handle (kind : Kind) (address : Address)
  deriving DecidableEq

/-- A value that could not be derived from a payload, though it always can. -/
inductive DeriveDefect where
  | fullName (fault : JoinFault)
  | renderedText (e : TextError)
  deriving DecidableEq, Repr

/-- The wording of a failed derivation. -/
def DeriveDefect.message : DeriveDefect → String
  | .fullName fault => fault.message
  | .renderedText e => s!"rendered durations should not contain NUL bytes: {e.message}"

/-- What the use of a payload comes to: a reply, a line on standard output, a changed payload, or a
new handle derived from it. -/
inductive Effect (kind : Kind) where
  | answer (reply : Reply)
  | print (line : String) (fault : Option String)
  | update (payload : kind.Payload)
  | derive (cell : Cell) (events : List Event)
  | fail (d : DeriveDefect)

/-- What a call comes to. A filter may be at fault so badly that it cannot be passed over. -/
inductive Action where
  | answer (reply : Reply)
  | create (cell : Cell)
  | refuse (argument : String)
  | use (kind : Kind) (handle : Address) (effect : kind.Payload → Effect kind)
  | drop (kind : Kind) (handle : Address)
  | install (filter : Except Text.Straddle Filter)

namespace Call

/-- The bytes of a text as they are read through its pointer. -/
def readBack (t : CText) : Reply :=
  .bytes (readTerminated t.terminated)

/-- A rendered duration as a new text. -/
def rendered (text : String) : Effect .duration :=
  match CText.ofString text with
  | .ok t => .derive ⟨.text, t⟩ []
  | .error e => .fail (.renderedText e)

/-- The full name of a person as a new text. -/
def fullName (p : Person) : Effect .person :=
  match p.fullName with
  | .ok t => .derive ⟨.text, t⟩ [.fullNameDerived t.length]
  | .error fault => .fail (.fullName fault)

/-- The time since an instant as a new duration. -/
def elapsedSince (clock start : Instant) : Effect .instant :=
  let d := start.elapsed clock
  .derive ⟨.duration, d⟩ [.durationDerived d.display]

/-- A person from two texts; the given name is looked at first. -/
def newPerson : TextArg → TextArg → Action
  | none, _ => .refuse "given_name"
  | some _, none => .refuse "family_name"
  | some given, some family => .create ⟨.person, ⟨CText.ofMemory given, CText.ofMemory family⟩⟩

/-- A text from memory. -/
def newText : TextArg → Action
  | none => .refuse "text"
  | some memory => .create ⟨.text, CText.ofMemory memory⟩

/-- The filter text of a caller, if it is one. -/
def filterText (filter : TextArg) : Option (List Char) :=
  filter.bind fun memory => (Utf8.decode (readTerminated memory)).toOption

/-- What a call comes to. -/
def action (world : Surroundings) : Call → Action
  | .add a b => .answer (.integer (a + b).toInt)
  | .counterNew initial => .create ⟨.counter, ⟨initial⟩⟩
  | .counterCount h delta => .use .counter h fun c => .update (c.add delta)
  | .counterGetCount h => .use .counter h fun c => .answer (.integer c.count.val)
  | .counterDrop h => .drop .counter h
  | .textNew text => newText text
  | .textBytes h => .use .text h fun t => .answer (readBack t)
  | .textLength h => .use .text h fun t => .answer (.integer t.length)
  | .textDrop h => .drop .text h
  | .personNew given family => newPerson given family
  | .personFullName h => .use .person h fullName
  | .personGivenName h => .use .person h fun p => .answer (readBack p.givenName)
  | .personFamilyName h => .use .person h fun p => .answer (readBack p.familyName)
  | .personDrop h => .drop .person h
  | .now => .create ⟨.instant, world.clock⟩
  | .elapsed h => .use .instant h (elapsedSince world.clock)
  | .instantDrop h => .drop .instant h
  | .printDuration h => .use .duration h fun d => .print (d.display ++ "\n") world.outputFault
  | .durationNanos h => .use .duration h fun d => .answer (.integer d.nanosSaturating)
  | .durationSeconds h => .use .duration h fun d => .answer (.float d.secondsFloat)
  | .durationRender h => .use .duration h fun d => rendered d.display
  | .durationRenderWith h unit places =>
    .use .duration h fun d => rendered (d.render (RenderStyle.ofPlaces unit places))
  | .durationDrop h => .drop .duration h
  | .logInit filter => .install (Filter.choose world.filterVariable (filterText filter))

end Call

end OwnedHandles
