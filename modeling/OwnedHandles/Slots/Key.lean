import OwnedHandles.HandleKind

/-!
# Keys and their life

A key names a slot of a table and the generation of the slot's occupant. Keys are plain numbers, and
any pair of numbers may be presented as one.

- `Lifecycle`: what a table knows of a key.
- `KeyError`: why a key is refused, with the wording of the refusal.
-/

namespace OwnedHandles

/-- A slot, and the generation of the occupant that the key was issued for. -/
structure Key where
  index : Nat
  generation : UInt32
  deriving DecidableEq, Repr

/-- The key as text, under the name of its kind. -/
def Key.text (kind : String) (k : Key) : String :=
  s!"{kind}({k.index}#{k.generation.toNat})"

/-- The life of a key: never issued, issued and live, or issued and released. -/
inductive Lifecycle where
  | uninitialized
  | valid
  | released
  deriving DecidableEq, Repr

namespace Lifecycle

/-- All states, in the order of their codes. -/
def all : List Lifecycle := [.uninitialized, .valid, .released]

/-- The name of a state. -/
def name : Lifecycle → String
  | .uninitialized => "Uninitialized"
  | .valid => "Valid"
  | .released => "Released"

/-- The number that stands for a state in C. -/
def code : Lifecycle → Nat
  | .uninitialized => 0
  | .valid => 1
  | .released => 2

/-- Tells whether the key may be used. -/
def isValid (s : Lifecycle) : Bool :=
  s == .valid

/-- Tells whether the state is never left again. -/
def isTerminal (s : Lifecycle) : Bool :=
  s == .released

end Lifecycle

/-- Why a key is refused: its resource has been released, or there never was one. -/
inductive KeyError where
  | released (kind : String) (key : Key)
  | unknown (kind : String) (key : Key)
  deriving DecidableEq, Repr

namespace KeyError

/-- The state of the refused key. -/
def state : KeyError → Lifecycle
  | .released _ _ => .released
  | .unknown _ _ => .uninitialized

/-- The kind of resource that was asked for. -/
def kind : KeyError → String
  | .released kind _ => kind
  | .unknown kind _ => kind

/-- The refused key. -/
def key : KeyError → Key
  | .released _ key => key
  | .unknown _ key => key

/-- The name of the reason. -/
def name : KeyError → String
  | .released _ _ => "Released"
  | .unknown _ _ => "Unknown"

/-- The wording of a refusal. -/
def message : KeyError → String
  | .released kind key =>
    s!"{kind} handle ({key.index}#{key.generation.toNat}) used after release"
  | .unknown kind key =>
    s!"{kind} handle ({key.index}#{key.generation.toNat}) was never issued by this registry"

end KeyError

end OwnedHandles
