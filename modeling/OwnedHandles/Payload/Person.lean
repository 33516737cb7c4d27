import OwnedHandles.Text.CText

/-!
# Persons

A person has a given and a family name, each in any encoding.

- `Person.ofBytes`: both names from bytes; the error of the given name comes first.
- `Person.fullName`: the names with a space between them, as a text of its own.
- `Person.display`: the names for a reader, each made readable on its own.
-/

namespace OwnedHandles

/-- A person by two names. -/
structure Person where
  givenName : CText
  familyName : CText
  deriving DecidableEq, Repr

namespace Person

instance : HandleKind Person := ⟨"Person"⟩

/-- Copies both names; the given name is checked first. -/
def ofBytes (given family : List UInt8) : Except TextError Person :=
  match CText.ofBytes given with
  | .error e => .error e
  | .ok givenName =>
    match CText.ofBytes family with
    | .error e => .error e
    | .ok familyName => .ok ⟨givenName, familyName⟩

/-- The space between the names. -/
def nameSeparator : UInt8 := 0x20

/-- The given name, a space and the family name. -/
def fullName (p : Person) : Except JoinFault CText :=
  CText.join [p.givenName, p.familyName] nameSeparator

/-- The names for a reader. -/
def display (p : Person) : String :=
  p.givenName.display ++ " " ++ p.familyName.display

/-- The person as it stands in a dump of a data structure. -/
def dump (p : Person) : String :=
  "Person \x7b given_name: " ++ p.givenName.dump ++ ", family_name: " ++ p.familyName.dump
    ++ " \x7d"

end Person

end OwnedHandles
