/-!
# Standard output

Lines on their way to standard output. A line that cannot be written is held back and goes out in
front of the next line that can. Only one is held back: while it waits, further lines that cannot
be written are lost.

- `LineOutput.write`: one line, and what reaches standard output.
-/

namespace OwnedHandles

/-- The line that is held back, if there is one. -/
structure LineOutput where
  heldBack : Option String
  deriving DecidableEq, Repr

namespace LineOutput

/-- Nothing is held back. -/
def empty : LineOutput := ⟨none⟩

/-- Writes a line, where that is possible: gives what reaches standard output. -/
def write (o : LineOutput) (isWritable : Bool) (line : String) : LineOutput × String :=
  if isWritable then (empty, o.heldBack.getD "" ++ line)
  else (⟨some (o.heldBack.getD line)⟩, "")

/-- Nothing is held back after a line that could be written. -/
@[simp] theorem write_true_fst (o : LineOutput) (line : String) :
    (o.write true line).1 = empty := rfl

/-- A line reaches standard output at once if nothing is held back. -/
@[simp] theorem empty_write_true (line : String) : (empty.write true line).2 = line := by
  simp [empty, write]

/-- A line that cannot be written is in front of the next one that can. -/
theorem write_false_write_true (line next : String) :
    ((empty.write false line).1.write true next).2 = line ++ next := rfl

end LineOutput

end OwnedHandles
