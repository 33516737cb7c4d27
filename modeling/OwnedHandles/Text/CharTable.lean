/-!
# Tables of characters

A class of characters as a table: runs of code points in ascending order, both ends included.

- `CharTable.contains`: tells whether a character is in a table.
-/

namespace OwnedHandles.Text

/-- Runs of code points, each by its first and its last one. -/
abbrev CharTable := List (Nat × Nat)

/-- Tells whether a character is in a table. -/
def CharTable.contains (table : CharTable) (c : Char) : Bool :=
  table.any fun run => run.1 ≤ c.toNat && c.toNat ≤ run.2

/-- A character between the ends of a run is in the table. -/
theorem CharTable.contains_of_mem {table : CharTable} {first last : Nat} {c : Char}
    (h : (first, last) ∈ table) (hfirst : first ≤ c.toNat) (hlast : c.toNat ≤ last) :
    table.contains c = true :=
  List.any_eq_true.mpr ⟨(first, last), h, by simp [hfirst, hlast]⟩

end OwnedHandles.Text
