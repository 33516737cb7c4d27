import Mathlib.Data.List.Nodup
import OwnedHandles.Memory.Heap

/-!
# Maps from addresses

What is found in a map from addresses after it has been written, and the list of all that is in it.

- `getElem?_insertAt`, `getElem?_eraseAt`: one entry is put in or taken out.
- `toList_perm`: an entry of the map comes in front of all others.
  `toList_insertAt_perm`, `toList_insertAt_perm_of_none`: so does an entry that is put in.
-/

namespace OwnedHandles

variable {α : Type}

/-- An entry that is put into a map is found at its address; all others stay. -/
theorem getElem?_insertAt (m : Std.ExtTreeMap Address α) (address : Address) (v : α) (a : Address) :
    (m.insert address v)[a]? = if a = address then some v else m[a]? := by
  rw [Std.ExtTreeMap.getElem?_insert]
  by_cases ha : a = address
  · simp [ha]
  · simp [ha, Ne.symm ha]

/-- An address that is taken out of a map leads nowhere; all others stay. -/
theorem getElem?_eraseAt (m : Std.ExtTreeMap Address α) (address a : Address) :
    (m.erase address)[a]? = if a = address then none else m[a]? := by
  rw [Std.ExtTreeMap.getElem?_erase]
  by_cases ha : a = address
  · simp [ha]
  · simp [ha, Ne.symm ha]

/-- A map lists no address twice. -/
theorem nodup_toList (m : Std.ExtTreeMap Address α) : m.toList.Nodup := by
  apply List.Nodup.of_map Prod.fst
  rw [Std.ExtTreeMap.map_fst_toList_eq_keys]
  exact Std.ExtTreeMap.nodup_keys

/-- An entry of a map, and all others. -/
theorem toList_perm {m : Std.ExtTreeMap Address α} {address : Address} {v : α}
    (h : m[address]? = some v) : m.toList.Perm ((address, v) :: (m.erase address).toList) := by
  have hnew : (address, v) ∉ (m.erase address).toList := by
    rw [Std.ExtTreeMap.mem_toList_iff_getElem?_eq_some, getElem?_eraseAt, if_pos rfl]
    exact Option.some_ne_none v ∘ Eq.symm
  refine (List.perm_ext_iff_of_nodup (nodup_toList m)
    (List.nodup_cons.mpr ⟨hnew, nodup_toList _⟩)).mpr ?_
  rintro ⟨a, w⟩
  rw [List.mem_cons, Std.ExtTreeMap.mem_toList_iff_getElem?_eq_some,
    Std.ExtTreeMap.mem_toList_iff_getElem?_eq_some, getElem?_eraseAt]
  by_cases ha : a = address
  · subst ha
    simp [h, eq_comm]
  · simp [ha]

/-- Taking an entry out undoes whatever was put in at its address. -/
theorem erase_insertAt (m : Std.ExtTreeMap Address α) (address : Address) (v : α) :
    (m.insert address v).erase address = m.erase address := by
  apply Std.ExtTreeMap.ext_getElem?
  intro a
  rw [getElem?_eraseAt, getElem?_eraseAt, getElem?_insertAt]
  by_cases ha : a = address
  · rw [if_pos ha, if_pos ha]
  · rw [if_neg ha, if_neg ha, if_neg ha]

/-- There is nothing to take out at an address that leads nowhere. -/
theorem eraseAt_of_none {m : Std.ExtTreeMap Address α} {address : Address}
    (h : m[address]? = none) : m.erase address = m := by
  apply Std.ExtTreeMap.ext_getElem?
  intro a
  rw [getElem?_eraseAt]
  by_cases ha : a = address
  · rw [if_pos ha, ha, h]
  · rw [if_neg ha]

/-- An entry that is put in takes the place of the one at its address. -/
theorem toList_insertAt_perm (m : Std.ExtTreeMap Address α) (address : Address) (v : α) :
    (m.insert address v).toList.Perm ((address, v) :: (m.erase address).toList) := by
  have hself : (m.insert address v)[address]? = some v := by
    rw [getElem?_insertAt, if_pos rfl]
  have hperm := toList_perm hself
  rwa [erase_insertAt] at hperm

/-- An entry that is put in at a new address is one more. -/
theorem toList_insertAt_perm_of_none {m : Std.ExtTreeMap Address α} {address : Address}
    (h : m[address]? = none) (v : α) :
    (m.insert address v).toList.Perm ((address, v) :: m.toList) := by
  have hperm := toList_insertAt_perm m address v
  rwa [eraseAt_of_none h] at hperm

end OwnedHandles
