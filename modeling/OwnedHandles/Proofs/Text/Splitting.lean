import OwnedHandles.Proofs.Text.NulFree

/-!
# Splitting and regrouping joined texts

- `CText.joinBytes_eq_intercalate`: parts are joined as lists are, by a separator between them.
- `CText.splitOn_joinBytes`: so they are found again between the separators.
- `CText.joinBytes_append`: joined parts may be joined in turn.
- `CText.join_splits_and_regroups`: what this means for texts.
-/

namespace OwnedHandles.CText

variable {separator : UInt8}

/-- Parts are joined by a separator between them, and nowhere else. -/
theorem joinBytes_eq_intercalate (separator : UInt8) (parts : List CText) :
    joinBytes separator parts = [separator].intercalate (parts.map bytes) := by
  induction parts with
  | nil => rfl
  | cons part rest ih =>
    rcases eq_or_ne rest [] with rfl | hne
    · exact (List.intercalate_singleton).symm
    · have hmap : rest.map bytes ≠ [] := by simpa using hne
      rw [joinBytes_cons separator part hne, ih, List.map_cons,
        List.intercalate_cons_of_ne_nil hmap, List.append_assoc]
      rfl

/-- **The parts are found again between the separators**, if they have none of their own. -/
theorem splitOn_joinBytes {parts : List CText} (hne : parts ≠ [])
    (hparts : ∀ t ∈ parts, separator ∉ t.bytes) :
    (joinBytes separator parts).splitOn separator = parts.map bytes := by
  have hbytes : ∀ b ∈ parts.map bytes, separator ∉ b := List.forall_mem_map.mpr hparts
  have hmap : parts.map bytes ≠ [] := by simpa using hne
  rw [joinBytes_eq_intercalate, List.splitOn_intercalate separator hbytes hmap]

/-- There is one separator between the first parts and the others. -/
theorem joinBytes_append {parts others : List CText} (hparts : parts ≠ []) (hothers : others ≠ []) :
    joinBytes separator (parts ++ others) =
      joinBytes separator parts ++ separator :: joinBytes separator others := by
  induction parts with
  | nil => exact absurd rfl hparts
  | cons part rest ih =>
    have hrest : rest ++ others ≠ [] := List.append_ne_nil_of_right_ne_nil rest hothers
    rw [List.cons_append, joinBytes_cons separator part hrest]
    rcases eq_or_ne rest [] with rfl | hne
    · rfl
    · rw [ih hne, joinBytes_cons separator part hne, List.append_assoc]
      rfl

/-- There is one separator less than there are parts. -/
theorem length_joinBytes {parts : List CText} (hne : parts ≠ []) :
    (joinBytes separator parts).length = (parts.map length).sum + (parts.length - 1) := by
  induction parts with
  | nil => exact absurd rfl hne
  | cons part rest ih =>
    rcases eq_or_ne rest [] with rfl | hrest
    · rfl
    · have hlength := ih hrest
      have hpos := List.length_pos_of_ne_nil hrest
      rw [joinBytes_cons separator part hrest, List.length_append, List.length_cons, hlength,
        List.map_cons, List.sum_cons, List.length_cons]
      show part.bytes.length + _ = part.bytes.length + _ + _
      omega

/-- Texts are told by their bytes. -/
theorem map_mk_map_bytes (parts : List CText) : (parts.map bytes).map CText.mk = parts := by
  rw [List.map_map]
  exact List.map_id parts

/-- **Splitting undoes joining, and joins regroup.** Parts join by every separator that is not zero.

- The joined text is as long as its parts and the separators between them.
- If no part has a separator of its own, splitting at every separator gives back just the parts,
  the empty ones included.
- Joining more parts to it, themselves joined, gives what all parts give at once. -/
theorem join_splits_and_regroups (parts : List CText) (hne : parts ≠ [])
    (hparts : ∀ t ∈ parts, t.NulFree) (separator : UInt8) (hseparator : separator ≠ 0) :
    ∃ joined, join parts separator = .ok joined ∧
      joined.length = (parts.map length).sum + (parts.length - 1) ∧
      ((∀ t ∈ parts, separator ∉ t.bytes) →
        (joined.bytes.splitOn separator).map CText.mk = parts) ∧
      ∀ others, others ≠ [] → (∀ t ∈ others, t.NulFree) → ∃ tail whole,
        join others separator = .ok tail ∧ join [joined, tail] separator = .ok whole ∧
        join (parts ++ others) separator = .ok whole := by
  refine ⟨_, join_eq hparts hseparator, length_joinBytes hne, fun hown => ?_,
    fun others hothers hnulFree => ?_⟩
  · show ((joinBytes separator parts).splitOn separator).map CText.mk = parts
    rw [splitOn_joinBytes hne hown, map_mk_map_bytes]
  · have hall : ∀ t ∈ parts ++ others, t.NulFree := List.forall_mem_append.mpr ⟨hparts, hnulFree⟩
    have hpair : ∀ t ∈ [CText.mk (joinBytes separator parts), ⟨joinBytes separator others⟩],
        t.NulFree :=
      List.forall_mem_cons.mpr ⟨nulFree_joinBytes hparts hseparator,
        List.forall_mem_singleton.mpr (nulFree_joinBytes hnulFree hseparator)⟩
    refine ⟨_, _, join_eq hnulFree hseparator, join_eq hpair hseparator, ?_⟩
    rw [join_eq hall hseparator, joinBytes_append hne hothers]
    rfl

/-- Empty parts in front, at the end and between others, and a separator that no character has. -/
theorem join_splits_and_regroups_empty_parts :
    [CText.mk [], ⟨[0x61]⟩, ⟨[]⟩, ⟨[]⟩] ≠ [] ∧
    (∀ t ∈ [CText.mk [], ⟨[0x61]⟩, ⟨[]⟩, ⟨[]⟩], t.NulFree) ∧ (0xFF : UInt8) ≠ 0 ∧
    ∃ joined, join [⟨[]⟩, ⟨[0x61]⟩, ⟨[]⟩, ⟨[]⟩] 0xFF = .ok joined ∧
      joined.bytes = [0xFF, 0x61, 0xFF, 0xFF] ∧
      (joined.bytes.splitOn 0xFF).map CText.mk = [⟨[]⟩, ⟨[0x61]⟩, ⟨[]⟩, ⟨[]⟩] ∧
      ∃ whole, join [joined, ⟨[]⟩] 0xFF = .ok whole ∧
        join [⟨[]⟩, ⟨[0x61]⟩, ⟨[]⟩, ⟨[]⟩, ⟨[]⟩] 0xFF = .ok whole := by
  have hne : [CText.mk [], ⟨[0x61]⟩, ⟨[]⟩, ⟨[]⟩] ≠ [] := by simp
  have hparts : ∀ t ∈ [CText.mk [], ⟨[0x61]⟩, ⟨[]⟩, ⟨[]⟩], t.NulFree := by simp [NulFree]
  obtain ⟨joined, hjoin, -, hsplit, hregroup⟩ :=
    join_splits_and_regroups _ hne hparts 0xFF (by decide)
  obtain ⟨tail, whole, htail, hpair, hall⟩ := hregroup [⟨[]⟩] (by simp) (by simp [NulFree])
  cases hjoin
  cases htail
  exact ⟨hne, hparts, by decide, _, rfl, rfl, hsplit (by simp), whole, hpair, hall⟩

end OwnedHandles.CText
