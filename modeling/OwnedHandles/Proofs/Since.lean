import Mathlib.Data.List.Basic

/-!
# What has happened since

A log is a list with its first entry in front. `Since happened undone log n` says that something
happened at the `n`-th entry and has not been undone by any later one. Logs grow at their end, and
`since_concat` is the step of every induction over them.
-/

namespace OwnedHandles

variable {ε : Type}

/-- Something happened at the `n`-th entry, and no entry after it has undone it. -/
def Since (happened undone : ε → Prop) (log : List ε) (n : Nat) : Prop :=
  (∃ e, log[n]? = some e ∧ happened e) ∧ ∀ m e, n < m → log[m]? = some e → ¬undone e

/-- The entries of a longer log are the old ones and the last one. -/
theorem getElem?_concat_iff {log : List ε} {last e : ε} {n : Nat} :
    (log ++ [last])[n]? = some e ↔ log[n]? = some e ∨ n = log.length ∧ e = last := by
  rcases Nat.lt_trichotomy n log.length with hlt | rfl | hgt
  · rw [List.getElem?_append_left hlt]
    exact ⟨.inl, fun h => h.resolve_right fun heq => Nat.ne_of_lt hlt heq.1⟩
  · simp [eq_comm]
  · have hlength : (log ++ [last]).length ≤ n := by
      rw [List.length_append]
      exact hgt
    rw [List.getElem?_eq_none hlength, List.getElem?_eq_none (Nat.le_of_lt hgt)]
    simp [Nat.ne_of_gt hgt]

theorem Since.lt_length {happened undone : ε → Prop} {log : List ε} {n : Nat}
    (h : Since happened undone log n) : n < log.length := by
  obtain ⟨⟨e, he, -⟩, -⟩ := h
  exact (List.getElem?_eq_some_iff.mp he).1

/-- The last entry lets something happen, or leaves alone what has happened before. -/
theorem since_concat {happened undone : ε → Prop} {log : List ε} {last : ε} {n : Nat} :
    Since happened undone (log ++ [last]) n ↔
      Since happened undone log n ∧ ¬undone last ∨ n = log.length ∧ happened last := by
  constructor
  · rintro ⟨⟨e, he, hhappened⟩, hlater⟩
    rcases getElem?_concat_iff.mp he with hold | ⟨rfl, rfl⟩
    · have hlt : n < log.length := (List.getElem?_eq_some_iff.mp hold).1
      refine .inl ⟨⟨⟨e, hold, hhappened⟩, fun m d hm hd => ?_⟩, ?_⟩
      · exact hlater m d hm (getElem?_concat_iff.mpr (.inl hd))
      · exact hlater _ last hlt (getElem?_concat_iff.mpr (.inr ⟨rfl, rfl⟩))
    · exact .inr ⟨rfl, hhappened⟩
  · rintro (⟨⟨⟨e, he, hhappened⟩, hlater⟩, hlast⟩ | ⟨rfl, hhappened⟩)
    · refine ⟨⟨e, getElem?_concat_iff.mpr (.inl he), hhappened⟩, fun m d hm hd => ?_⟩
      rcases getElem?_concat_iff.mp hd with hold | ⟨rfl, rfl⟩
      · exact hlater m d hm hold
      · exact hlast
    · refine ⟨⟨last, getElem?_concat_iff.mpr (.inr ⟨rfl, rfl⟩), hhappened⟩, fun m d hm hd => ?_⟩
      have hlt := (List.getElem?_eq_some_iff.mp hd).1
      rw [List.length_append, List.length_singleton] at hlt
      omega

/-- Whether something has happened since, told from the last entry. -/
theorem exists_since_concat {happened undone : ε → Prop} {log : List ε} {last : ε} :
    (∃ n, Since happened undone (log ++ [last]) n) ↔
      (∃ n, Since happened undone log n) ∧ ¬undone last ∨ happened last := by
  simp only [since_concat]
  constructor
  · rintro ⟨n, ⟨hsince, hundone⟩ | ⟨-, hhappened⟩⟩
    · exact .inl ⟨⟨n, hsince⟩, hundone⟩
    · exact .inr hhappened
  · rintro (⟨⟨n, hsince⟩, hundone⟩ | hhappened)
    · exact ⟨n, .inl ⟨hsince, hundone⟩⟩
    · exact ⟨_, .inr ⟨rfl, hhappened⟩⟩

/-- Nothing has happened in an empty log. -/
theorem not_since_nil {happened undone : ε → Prop} {n : Nat} : ¬Since happened undone [] n := by
  rintro ⟨⟨e, he, -⟩, -⟩
  cases he

end OwnedHandles
