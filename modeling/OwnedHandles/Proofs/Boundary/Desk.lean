import OwnedHandles.Proofs.Boundary.Renaming

/-!
# A client by itself

A client calls its handles by number, in the order in which it was given them. What it sees of the
boundary is a store of its own, in which each payload lies at the number of its handle: its desk.
Which numbers are in use, and for what kind, is plain from the calls alone.

- `Desk`: the client's store, and how many handles it was given.
- `Holdings`: the kinds of the handles that a client holds, by number.
- `Holdings.Disciplined`: the client uses only handles that it holds, each as what it is.
- `Call.HasTexts`: the texts of a call are there.
- `Desk.moves`: a call moves desk and holdings alike.
- `Desk.run_of_disciplined`: the calls of a disciplined client come to their end, one and all.
-/

namespace OwnedHandles

/-! ## Handles by number -/

/-- The kinds of the handles that a client holds, and how many it was given. Numbers begin at one,
so that the number of the null handle stays free. -/
structure Holdings where
  issued : Nat
  kindOf : Address → Option Kind

/-- The texts that a call needs are there, and none of an event filter is cut inside a character. -/
structure Call.HasTexts (world : Surroundings) (call : Call) : Prop where
  present : call.missing = none
  uncut : ∀ filter, call = .logInit filter → ∀ straddle,
    Filter.choose world.filterVariable (Call.filterText filter) ≠ .error straddle

namespace Holdings

/-- No handle has been given. -/
def empty : Holdings := ⟨0, fun _ => none⟩

/-- The call uses a handle that the client holds, of the kind that the call expects. Null may be
given back. -/
def Permits (h : Holdings) (call : Call) : Prop :=
  ∀ kind n, call.subject = some (kind, n) →
    h.kindOf n = some kind ∨ (n = nullAddress ∧ call.isDrop = true)

/-- The holdings after a call: a new handle has the next number, and one that is given back is held
no more. -/
def after (h : Holdings) (call : Call) : Holdings :=
  match call.creates with
  | some kind => ⟨h.issued + 1, fun n => if n = h.issued + 1 then some kind else h.kindOf n⟩
  | none =>
    match call.givesBack with
    | some given => { h with kindOf := fun n => if n = given then none else h.kindOf n }
    | none => h

/-- The holdings after calls one after the other. -/
def afterAll (h : Holdings) (calls : List Call) : Holdings :=
  calls.foldl after h

/-- Every call uses a handle that the client holds at that time. -/
def Disciplined (h : Holdings) : List Call → Prop
  | [] => True
  | call :: rest => h.Permits call ∧ (h.after call).Disciplined rest

end Holdings

/-! ## The store of a client -/

/-- The store of a client, with numbers for addresses, and how many handles it was given. -/
structure Desk where
  issued : Nat
  own : Store

namespace Desk

/-- Nothing has been given. -/
def empty : Desk := ⟨0, Store.empty⟩

/-- One call. Its new handle has the next number. -/
def step (d : Desk) (world : Surroundings) (call : Call) : Except Violation (Reply × Desk) :=
  (d.own.step { world with freshAddress := d.issued + 1 } call).map fun answer =>
    (answer.reply, ⟨d.issued + answer.reply.handles.length, answer.after⟩)

/-- Calls one after the other, with their replies. -/
def run (d : Desk) : List (Surroundings × Call) → Except Violation (List Reply × Desk)
  | [] => .ok ([], d)
  | (world, call) :: rest =>
    match d.step world call with
    | .error violation => .error violation
    | .ok (reply, next) => (next.run rest).map fun (replies, last) => (reply :: replies, last)

/-- The kinds on a desk. -/
def holdings (d : Desk) : Holdings :=
  ⟨d.issued, fun n => (d.own.cells n).map Cell.kind⟩

/-- Payloads lie at the numbers that have been given. -/
def Numbered (d : Desk) : Prop :=
  ∀ n cell, d.own.cells n = some cell → n ≠ nullAddress ∧ n ≤ d.issued

variable {d next last : Desk} {world : Surroundings} {call : Call} {reply : Reply}

theorem numbered_empty : empty.Numbered := fun _ _ h => nomatch h

theorem step_eq_ok_iff :
    d.step world call = .ok (reply, next) ↔
      ∃ answer, d.own.step { world with freshAddress := d.issued + 1 } call = .ok answer ∧
        reply = answer.reply ∧ next = ⟨d.issued + answer.reply.handles.length, answer.after⟩ := by
  unfold step
  cases d.own.step { world with freshAddress := d.issued + 1 } call with
  | ok answer => simp [Except.map, eq_comm]
  | error violation => simp [Except.map]

theorem run_cons_eq_ok_iff {rest : List (Surroundings × Call)} {replies : List Reply} :
    d.run ((world, call) :: rest) = .ok (replies, last) ↔
      ∃ reply next others, d.step world call = .ok (reply, next) ∧
        next.run rest = .ok (others, last) ∧ replies = reply :: others := by
  rw [run]
  cases d.step world call with
  | error violation => simp
  | ok first =>
    obtain ⟨reply, next⟩ := first
    show (next.run rest).map _ = _ ↔ _
    constructor
    · intro h
      cases hrest : next.run rest with
      | error violation =>
        rw [hrest] at h
        cases h
      | ok others =>
        rw [hrest] at h
        cases h
        exact ⟨reply, next, others.1, rfl, hrest, rfl⟩
    · rintro ⟨_, _, others, hfirst, hrest, rfl⟩
      cases hfirst
      rw [hrest]
      rfl

theorem Numbered.cells_null (h : d.Numbered) : d.own.cells nullAddress = none :=
  Option.eq_none_iff_forall_ne_some.mpr fun cell hcell => (h _ cell hcell).1 rfl

/-- Payloads stay at numbers that have been given when they change at one of these. -/
theorem Numbered.set (h : d.Numbered) {n : Address} {new : Option Cell}
    (given : n ≠ nullAddress ∧ n ≤ next.issued) (issued : d.issued ≤ next.issued)
    (hcells : ∀ m, next.own.cells m = if m = n then new else d.own.cells m) : next.Numbered := by
  intro m cell hm
  rw [hcells] at hm
  split at hm
  · rename_i heq
    rwa [heq]
  · exact ⟨(h m cell hm).1, Nat.le_trans (h m cell hm).2 issued⟩

/-- **A call moves desk and holdings alike.** -/
theorem moves (h : d.Numbered) (hstep : d.step world call = .ok (reply, next)) :
    next.Numbered ∧ next.holdings = d.holdings.after call := by
  obtain ⟨answer, hown, rfl, rfl⟩ := step_eq_ok_iff.mp hstep
  have hself : d.own.PlacedIn d.own id := .refl (by simp [h.cells_null])
  obtain ⟨answer', -, hgoes⟩ := hself.step hown
  unfold Holdings.after
  cases hgoes with
  | keeps same plain plain' unmade kept =>
    rw [unmade, plain]
    refine ⟨h, ?_⟩
    cases hgiven : call.givesBack with
    | none => rfl
    | some n =>
      -- null is given back, and nothing was held under its number
      refine congrArg (Holdings.mk d.issued) (funext fun m => ?_)
      split
      · rename_i hm
        rw [hm, kept n hgiven, h.cells_null]
        rfl
      · rfl
  | creates cell made =>
    rw [made]
    refine ⟨h.set ⟨Nat.succ_ne_zero _, Nat.le_refl _⟩ (Nat.le_succ _) fun m => rfl, ?_⟩
    exact congrArg (Holdings.mk _) (funext fun n => apply_ite (Option.map Cell.kind) _ _ _)
  | changes found sort unmade kept =>
    rename_i number old new
    rw [unmade, kept]
    refine ⟨h.set (h _ _ found) (Nat.le_refl _) fun m => rfl, ?_⟩
    refine congrArg (Holdings.mk _) (funext fun n => ?_)
    show (if n = number then some new else d.own.cells n).map Cell.kind =
      (d.own.cells n).map Cell.kind
    split
    · rename_i heq
      rw [heq, found]
      exact congrArg some sort
    · rfl
  | drops found unmade given =>
    rw [unmade, given]
    refine ⟨h.set (h _ _ found) (Nat.le_refl _) fun m => rfl, ?_⟩
    exact congrArg (Holdings.mk _) (funext fun n => apply_ite (Option.map Cell.kind) _ _ _)

/-! ## Disciplined clients -/

/-- A call that is permitted comes to its end. -/
theorem step_of_permits (h : d.Numbered) (permits : d.holdings.Permits call)
    (texts : call.HasTexts world) : ∃ reply next, d.step world call = .ok (reply, next) := by
  cases hstep : d.own.step { world with freshAddress := d.issued + 1 } call with
  | ok answer => exact ⟨_, _, step_eq_ok_iff.mpr ⟨answer, hstep, rfl, rfl⟩⟩
  | error violation =>
    exfalso
    have hblames := (Store.step_eq_error_iff fun _ => "").mp hstep
    generalize Abort.message (fun _ => "") ⟨call.name, violation⟩ = words at hblames
    cases hblames with
    | null expects uses =>
      rcases permits _ _ expects with hheld | ⟨-, hdrop⟩
      · simp [holdings, h.cells_null] at hheld
      · rw [uses] at hdrop
        cases hdrop
    | unknown expects nonNull found =>
      rcases permits _ _ expects with hheld | ⟨hnull, -⟩
      · simp [holdings, found] at hheld
      · exact nonNull hnull
    | wrongKind expects nonNull found differs =>
      rcases permits _ _ expects with hheld | ⟨hnull, -⟩
      · simp only [holdings, found, Option.map_some, Option.some.injEq] at hheld
        exact differs hheld
      · exact nonNull hnull
    | missing lacks =>
      rw [texts.present] at lacks
      cases lacks
    | filterText cut => exact texts.uncut _ rfl _ cut

/-- **The calls of a disciplined client come to their end**, and what it holds in the end is plain
from the calls. -/
theorem run_of_disciplined {calls : List (Surroundings × Call)} (h : d.Numbered)
    (disciplined : d.holdings.Disciplined (calls.map Prod.snd))
    (texts : ∀ c ∈ calls, c.2.HasTexts c.1) :
    ∃ replies last, d.run calls = .ok (replies, last) ∧
      last.holdings = d.holdings.afterAll (calls.map Prod.snd) := by
  induction calls generalizing d with
  | nil => exact ⟨[], d, rfl, rfl⟩
  | cons first rest ih =>
    obtain ⟨world, call⟩ := first
    obtain ⟨permits, hrest⟩ := disciplined
    obtain ⟨reply, next, hstep⟩ := step_of_permits h permits (texts _ List.mem_cons_self)
    obtain ⟨hnumbered, hholdings⟩ := moves h hstep
    rw [← hholdings] at hrest
    obtain ⟨replies, last, hruns, hlast⟩ := ih hnumbered hrest fun c hc =>
      texts c (List.mem_cons_of_mem _ hc)
    refine ⟨reply :: replies, last, ?_, ?_⟩
    · exact run_cons_eq_ok_iff.mpr ⟨reply, next, replies, hstep, hruns, rfl⟩
    · rw [hlast, hholdings]
      rfl

end Desk

end OwnedHandles
