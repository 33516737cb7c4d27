import Mathlib.Data.List.GetD
import Mathlib.Logic.Function.Basic
import OwnedHandles.Proofs.Boundary.Desk
import OwnedHandles.Proofs.Boundary.Refinement

/-!
# Clients that share the boundary

Several clients take turns at calling the boundary. They share its ledger and its memory: what one
of them gives back may be handed out to another one. A client sees nothing of that.

- `Placement`: payloads that lie at addresses, each at one of its own.
- `Turn`, `Scene`: a call of a client, and the state that all calls share. A client calls its
  handles by number.
- `Scene.map_snd_run`: turns are a run of the boundary.
- `Scene.Honest`: the allocator offers addresses that are not null and not in use.
- `Scene.Serves`: the boundary holds the payloads of all desks, and no others.
- `Serves.turn`: one turn. Boundary and desk answer alike.
- `Scene.clients_are_isolated`: every schedule. Each client has the answers that it has alone.
- `Scene.clients_share_filter`: the event filter is one for all.
-/

namespace OwnedHandles

/-! ## Payloads at addresses -/

/-- Every payload lies at its place, no two at the same one, and nothing else lies anywhere. -/
structure Placement {ι α : Type} (cells : ι → Option α) (place : ι → Address)
    (heap : Address → Option α) : Prop where
  found : ∀ i x, cells i = some x → heap (place i) = some x
  apart : ∀ i j, cells i ≠ none → cells j ≠ none → place i = place j → i = j
  owned : ∀ a x, heap a = some x → ∃ i, cells i = some x ∧ place i = a

/-- A payload can be put, changed or dropped at an address that is the place of no other one. -/
theorem Placement.set {ι α : Type} [DecidableEq ι] {cells cells' : ι → Option α}
    {place place' : ι → Address} {heap heap' : Address → Option α} {i : ι} {a : Address}
    {new : Option α} (h : Placement cells place heap)
    (sole : ∀ j, cells j ≠ none → (place j = a ↔ j = i)) (here : place' i = a)
    (others : ∀ j, cells j ≠ none → place' j = place j)
    (hcells : ∀ j, cells' j = if j = i then new else cells j)
    (hheap : ∀ b, heap' b = if b = a then new else heap b) : Placement cells' place' heap' := by
  have hself : cells' i = new := by rw [hcells, if_pos rfl]
  have hother : ∀ {j}, j ≠ i → cells' j = cells j := fun hj => by rw [hcells, if_neg hj]
  have haway : ∀ {j}, j ≠ i → cells j ≠ none → place' j ≠ a := fun hj hcell heq =>
    hj ((sole _ hcell).mp ((others _ hcell).symm.trans heq))
  refine ⟨fun j x hj => ?_, fun j k hj hk heq => ?_, fun b x hb => ?_⟩
  · by_cases hji : j = i
    · rw [hji, here, hheap, if_pos rfl, ← hself, ← hji]
      exact hj
    · rw [hother hji] at hj
      have hcell : cells j ≠ none := hj ▸ nofun
      rw [hheap, if_neg (haway hji hcell), others j hcell]
      exact h.found j x hj
  · by_cases hji : j = i
    · by_cases hki : k = i
      · exact hji.trans hki.symm
      · rw [hother hki] at hk
        exact absurd (heq.symm.trans (hji ▸ here)) (haway hki hk)
    · rw [hother hji] at hj
      by_cases hki : k = i
      · exact absurd (heq.trans (hki ▸ here)) (haway hji hj)
      · rw [hother hki] at hk
        rw [others j hj, others k hk] at heq
        exact h.apart j k hj hk heq
  · by_cases hba : b = a
    · rw [hheap, if_pos hba] at hb
      exact ⟨i, hself.trans hb, here.trans hba.symm⟩
    · rw [hheap, if_neg hba] at hb
      obtain ⟨j, hj, hplace⟩ := h.owned b x hb
      have hcell : cells j ≠ none := hj ▸ nofun
      have hji : j ≠ i := fun hji => hba (hplace.symm.trans ((sole j hcell).mpr hji))
      exact ⟨j, (hother hji).trans hj, (others j hcell).trans hplace⟩

/-! ## Turns -/

/-- A call of a client, on a handle that the client calls by number. -/
structure Turn (Client : Type) where
  client : Client
  world : Surroundings
  call : Call

/-- A call, and what it takes from the world but for the choice of the allocator. -/
def Turn.inputs {Client : Type} (t : Turn Client) : Surroundings × Call :=
  ({ t.world with freshAddress := nullAddress }, t.call)

/-- The boundary that all clients share, and the addresses that each was given, in that order. -/
structure Scene (Client : Type) where
  shared : Boundary
  received : Client → List Address

/-- The addresses that a step hands out. -/
def BoundaryStep.handles (s : BoundaryStep) : List Address :=
  match s.outcome with
  | .ok reply => reply.handles
  | .error _ => []

/-- The flag that a step is answered with. -/
def BoundaryStep.flag? (s : BoundaryStep) : Option Bool :=
  match s.outcome with
  | .ok reply => reply.flag?
  | .error _ => none

/-- The address of a handle by its number, among the addresses that a client was given. The number
of null is zero. -/
def handleAddress (received : List Address) (n : Address) : Address :=
  (nullAddress :: received).getD n nullAddress

/-- Handles keep their addresses when further ones are given. -/
theorem handleAddress_append {received : List Address} {n : Address} (h : n ≤ received.length)
    (more : List Address) : handleAddress (received ++ more) n = handleAddress received n :=
  List.getD_append (nullAddress :: received) more _ _ (Nat.lt_succ_of_le h)

/-- The next handle has the address that is handed out. -/
theorem handleAddress_concat (received : List Address) (a : Address) :
    handleAddress (received ++ [a]) (received.length + 1) = a := by
  simp [handleAddress]

variable {Client : Type} [DecidableEq Client]

/-- What one client calls. -/
def sequence (c : Client) (turns : List (Turn Client)) : List (Surroundings × Call) :=
  (turns.filter (·.client = c)).map Turn.inputs

/-- What a client can tell from the answers that it was given. -/
def answersTo (c : Client) (steps : List (Client × BoundaryStep)) : List (Except Abort Reply) :=
  (steps.filter (·.1 = c)).map fun step => step.2.outcome.map Reply.apparent

/-- The flags that turns are answered with: only the first installation succeeds. -/
def installAnswers (installed : Bool) : List (Turn Client) → List (Option Bool)
  | [] => []
  | t :: rest =>
    if t.call.isInstall then some (!installed) :: installAnswers true rest
    else none :: installAnswers installed rest

namespace Scene

/-- Nothing has been handed out. -/
def empty : Scene Client := ⟨Boundary.empty, fun _ => []⟩

/-- The address of a client's handle. -/
def address (s : Scene Client) (c : Client) : Address → Address :=
  handleAddress (s.received c)

/-- One turn. -/
def step (s : Scene Client) (t : Turn Client) : BoundaryStep :=
  s.shared.step t.world (t.call.mapHandle (s.address t.client))

/-- The scene with another boundary, and further addresses given to a client. -/
def extend (s : Scene Client) (shared : Boundary) (c : Client) (more : List Address) :
    Scene Client :=
  ⟨shared, Function.update s.received c (s.received c ++ more)⟩

/-- The scene after a turn. -/
def after (s : Scene Client) (t : Turn Client) : Scene Client :=
  s.extend (s.step t).after t.client (s.step t).handles

/-- Turns one after the other, up to the first that ends the program. -/
def run (s : Scene Client) : List (Turn Client) → List (Client × BoundaryStep)
  | [] => []
  | t :: rest =>
    match (s.step t).outcome with
    | .ok _ => (t.client, s.step t) :: (s.after t).run rest
    | .error _ => [(t.client, s.step t)]

/-- The calls of turns as they reach the boundary. -/
def calls (s : Scene Client) : List (Turn Client) → List (Surroundings × Call)
  | [] => []
  | t :: rest => (t.world, t.call.mapHandle (s.address t.client)) :: (s.after t).calls rest

/-- Turns are a run of the boundary. -/
theorem map_snd_run (s : Scene Client) (turns : List (Turn Client)) :
    (s.run turns).map Prod.snd = s.shared.run (s.calls turns) := by
  induction turns generalizing s with
  | nil => rfl
  | cons t rest ih =>
    have hstep : s.shared.step t.world (t.call.mapHandle (s.address t.client)) = s.step t := rfl
    have hafter : (s.after t).shared = (s.step t).after := rfl
    rw [run, calls, Boundary.run, hstep]
    cases (s.step t).outcome with
    | ok reply => exact congrArg (s.step t :: ·) (hafter ▸ ih (s.after t))
    | error abort => rfl

/-- The scene after turns that do not end the program. -/
def finish (s : Scene Client) (turns : List (Turn Client)) : Scene Client :=
  turns.foldl after s

/-- At every turn, the allocator has an address ready that is not null and not in use. -/
def Honest (s : Scene Client) : List (Turn Client) → Prop
  | [] => True
  | t :: rest => s.shared.Offers t.world.freshAddress ∧ (s.after t).Honest rest

/-- The boundary holds the payloads of all desks, each at the address of its handle, and nothing
else. -/
structure Serves (s : Scene Client) (desks : Client → Desk) : Prop where
  coherent : s.shared.Coherent
  issued : ∀ c, (desks c).issued = (s.received c).length
  numbered : ∀ c, (desks c).Numbered
  placed : Placement (fun i : Client × Address => (desks i.1).own.cells i.2)
    (fun i => s.address i.1 i.2) s.shared.view.cells

/-! ## One turn -/

namespace Serves

variable {s : Scene Client} {desks : Client → Desk} {c : Client} {next : Desk} {b : Boundary}
  {t : Turn Client} {reply : Reply}

omit [DecidableEq Client] in
theorem empty : (Scene.empty : Scene Client).Serves fun _ => Desk.empty where
  coherent := Boundary.coherent_empty
  issued _ := rfl
  numbered _ := Desk.numbered_empty
  placed := by
    have hview : (Scene.empty : Scene Client).shared.view = Store.empty := Boundary.view_empty
    rw [hview]
    exact ⟨fun _ _ h => (nomatch h), fun _ _ h => absurd rfl h, fun _ _ h => (nomatch h)⟩

omit [DecidableEq Client] in
/-- The payloads of a desk lie in the boundary. -/
theorem placedIn (h : s.Serves desks) (c : Client) :
    (desks c).own.PlacedIn s.shared.view (s.address c) where
  null := rfl
  found n cell hcell := by
    have hfound := h.placed.found (c, n) cell hcell
    refine ⟨fun hnull => ?_, hfound⟩
    have hheap : s.shared.view.cells nullAddress = none := h.coherent.null
    rw [show s.address (c, n).1 (c, n).2 = nullAddress from hnull, hheap] at hfound
    cases hfound

/-- Handles on the desks keep their addresses when further ones are given. -/
theorem address_extend (h : s.Serves desks) (b : Boundary) (c : Client) (more : List Address)
    (i : Client × Address) (hi : (desks i.1).own.cells i.2 ≠ none) :
    (s.extend b c more).address i.1 i.2 = s.address i.1 i.2 := by
  obtain ⟨other, n⟩ := i
  obtain ⟨cell, hcell⟩ := Option.ne_none_iff_exists'.mp hi
  have hle : n ≤ (s.received other).length := by
    rw [← h.issued]
    exact (h.numbered other n cell hcell).2
  show handleAddress (Function.update s.received c _ other) n = handleAddress (s.received other) n
  by_cases hc : other = c
  · subst hc
    rw [Function.update_self]
    exact handleAddress_append hle more
  · rw [Function.update_of_ne hc]

/-- What one client has on its desk changes at one number. -/
theorem cells_update {n : Address} {new : Option Cell}
    (hown : ∀ m, next.own.cells m = if m = n then new else (desks c).own.cells m)
    (i : Client × Address) : (Function.update desks c next i.1).own.cells i.2 =
      if i = (c, n) then new else (desks i.1).own.cells i.2 := by
  obtain ⟨other, m⟩ := i
  by_cases hc : other = c
  · subst hc
    simp [hown]
  · simp [hc]

/-- Desk and boundary change at one number and at one address, which belong together. -/
theorem change (h : s.Serves desks) (coherent : b.Coherent) (numbered : next.Numbered)
    {more : List Address} (issued : next.issued = (desks c).issued + more.length)
    {n a : Address} {new : Option Cell}
    (sole : ∀ i : Client × Address, (desks i.1).own.cells i.2 ≠ none →
      (s.address i.1 i.2 = a ↔ i = (c, n)))
    (here : (s.extend b c more).address c n = a)
    (hown : ∀ m, next.own.cells m = if m = n then new else (desks c).own.cells m)
    (hheap : ∀ x, b.view.cells x = if x = a then new else s.shared.view.cells x) :
    (s.extend b c more).Serves (Function.update desks c next) := by
  have hissued : ∀ other, (Function.update desks c next other).issued =
      (Function.update s.received c (s.received c ++ more) other).length := by
    refine (Function.forall_update_iff desks fun other d => d.issued = List.length _).mpr
      ⟨?_, fun other hc => ?_⟩
    · rw [Function.update_self, issued, h.issued, List.length_append]
    · rw [Function.update_of_ne hc, h.issued]
  have hnumbered : ∀ other, (Function.update desks c next other).Numbered :=
    (Function.forall_update_iff desks fun _ d => d.Numbered).mpr
      ⟨numbered, fun other _ => h.numbered other⟩
  exact ⟨coherent, hissued, hnumbered,
    h.placed.set sole here (h.address_extend b c more) (cells_update hown) hheap⟩

/-- Desk and boundary keep their payloads. -/
theorem keep (h : s.Serves desks) (coherent : b.Coherent) (numbered : next.Numbered)
    (issued : next.issued = (desks c).issued) (hown : next.own.cells = (desks c).own.cells)
    (hheap : b.view.cells = s.shared.view.cells) :
    (s.extend b c []).Serves (Function.update desks c next) := by
  -- nothing lies at null on either side, and nothing changes there
  have hnone : s.shared.view.cells nullAddress = none := h.coherent.null
  have howns : ∀ m, next.own.cells m =
      if m = nullAddress then none else (desks c).own.cells m := by
    intro m
    split
    · rename_i hm
      rw [hown, hm]
      exact (h.numbered c).cells_null
    · rw [hown]
  have hheaps : ∀ x, b.view.cells x =
      if x = nullAddress then none else s.shared.view.cells x := by
    intro x
    split
    · rename_i hx
      rw [hheap, hx, hnone]
    · rw [hheap]
  refine h.change coherent numbered issued (fun i hi => ⟨fun heq => ?_, fun heq => ?_⟩) rfl howns
    hheaps
  · obtain ⟨cell, hcell⟩ := Option.ne_none_iff_exists'.mp hi
    exact absurd heq ((h.placedIn i.1).found i.2 cell hcell).1
  · rw [heq]
    rfl

/-- The payload of a handle changes on the desk and in the boundary. -/
theorem replace (h : s.Serves desks) (coherent : b.Coherent) (numbered : next.Numbered)
    (issued : next.issued = (desks c).issued) {n : Address} {old : Cell} {new : Option Cell}
    (found : (desks c).own.cells n = some old)
    (hown : ∀ m, next.own.cells m = if m = n then new else (desks c).own.cells m)
    (hheap : ∀ x, b.view.cells x = if x = s.address c n then new else s.shared.view.cells x) :
    (s.extend b c []).Serves (Function.update desks c next) := by
  have hheld : (desks c).own.cells n ≠ none := found ▸ nofun
  refine h.change coherent numbered issued (fun i hi => ⟨fun heq => ?_, fun heq => ?_⟩) ?_ hown
    hheap
  · exact h.placed.apart i (c, n) hi hheld heq
  · rw [heq]
  · exact h.address_extend b c [] (c, n) hheld

/-- A payload is put at a fresh address, under the next number. -/
theorem give (h : s.Serves desks) (coherent : b.Coherent) (numbered : next.Numbered)
    (issued : next.issued = (desks c).issued + 1) {fresh : Address} {new : Option Cell}
    (offers : s.shared.Offers fresh)
    (hown : ∀ m, next.own.cells m =
      if m = (desks c).issued + 1 then new else (desks c).own.cells m)
    (hheap : ∀ x, b.view.cells x = if x = fresh then new else s.shared.view.cells x) :
    (s.extend b c [fresh]).Serves (Function.update desks c next) := by
  refine h.change coherent numbered issued (fun i hi => ⟨fun heq => ?_, fun heq => ?_⟩) ?_ hown
    hheap
  · -- a payload that is on a desk lies at an address in use
    obtain ⟨cell, hcell⟩ := Option.ne_none_iff_exists'.mp hi
    have hused := ((h.placedIn i.1).found i.2 cell hcell).2
    have hfree : s.shared.view.cells fresh = none := offers.2
    rw [heq, hfree] at hused
    cases hused
  · obtain ⟨cell, hcell⟩ := Option.ne_none_iff_exists'.mp hi
    rw [heq] at hcell
    exact absurd (h.numbered c _ cell hcell).2 (Nat.not_succ_le_self _)
  · show handleAddress (Function.update s.received c _ c) _ = fresh
    rw [Function.update_self, h.issued]
    exact handleAddress_concat _ _

/-- What a call does on the desk and in the boundary leaves both together. -/
theorem parallel (h : s.Serves desks) {fresh : Address} {call : Call} {answer answer' : Answer}
    (hgoes : (desks c).own.Parallel s.shared.view (s.address c) ((desks c).issued + 1) fresh call
      answer answer')
    (offers : s.shared.Offers fresh) (coherent : b.Coherent) (hview : b.view = answer'.after)
    (numbered : Desk.Numbered ⟨(desks c).issued + answer.reply.handles.length, answer.after⟩) :
    (s.extend b c answer'.reply.handles).Serves
      (Function.update desks c ⟨(desks c).issued + answer.reply.handles.length, answer.after⟩) := by
  cases hgoes with
  | keeps same plain plain' unmade kept =>
    simp only [plain, plain'] at numbered ⊢
    exact h.keep coherent numbered rfl rfl (by rw [hview])
  | creates cell made =>
    exact h.give coherent numbered rfl offers (fun m => rfl) fun x => by rw [hview]; rfl
  | changes found sort unmade kept =>
    exact h.replace coherent numbered rfl found (fun m => rfl) fun x => by rw [hview]; rfl
  | drops found unmade given =>
    exact h.replace coherent numbered rfl found (fun m => rfl) fun x => by rw [hview]; rfl

/-- **One turn.** Boundary and desk answer alike, and belong together afterwards. The event filter
is that of the boundary. -/
theorem turn (h : s.Serves desks) (offers : s.shared.Offers t.world.freshAddress)
    (hown : (desks t.client).step t.world t.call = .ok (reply, next)) :
    ∃ reply', (s.step t).outcome = .ok reply' ∧ reply'.apparent = reply.apparent ∧
      reply'.flag? = (if t.call.isInstall then some (!s.shared.filter.isSome) else none) ∧
      (s.after t).shared.filter.isSome = (s.shared.filter.isSome || t.call.isInstall) ∧
      (s.after t).Serves (Function.update desks t.client next) := by
  have hnumbered := (Desk.moves (h.numbered t.client) hown).1
  obtain ⟨answer, hanswer, rfl, rfl⟩ := Desk.step_eq_ok_iff.mp hown
  obtain ⟨answer', hshared, hgoes⟩ := (h.placedIn t.client).step hanswer
  have hshows := h.coherent.step offers (t.call.mapHandle (s.address t.client))
  have hcoherent : (s.step t).after.Coherent := hshows.coherent
  rw [hshared] at hshows
  obtain ⟨houtcome, hview⟩ := hshows.outcome_eq
  obtain ⟨hflag, hfilter⟩ := Store.flag_step hshared
  rw [Call.isInstall_mapHandle] at hflag hfilter
  rw [← hview] at hfilter
  have hhandles : (s.step t).handles = answer'.reply.handles := by
    rw [BoundaryStep.handles, Scene.step, houtcome]
  refine ⟨answer'.reply, houtcome, ?_, hflag, hfilter, ?_⟩
  · cases hgoes with
    | keeps same plain plain' unmade kept => exact same
    | creates | changes | drops => rfl
  · rw [after, hhandles]
    exact h.parallel hgoes offers hcoherent hview hnumbered

/-! ## Every schedule -/

/-- **Every run.** No call ends the program, every client has the answers of its desk, and boundary
and desks belong together in the end. -/
theorem run {turns : List (Turn Client)} {replies : Client → List Reply} {last : Client → Desk}
    (h : s.Serves desks) (honest : s.Honest turns)
    (hruns : ∀ c, (desks c).run (sequence c turns) = .ok (replies c, last c)) :
    (s.run turns).map Prod.fst = turns.map Turn.client ∧
    (∀ step ∈ s.run turns, ∃ reply, step.2.outcome = .ok reply) ∧
    (∀ c, answersTo c (s.run turns) = (replies c).map fun reply => .ok reply.apparent) ∧
    (s.run turns).map (fun step => step.2.flag?) =
      installAnswers s.shared.filter.isSome turns ∧
    (s.finish turns).Serves last := by
  induction turns generalizing s desks replies with
  | nil =>
    have hnil := fun c => Prod.mk.inj (Except.ok.inj (hruns c))
    obtain rfl : desks = last := funext fun c => (hnil c).2
    refine ⟨rfl, fun _ hstep => absurd hstep List.not_mem_nil, fun c => ?_, rfl, h⟩
    rw [← (hnil c).1]
    rfl
  | cons t rest ih =>
    obtain ⟨offers, hrest⟩ := honest
    have hself : sequence t.client (t :: rest) = t.inputs :: sequence t.client rest := by
      simp [sequence]
    have hother : ∀ {c}, c ≠ t.client → sequence c (t :: rest) = sequence c rest := fun hc => by
      simp [sequence, Ne.symm hc]
    have hfirst := hruns t.client
    rw [hself] at hfirst
    obtain ⟨reply, next, others, hown, hothers, hreplies⟩ := Desk.run_cons_eq_ok_iff.mp hfirst
    obtain ⟨reply', houtcome, hsame, hflag, hfilter, hserves⟩ := h.turn offers hown
    -- the desk of the client whose turn it is moves on, all others wait
    have hruns' : ∀ c, (Function.update desks t.client next c).run (sequence c rest) =
        .ok (Function.update replies t.client others c, last c) := by
      intro c
      by_cases hc : c = t.client
      · rw [hc, Function.update_self, Function.update_self]
        exact hothers
      · rw [Function.update_of_ne hc, Function.update_of_ne hc, ← hother hc]
        exact hruns c
    obtain ⟨hclients, hends, hanswers, hflags, hlast⟩ := ih hserves hrest hruns'
    rw [Scene.run, houtcome]
    refine ⟨congrArg (t.client :: ·) hclients, ?_, fun c => ?_, ?_, hlast⟩
    · exact List.forall_mem_cons.mpr ⟨⟨reply', houtcome⟩, hends⟩
    · have hanswer := hanswers c
      by_cases hc : c = t.client
      · subst hc
        rw [Function.update_self] at hanswer
        rw [hreplies, List.map_cons, ← hanswer, ← hsame]
        simp [answersTo, houtcome, Except.map]
      · rw [Function.update_of_ne hc] at hanswer
        rw [← hanswer]
        simp [answersTo, Ne.symm hc]
    · rw [List.map_cons, hflags, hfilter, BoundaryStep.flag?, houtcome, installAnswers]
      cases hcall : t.call.isInstall <;> simp [hflag, hcall]

omit [DecidableEq Client] in
/-- The ledger has the handles that are on the desks, and no others. -/
theorem kindAt_eq_some_iff (h : s.Serves desks) {a : Address} {name : String} :
    s.shared.ledger.kindAt a = some name ↔
      ∃ c n kind, (desks c).holdings.kindOf n = some kind ∧ kind.name = name ∧
        s.address c n = a := by
  rw [h.coherent.kinds]
  constructor
  · intro hkind
    obtain ⟨cell, hcell, rfl⟩ := Option.map_eq_some_iff.mp hkind
    obtain ⟨⟨c, n⟩, hheld, hplace⟩ := h.placed.owned a cell hcell
    exact ⟨c, n, cell.kind, congrArg (Option.map Cell.kind) hheld, rfl, hplace⟩
  · rintro ⟨c, n, kind, hheld, rfl, rfl⟩
    obtain ⟨cell, hcell, rfl⟩ := Option.map_eq_some_iff.mp hheld
    exact congrArg (Option.map _) (h.placed.found (c, n) cell hcell)

omit [DecidableEq Client] in
/-- Handles on the desks have addresses of their own. -/
theorem address_apart (h : s.Serves desks) {c c' : Client} {n n' : Address}
    (hn : (desks c).holdings.kindOf n ≠ none) (hn' : (desks c').holdings.kindOf n' ≠ none)
    (heq : s.address c n = s.address c' n') : c = c' ∧ n = n' := by
  have hheld : ∀ {c n}, (desks c).holdings.kindOf n ≠ none → (desks c).own.cells n ≠ none :=
    fun hkind hnone => hkind (congrArg (Option.map Cell.kind) hnone)
  exact Prod.mk.inj (h.placed.apart (c, n) (c', n') (hheld hn) (hheld hn') heq)

end Serves

/-- What a client holds after its turns. -/
def holdingsAfter (c : Client) (turns : List (Turn Client)) : Holdings :=
  Holdings.empty.afterAll ((sequence c turns).map Prod.snd)

/-- The inputs of a turn have the texts of the call. -/
theorem hasTexts_of_mem_sequence {turns : List (Turn Client)}
    (texts : ∀ t ∈ turns, t.call.HasTexts t.world) {c : Client} {input : Surroundings × Call}
    (h : input ∈ sequence c turns) : input.2.HasTexts input.1 := by
  obtain ⟨t, ht, rfl⟩ := List.mem_map.mp h
  have htexts := texts t (List.mem_of_mem_filter ht)
  exact ⟨htexts.present, htexts.uncut⟩

/-- **Clients on handles of their own do not influence each other**, whatever the schedule. Let each
client use only handles that it was given and has not given back, each as what it is, and let the
texts be there.

- No call ends the program: all turns are taken, and all have a reply.
- Each client has the answers that it has when it calls alone, wherever the allocator puts its
  payloads then. What a client is given may have been given back by another one before.
- The event filter is the one thing that they share: the first installation of all succeeds, the
  others do not.
- In the end the live handles in the ledger are those that the clients hold, under their kinds, and
  each has an address of its own. -/
theorem clients_are_isolated (turns : List (Turn Client))
    (honest : (Scene.empty : Scene Client).Honest turns)
    (disciplined : ∀ c, Holdings.empty.Disciplined ((sequence c turns).map Prod.snd))
    (texts : ∀ t ∈ turns, t.call.HasTexts t.world) :
    (Scene.empty.run turns).map Prod.fst = turns.map Turn.client ∧
    (∀ step ∈ Scene.empty.run turns, ∃ reply, step.2.outcome = .ok reply) ∧
    (∀ c (alone : List (Turn Client)), (∀ t ∈ alone, t.client = c) →
      sequence c alone = sequence c turns → (Scene.empty : Scene Client).Honest alone →
      answersTo c (Scene.empty.run turns) = answersTo c (Scene.empty.run alone)) ∧
    (Scene.empty.run turns).map (fun step => step.2.flag?) = installAnswers false turns ∧
    (∀ a name, (Scene.empty.finish turns).shared.ledger.kindAt a = some name ↔
      ∃ c n kind, (holdingsAfter c turns).kindOf n = some kind ∧ kind.name = name ∧
        (Scene.empty.finish turns).address c n = a) ∧
    ∀ c c' n n', (holdingsAfter c turns).kindOf n ≠ none →
      (holdingsAfter c' turns).kindOf n' ≠ none →
      (Scene.empty.finish turns).address c n = (Scene.empty.finish turns).address c' n' →
      c = c' ∧ n = n' := by
  have hdesks := fun c => Desk.run_of_disciplined Desk.numbered_empty (disciplined c) fun _ hin =>
    hasTexts_of_mem_sequence texts hin
  choose replies last hruns hheld using hdesks
  obtain ⟨hclients, hends, hanswers, hflags, hlast⟩ := Serves.empty.run honest hruns
  refine ⟨hclients, hends, fun c alone hown hsame halone => ?_, hflags, fun a name => ?_, ?_⟩
  · -- alone, the desk of the client is the same, and those of all others stay empty
    have halones : ∀ c', Desk.empty.run (sequence c' alone) =
        .ok (Function.update (fun _ => []) c (replies c) c',
          Function.update (fun _ => Desk.empty) c (last c) c') := by
      intro c'
      by_cases hc : c' = c
      · rw [hc, Function.update_self, Function.update_self, hsame]
        exact hruns c
      · have hnone : alone.filter (·.client = c') = [] :=
          List.filter_eq_nil_iff.mpr fun t ht => by simp [hown t ht, Ne.symm hc]
        rw [Function.update_of_ne hc, Function.update_of_ne hc, sequence, hnone]
        rfl
    obtain ⟨-, -, halone, -⟩ := Serves.empty.run halone halones
    rw [hanswers c, halone c, Function.update_self]
  · rw [hlast.kindAt_eq_some_iff]
    simp only [hheld]
    rfl
  · intro c c' n n' hn hn' heq
    rw [holdingsAfter] at hn hn'
    exact hlast.address_apart (by rw [hheld]; exact hn) (by rw [hheld]; exact hn') heq

/-- A text is put where the counter of another client was. Alone, it would lie elsewhere. -/
theorem clients_are_isolated_reused_address :
    ∃ turns alone : List (Turn Bool), (Scene.empty : Scene Bool).Honest turns ∧
      (∀ c, Holdings.empty.Disciplined ((sequence c turns).map Prod.snd)) ∧
      (∀ t ∈ turns, t.call.HasTexts t.world) ∧
      (∀ t ∈ alone, t.client = false) ∧ sequence false alone = sequence false turns ∧
      (Scene.empty : Scene Bool).Honest alone ∧
      (Scene.empty.run turns).map (fun step => step.2.outcome) =
        [.ok (.handle .counter 16), .ok .nothing, .ok (.handle .text 16), .ok (.integer 2)] ∧
      (Scene.empty.run alone).map (fun step => step.2.outcome) =
        [.ok (.handle .text 32), .ok (.integer 2)] ∧
      answersTo false (Scene.empty.run turns) = answersTo false (Scene.empty.run alone) := by
  let world (fresh : Address) : Surroundings := ⟨fresh, ⟨0, 0⟩, none, none⟩
  let turns : List (Turn Bool) :=
    [⟨true, world 16, .counterNew IntType.int64.zero⟩, ⟨true, world 32, .counterDrop 1⟩,
      ⟨false, world 16, .textNew (some [0x68, 0x69, 0])⟩, ⟨false, world 32, .textLength 1⟩]
  let alone : List (Turn Bool) :=
    [⟨false, world 32, .textNew (some [0x68, 0x69, 0])⟩, ⟨false, world 16, .textLength 1⟩]
  have honest : (Scene.empty : Scene Bool).Honest turns :=
    ⟨⟨by decide, by rfl⟩, ⟨by decide, by rfl⟩, ⟨by decide, by rfl⟩, ⟨by decide, by rfl⟩, trivial⟩
  have halone : (Scene.empty : Scene Bool).Honest alone :=
    ⟨⟨by decide, by rfl⟩, ⟨by decide, by rfl⟩, trivial⟩
  have disciplined : ∀ c, Holdings.empty.Disciplined ((sequence c turns).map Prod.snd) := by
    intro c
    cases c with
    | false => exact ⟨nofun, fun _ _ h => by cases h; exact .inl rfl, trivial⟩
    | true => exact ⟨nofun, fun _ _ h => by cases h; exact .inl rfl, trivial⟩
  have texts : ∀ t ∈ turns, t.call.HasTexts t.world := by
    simp only [turns, List.forall_mem_cons]
    exact ⟨⟨rfl, nofun⟩, ⟨rfl, nofun⟩, ⟨rfl, nofun⟩, ⟨rfl, nofun⟩,
      fun _ h => absurd h List.not_mem_nil⟩
  have hown : ∀ t ∈ alone, t.client = false := by
    simp [alone]
  have hsame : sequence false alone = sequence false turns := rfl
  have hreplies : (Scene.empty.run turns).map (fun step => step.2.outcome) =
      [.ok (.handle .counter 16), .ok .nothing, .ok (.handle .text 16), .ok (.integer 2)] := by
    decide +kernel
  have hreply : (Scene.empty.run alone).map (fun step => step.2.outcome) =
      [.ok (.handle .text 32), .ok (.integer 2)] := by
    decide +kernel
  exact ⟨turns, alone, honest, disciplined, texts, hown, hsame, halone, hreplies, hreply,
    (clients_are_isolated turns honest disciplined texts).2.2.1 false alone hown hsame halone⟩

/-- The filter is one for all: the second client is turned down, though alone it would not be. And a
missing text ends the program, though no handle is at fault. -/
theorem clients_share_filter :
    (∃ turns alone : List (Turn Bool), (Scene.empty : Scene Bool).Honest turns ∧
      (∀ c, Holdings.empty.Disciplined ((sequence c turns).map Prod.snd)) ∧
      (∀ t ∈ alone, t.client = false) ∧ sequence false alone = sequence false turns ∧
      (Scene.empty : Scene Bool).Honest alone ∧
      turns.map Turn.call = [.logInit none, .logInit none] ∧
      (Scene.empty.run turns).map (fun step => (step.1, step.2.outcome)) =
        [(true, .ok (.flag true)), (false, .ok (.flag false))] ∧
      (Scene.empty.run alone).map (fun step => step.2.outcome) = [.ok (.flag true)]) ∧
    ∃ turns : List (Turn Bool), (Scene.empty : Scene Bool).Honest turns ∧
      (∀ c, Holdings.empty.Disciplined ((sequence c turns).map Prod.snd)) ∧
      (Scene.empty.run turns).map (fun step => step.2.outcome) =
        [.error ⟨"RString_new", .nullArgument "text"⟩] := by
  let world : Surroundings := ⟨16, ⟨0, 0⟩, none, none⟩
  constructor
  · let turns : List (Turn Bool) := [⟨true, world, .logInit none⟩, ⟨false, world, .logInit none⟩]
    let alone : List (Turn Bool) := [⟨false, world, .logInit none⟩]
    have honest : (Scene.empty : Scene Bool).Honest turns :=
      ⟨⟨by decide, by rfl⟩, ⟨by decide, by rfl⟩, trivial⟩
    have halone : (Scene.empty : Scene Bool).Honest alone := ⟨⟨by decide, by rfl⟩, trivial⟩
    have disciplined : ∀ c, Holdings.empty.Disciplined ((sequence c turns).map Prod.snd) := by
      intro c
      cases c with
      | false => exact ⟨nofun, trivial⟩
      | true => exact ⟨nofun, trivial⟩
    have hown : ∀ t ∈ alone, t.client = false := by
      simp [alone]
    exact ⟨turns, alone, honest, disciplined, hown, rfl, halone, rfl, rfl, rfl⟩
  · let turns : List (Turn Bool) := [⟨true, world, .textNew none⟩]
    have honest : (Scene.empty : Scene Bool).Honest turns := ⟨⟨by decide, by rfl⟩, trivial⟩
    have disciplined : ∀ c, Holdings.empty.Disciplined ((sequence c turns).map Prod.snd) := by
      intro c
      cases c with
      | false => exact trivial
      | true => exact ⟨nofun, trivial⟩
    exact ⟨turns, honest, disciplined, rfl⟩

end Scene

end OwnedHandles
