import OwnedHandles.Proofs.Boundary.Refinement
import OwnedHandles.Proofs.Clock.Attempts

/-!
# Rendered durations as handles

- `BoundaryStep.HandsOutText`: a call gives back the handle of a new text, with just the characters
  of a string.
- `Boundary.Coherent.handsOutText`: where the store hands such a text out, so does the boundary.
- `Duration.render_becomes_handle`: every duration is rendered in every style without fault, and the
  calls that render it hand out its text.
-/

namespace OwnedHandles

/-- The call gives back the handle of a text at an address. The bytes of just these characters lie
there, and the ledger approves of the handle. -/
structure BoundaryStep.HandsOutText (s : BoundaryStep) (address : Address) (text : String) :
    Prop where
  outcome : s.outcome = .ok (.handle .text address)
  stored : s.after.heap[address]? = some ⟨.text, ⟨Utf8.encode text.toList⟩⟩
  approved : s.after.ledger.check Kind.text.name address = .ok ()

namespace Boundary.Coherent

variable {b : Boundary} {world : Surroundings} {call : Call} {handle : Address} {d : Duration}

/-- **A text that the store hands out is handed out**, and found under its handle. -/
theorem handsOutText (h : b.Coherent) (hfresh : b.Offers world.freshAddress) {text : String}
    (hstore : b.view.step world call = .ok (b.view.handOutText world.freshAddress text)) :
    (b.step world call).HandsOutText world.freshAddress text := by
  have hshows := h.step hfresh call
  rw [hstore] at hshows
  obtain ⟨houtcome, hview⟩ := hshows.outcome_eq
  have hstored : (b.step world call).after.heap[world.freshAddress]? =
      some ⟨.text, ⟨Utf8.encode text.toList⟩⟩ := by
    show (b.step world call).after.view.cells world.freshAddress = _
    rw [hview]
    exact if_pos rfl
  refine ⟨houtcome, hstored, (Ledger.check_eq_ok_iff _ _ _).mpr ?_⟩
  rw [hshows.coherent.kinds, hstored]
  rfl

/-- A live duration is there for every call that uses one. -/
theorem use_duration (h : b.Coherent) (hlive : b.heap[handle]? = some ⟨.duration, d⟩)
    (result : Duration → Answer) : b.view.use .duration handle result = .ok (result d) := by
  have hne : handle ≠ nullAddress := by
    rintro rfl
    rw [h.null] at hlive
    cases hlive
  have hfound : b.view.demand .duration handle = .ok d := by
    rw [Store.demand_eq_ok_iff]
    exact ⟨hne, hlive⟩
  exact Store.use_eq_ok_iff.mpr ⟨d, hfound, rfl⟩

/-- A live duration is handed out as its text, in the style that is asked for. -/
theorem durationRenderWith (h : b.Coherent) (hfresh : b.Offers world.freshAddress)
    (hlive : b.heap[handle]? = some ⟨.duration, d⟩) (choice : UnitChoice) (places : ℕ) :
    (b.step world (.durationRenderWith handle choice places)).HandsOutText world.freshAddress
      (d.render (RenderStyle.ofPlaces choice places)) :=
  h.handsOutText hfresh (h.use_duration hlive _)

/-- A live duration is handed out as its text, in the style where none is asked for. -/
theorem durationRender (h : b.Coherent) (hfresh : b.Offers world.freshAddress)
    (hlive : b.heap[handle]? = some ⟨.duration, d⟩) :
    (b.step world (.durationRender handle)).HandsOutText world.freshAddress
      (d.render RenderStyle.default) :=
  h.handsOutText hfresh (h.use_duration hlive _)

end Boundary.Coherent

/-- **Every duration is rendered without fault and becomes a handle**, in every unit and with any
number of places asked for.

- Rendering ends after at most two passes with the rendered text, and in no other way. No pass asks
  the open choice for its length or suffix, leaves the bits of the whole part, or cuts a text where
  it has no cut.
- For in every unit the text of the rest begins with a nought or a one, behind which there is
  nothing, or a point and digits; and the whole part has room for a carry.
- The text has no zero byte. So wherever a run of calls has left the duration live, both calls that
  render it hand out a new text with just its characters. -/
theorem Duration.render_becomes_handle (d : Duration) (choice : UnitChoice) (places : ℕ) :
    (∃ passes, passes ≤ 2 ∧
      d.RendersFrom (RenderStyle.ofPlaces choice places) (choice.resolved d) passes
        (d.render (RenderStyle.ofPlaces choice places)).toList ∧
      ∀ passes' text,
        d.RendersFrom (RenderStyle.ofPlaces choice places) (choice.resolved d) passes' text →
        passes' = passes ∧ text = (d.render (RenderStyle.ofPlaces choice places)).toList) ∧
    (∀ unit, ∃ c digits, (c = '0' ∨ c = '1') ∧
      Magnitude.fractionText d.nanos unit (RenderStyle.ofPlaces choice places).places =
        c :: Decimal.behindPoint digits ∧
      digits.length = (RenderStyle.ofPlaces choice places).places ∧
      ∀ x ∈ digits, x.isDigit = true) ∧
    (∀ unit : TimeUnit, d.nanos / unit.nanosPerUnit + 1 < Arith.twoPow 128) ∧
    0 ∉ Utf8.encode (d.render (RenderStyle.ofPlaces choice places)).toList ∧
    ∀ calls, Boundary.empty.Honest calls → ∀ s ∈ Boundary.empty.run calls,
      ∀ world : Surroundings, s.after.Offers world.freshAddress →
      ∀ handle, s.after.heap[handle]? = some ⟨.duration, d⟩ →
        (s.after.step world (.durationRenderWith handle choice places)).HandsOutText
          world.freshAddress (d.render (RenderStyle.ofPlaces choice places)) ∧
        (s.after.step world (.durationRender handle)).HandsOutText
          world.freshAddress (d.render RenderStyle.default) := by
  obtain ⟨passes, hpasses, hrenders⟩ := d.rendersFrom_resolved (RenderStyle.ofPlaces choice places)
  have htext := d.ofString_render (RenderStyle.ofPlaces choice places)
  refine ⟨⟨passes, hpasses, hrenders, fun passes' text => hrenders.unique⟩, fun unit => ?_,
    d.whole_add_one_lt, ((CText.ofBytes_eq_ok_iff _ _).mp htext).1,
    fun calls honest s hs world hfresh handle hlive => ?_⟩
  · exact Magnitude.fractionText_eq_cons d.nanos unit (RenderStyle.places_le _)
  · have hcoherent := (Boundary.coherent_empty.run honest).2 s hs
    exact ⟨hcoherent.durationRenderWith hfresh hlive choice places,
      hcoherent.durationRender hfresh hlive⟩

end OwnedHandles
