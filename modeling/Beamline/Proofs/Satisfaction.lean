import Beamline.Bus.Bindings
import Beamline.Proofs.PlaceHistory

/-!
Whether a binding counts as satisfied, told from what happened to its place: a message was accepted
there since the place was last emptied. Taking what a slot holds empties it like a reset does.
-/

namespace Beamline.Bus

/-- Whether a message was accepted in a place after the last effect of those that are looked for. -/
def acceptedSince (sought : Place → Effect → Bool) (effects : List Effect) (place : Place) : Bool :=
  (since (sought place) effects).any (Effect.accepted place)

section Step

variable {usage : Usage} {operation : Operation} {place : Place}

/-- What is kept in a place after a dispatch was there before or was accepted in it. -/
theorem Touched.keeps {bus : Bus} {source : Identity} {message : Message} {name : String}
    (touched : bus.Touched source message name place) :
    (bus.dispatch source message name).2.store.keeps place = (bus.store.keeps place ||
      (Effect.dispatched message (bus.handed source message name)).accepted place) := by
  cases touched with
  | handled handle accepted _ kept _ received alone =>
    subst kept
    rw [received.keeps, Effect.accepted, alone]
    simp [Invocation.isAccepted]
  | refused handle _ _ _ same _ alone =>
    rw [same.keeps, Effect.accepted, alone]
    simp [Invocation.isAccepted]
  | missed same alone =>
    rw [same.keeps, Effect.accepted, alone]
    simp

/-- An operation empties a place, or adds what is accepted there to what it keeps. -/
theorem StepAt.keeps (step : StepAt usage operation place)
    (unused : place = .filter usage.bus.store.next → usage.bus.store.keeps place = false) :
    (usage.step operation).2.bus.store.keeps place =
      if (usage.effect operation).empties place then false
      else usage.bus.store.keeps place || (usage.effect operation).accepted place := by
  cases step with
  | emptied empties bare => simp [empties, bare]
  | dispatched source message name dispatch touched =>
    subst dispatch
    exact touched.keeps
  | made quiet same bare =>
    rw [quiet, bare, unused same]
    rfl
  | left undone unreached same =>
    simp [undone, same.keeps, Effect.accepted, unreached]

end Step

namespace Exchange

theorem unused_after (requests : List Request) (number : Nat)
    (unused : (fresh.after requests).store.next ≤ number) :
    (fresh.after requests).store.keeps (.filter number) = false := by
  induction requests using List.reverseRecOn with
  | nil => simp [Exchange.after, fresh, Store.keeps, Store.filterState]
  | append_singleton requests request ih =>
    rw [after_concat] at unused ⊢
    have grown := next_le_perform (fresh.after requests) request
    have before := ih (Nat.le_trans grown unused)
    cases step_at requests request (.filter number) with
    | emptied _ bare => exact bare
    | made _ _ bare => exact bare
    | left _ _ same => exact same.keeps.trans before
    | dispatched source message name dispatch touched =>
      rw [perform_store, dispatch]
      cases touched with
      | refused _ _ _ _ same => exact same.keeps.trans before
      | missed same => exact same.keeps.trans before
      | handled handle _ candidate kept =>
        -- Registered filters have lower numbers.
        have sound := sound_after requests request.messenger
        have returned := sound.registered.subset (sound.lists.mem_candidates.mp candidate).1
        have below := sound.installed handle returned number kept
        exact absurd (Nat.lt_of_lt_of_le below (Nat.le_trans grown unused)) (Nat.lt_irrefl _)

/-- A place keeps something just if a message was accepted in it since it was last emptied. -/
theorem keeps_after (requests : List Request) (place : Place) :
    (fresh.after requests).store.keeps place =
      acceptedSince Effect.empties (fresh.effects requests) place := by
  unfold acceptedSince
  induction requests using List.reverseRecOn with
  | nil =>
    cases place with
    | slot slot => simp [Exchange.after, fresh, Store.keeps, effects, stages, since]
    | filter number => exact unused_after [] number (Nat.zero_le _)
  | append_singleton requests request ih =>
    -- The place of a filter that the request registers was never touched before.
    have unused : place = .filter (fresh.after requests).store.next →
        (fresh.after requests).store.keeps place = false := by
      rintro rfl
      exact unused_after requests _ (Nat.le_refl _)
    have stepped := (step_at requests request place).keeps unused
    rw [after_concat, effects_concat, since_concat, perform_store, stepped]
    split
    · rfl
    · rw [List.any_append, ← ih]
      simp

end Exchange

/-! ## Resets and other ways of emptying -/

theorem Effect.empties_of_resets {place : Place} (effect : Effect)
    (resets : effect.resets place = true) : effect.empties place = true := by
  cases effect with
  | reset other => exact resets
  | _ => cases resets

theorem Effect.empties_filter (effect : Effect) (number : Nat) :
    effect.empties (.filter number) = effect.resets (.filter number) := by
  cases effect <;> simp [Effect.empties, Effect.resets]

private theorem acceptedSince_resets {effects : List Effect} {place : Place}
    (accepted : acceptedSince Effect.empties effects place = true) :
    acceptedSince Effect.resets effects place = true := by
  obtain ⟨effect, member, yes⟩ := List.any_eq_true.mp accepted
  have suffix := since_suffix (@Effect.empties_of_resets place) effects
  exact List.any_eq_true.mpr ⟨effect, suffix.subset member, yes⟩

private theorem acceptedSince_eq_of_undrained {effects : List Effect} {place : Place}
    (undrained : ∀ effect ∈ since (Effect.resets place) effects, effect.empties place = false) :
    acceptedSince Effect.empties effects place = acceptedSince Effect.resets effects place := by
  unfold acceptedSince
  rw [since_eq_of_absent Effect.empties_of_resets undrained]

theorem unmetRequirement_eq (handle : Handle) (store : Store) :
    handle.unmetRequirement store =
      if handle.isRequired && !handle.isSatisfied store then some handle.unmet else none := by
  unfold Handle.unmetRequirement
  cases handle.isRequired <;> cases handle.isSatisfied store <;> rfl

/-- If no other delegate was registered with a place, what is accepted there is accepted by the
delegate. -/
theorem Exchange.accepted_iff_of_alone {requests : List Request} {handle : Handle}
    (alone : ∀ registration ∈ fresh.registrations requests,
      registration.2.place = handle.place → registration.2 = handle)
    {effect : Effect} (member : effect ∈ fresh.effects requests) :
    effect.accepted handle.place = true ↔
      ∃ invocation ∈ effect.invocations, invocation.handle = handle ∧
        invocation.isAccepted = true := by
  simp only [Effect.accepted, Effect.invokedAt, List.any_eq_true, List.mem_filter,
    decide_eq_true_eq, and_assoc]
  constructor
  · intro accepted
    obtain ⟨invocation, invoked, place, yes⟩ := accepted
    obtain ⟨number, registered⟩ := invocation_registered member invoked
    exact ⟨invocation, invoked, alone _ registered place, yes⟩
  · intro accepted
    obtain ⟨invocation, invoked, rfl, yes⟩ := accepted
    exact ⟨invocation, invoked, rfl, yes⟩

/-- Whatever was done with messengers, a delegate is satisfied just if a message was accepted in its
place since the place was last emptied, and bindings report those required delegates for which that
is not so. Resets and what was accepted since the last of them decide it for filters, and for slots
that were not drained since. -/
theorem satisfied_iff_accepted_since_emptied (requests : List Request) :
    let exchange := Exchange.fresh.after requests
    let effects := Exchange.fresh.effects requests
    (∀ handle : Handle, handle.isSatisfied exchange.store =
        acceptedSince Effect.empties effects handle.place) ∧
      (∀ number (bindings : Bindings), bindings.unmetRequirements (exchange.bus number) =
        (bindings.handles.filter fun handle =>
          handle.isRequired && !acceptedSince Effect.empties effects handle.place).map
            Handle.unmet) ∧
      (∀ place, acceptedSince Effect.empties effects place = true →
        acceptedSince Effect.resets effects place = true) ∧
      (∀ place, (∀ effect ∈ since (Effect.resets place) effects, effect.empties place = false) →
        acceptedSince Effect.empties effects place = acceptedSince Effect.resets effects place) ∧
      (∀ number, acceptedSince Effect.empties effects (.filter number) =
        acceptedSince Effect.resets effects (.filter number)) ∧
      ∀ handle : Handle, (∀ registration ∈ Exchange.fresh.registrations requests,
          registration.2.place = handle.place → registration.2 = handle) →
        ∀ effect ∈ effects, effect.accepted handle.place = true ↔
          ∃ invocation ∈ effect.invocations, invocation.handle = handle ∧
            invocation.isAccepted = true := by
  intro exchange effects
  have satisfied (handle : Handle) : handle.isSatisfied exchange.store =
      acceptedSince Effect.empties effects handle.place := by
    rw [Handle.isSatisfied_eq_keeps]
    exact Exchange.keeps_after requests handle.place
  refine ⟨satisfied, ?_, fun place => acceptedSince_resets,
    fun place => acceptedSince_eq_of_undrained, ?_, ?_⟩
  · intro number bindings
    simp only [Bindings.unmetRequirements, unmetRequirement_eq, Exchange.bus_store, satisfied]
    rw [← List.filterMap_eq_filter, List.map_filterMap]
    refine List.filterMap_congr fun handle _ => ?_
    simp only [Option.guard]
    split <;> rfl
  · intro number
    unfold acceptedSince
    rw [funext fun effect => Effect.empties_filter effect number]
  · intro handle alone effect member
    exact Exchange.accepted_iff_of_alone alone member

/-- A required slot that was filled and then drained is reported as if nothing had come. -/
theorem requirement_unmet_by_draining :
    let reader : Identity := { number := 0, name := "reader" }
    let slot : Slot := { number := 0, kind := .multi, payload := .track }
    let handle := Handle.ofSlot 0 reader slot { required := true }
    let bindings : Bindings := { identity := reader, handles := [handle] }
    let requests : List Request := [
      { messenger := 0, operation := .register "slot" reader (.slot slot) { required := true } },
      { messenger := 0, operation := .dispatch reader { payload := .tracks [] } "" },
      { messenger := 0, operation := .drain slot }]
    let exchange := Exchange.fresh.after requests
    Exchange.fresh.registrations requests = [(0, handle)] ∧
      acceptedSince Effect.resets (Exchange.fresh.effects requests) handle.place = true ∧
      handle.isSatisfied exchange.store = false ∧
      bindings.unmetRequirements (exchange.bus 0) = [handle.unmet] := by
  intro reader slot handle bindings requests exchange
  have unused : (Exchange.fresh.bus 0).Sound [] [] := Exchange.sound_after [] 0
  obtain ⟨registered, empty, bound⟩ := Exchange.bind_slot unused "slot" reader slot
    { required := true } rfl (by simp)
  have unsatisfied : handle.isSatisfied exchange.store = false := by
    rw [Handle.isSatisfied_eq_keeps]
    exact Store.keeps_resetSlot _ slot
  refine ⟨?_, ?_, unsatisfied, ?_⟩
  · simp only [requests, Exchange.registrations, Exchange.stages, List.filterMap, registered]
    rfl
  · simp only [requests, Exchange.effects, Exchange.stages]
    generalize (Exchange.fresh.perform _).2 = filled at *
    have candidates : (filled.bus 0).messenger.candidates reader { payload := .tracks [] } "" =
        [handle] :=
      (bound.lists.candidates_eq reader { payload := .tracks [] } "").trans (by
        simp [handle, Handle.ofSlot, Delegate.IsTyped, Delegate.Wants, Binding.payload, reader, slot,
          Message.type, Payload.type])
    have handed : (filled.bus 0).handed reader { payload := .tracks [] } "" =
        [{ handle, result := .ok true }] := by
      rw [handed, candidates, Exchange.bus_store, empty]
      simp [invocations, handle, Handle.process, Handle.ofSlot, slot, Message.type, Payload.type,
        Store.put]
    have accepted : Invocation.isAccepted { handle, result := .ok true } = true := rfl
    simp [Usage.effect, handed, acceptedSince, since, List.rtakeWhile, Effect.resets,
      Effect.accepted, Effect.invokedAt, Effect.invocations, accepted]
  · rw [Bindings.unmetRequirements, List.filterMap_cons, unmetRequirement_eq, Exchange.bus_store,
      unsatisfied]
    rfl

end Beamline.Bus
