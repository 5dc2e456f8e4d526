import Beamline.Proofs.Invocations

/-!
What a messenger counts as delivered, compared with what its delegates accepted.
-/

namespace Beamline.Bus

/-- The invocations that accepted a message. -/
def acceptances (effects : List Effect) : Nat :=
  (effects.flatMap Effect.invocations).countP Invocation.isAccepted

theorem acceptances_append (earlier later : List Effect) :
    acceptances (earlier ++ later) = acceptances earlier + acceptances later := by
  simp [acceptances]

/-- Every acceptance is in a dispatch that completed or in one that was aborted. -/
theorem acceptances_split (effects : List Effect) (chosen : Effect → Bool) :
    acceptances (effects.filter chosen) + acceptances (effects.filter fun effect => !chosen effect) =
      acceptances effects := by
  rw [← acceptances_append]
  have permuted := List.filter_append_perm chosen effects
  exact (permuted.flatMap_right Effect.invocations).countP_eq _

private theorem acceptances_eq_zero_iff {effects : List Effect} :
    acceptances effects = 0 ↔
      ∀ effect ∈ effects, effect.invocations.countP Invocation.isAccepted = 0 := by
  simp only [acceptances, List.countP_eq_zero, List.mem_flatMap]
  constructor
  · intro none effect member invocation invoked
    exact none invocation ⟨effect, member, invoked⟩
  · intro none invocation invoked
    obtain ⟨effect, member, present⟩ := invoked
    exact none effect member invocation present

/-! ## What one operation counts -/

/-- An aborted dispatch adds to the failures alone, whatever was accepted before the error. -/
theorem Usage.stats_step (usage : Usage) (operation : Operation) :
    (usage.step operation).2.bus.messenger.stats.deliveries =
        usage.bus.messenger.stats.deliveries +
          acceptances ([usage.effect operation].filter fun effect => !effect.isAborted) ∧
      (usage.step operation).2.bus.messenger.stats.failed =
        usage.bus.messenger.stats.failed + [usage.effect operation].countP Effect.isAborted := by
  have uncounted {later : Stats} (deliveries : later.deliveries =
      usage.bus.messenger.stats.deliveries) (failed : later.failed =
      usage.bus.messenger.stats.failed) {effect : Effect} (idle : effect.invocations = []) :
      later.deliveries = usage.bus.messenger.stats.deliveries +
          acceptances ([effect].filter fun effect => !effect.isAborted) ∧
        later.failed =
          usage.bus.messenger.stats.failed + [effect].countP Effect.isAborted := by
    simp [deliveries, failed, Effect.isAborted, acceptances, idle]
  cases operation with
  | register label receiver binding flags =>
    simp only [Usage.step, Usage.register]
    cases refusal : usage.bus.messenger.refusal binding flags with
    | some reason =>
      rw [register_of_refused refusal]
      exact uncounted rfl rfl rfl
    | none =>
      rw [register_of_suitable refusal]
      exact uncounted rfl rfl rfl
  | remove label =>
    simp only [Usage.step, Usage.withHandle]
    cases usage.kept[label]? with
    | none => exact uncounted rfl rfl rfl
    | some handle =>
      simp only [Bus.remove, Messenger.remove]
      rcases usage.bus.messenger.registry.erase handle with ⟨_ | fault, registry⟩ <;>
        exact uncounted rfl rfl rfl
  | reset label =>
    simp only [Usage.step, Usage.withHandle, Usage.effect]
    cases usage.kept[label]? <;> exact uncounted rfl rfl rfl
  | inspect label =>
    simp only [Usage.step, Usage.withHandle, Usage.effect]
    cases usage.kept[label]? <;> exact uncounted rfl rfl rfl
  | dispatch source message name =>
    simp only [Usage.step, Usage.effect]
    rcases delivered : deliver usage.bus.store message name
      (usage.bus.messenger.candidates source message name) with ⟨error | count, store⟩
    · have aborted := invocations_of_error delivered
      rw [dispatch_of_error delivered]
      simp [Effect.isAborted, Effect.invocations, handed, aborted, acceptances]
    · obtain ⟨_, counted, completed⟩ := invocations_of_ok delivered
      rw [dispatch_of_ok delivered]
      simp [Effect.isAborted, Effect.invocations, handed, completed, counted, acceptances]
  | hasReceiver source message name => exact uncounted rfl rfl rfl
  | read slot => exact uncounted rfl rfl rfl
  | drain slot => exact uncounted rfl rfl rfl
  | resetSlot slot => exact uncounted rfl rfl rfl
  | sentMessages lane => exact uncounted rfl rfl rfl
  | clearSent lane => exact uncounted rfl rfl rfl

/-! ## What a run counts -/

namespace Exchange

/-- What the requests to one messenger do. -/
def effectsOf (exchange : Exchange) (requests : List Request) (number : Nat) : List Effect :=
  ((exchange.stages requests).filter fun stage => stage.2.messenger == number).map fun stage =>
    (stage.1.usage number).effect stage.2.operation

private theorem effectsOf_append (exchange : Exchange) (earlier later : List Request)
    (number : Nat) :
    exchange.effectsOf (earlier ++ later) number =
      exchange.effectsOf earlier number ++ (exchange.after earlier).effectsOf later number := by
  simp [effectsOf, stages_append]

theorem stats_after (requests : List Request) (number : Nat) :
    let stats := ((fresh.after requests).bus number).messenger.stats
    let effects := fresh.effectsOf requests number
    stats.deliveries = acceptances (effects.filter fun effect => !effect.isAborted) ∧
      stats.failed = effects.countP Effect.isAborted := by
  induction requests using List.reverseRecOn with
  | nil => exact ⟨rfl, rfl⟩
  | append_singleton requests request ih =>
    obtain ⟨deliveries, failed⟩ := ih
    simp only [after_append, effectsOf_append, List.filter_append, List.countP_append,
      acceptances_append]
    -- A request to another messenger neither adds an effect of this one nor changes its counters.
    by_cases same : request.messenger = number
    · subst same
      have counted := Usage.stats_step ((fresh.after requests).usage request.messenger)
        request.operation
      rw [← perform_bus_self] at counted
      have alone : (fresh.after requests).effectsOf [request] request.messenger =
          [((fresh.after requests).usage request.messenger).effect request.operation] := by
        simp [effectsOf, stages]
      rw [alone, ← deliveries, ← failed]
      exact counted
    · have kept := perform_bus_other (fresh.after requests) request (Ne.symm same)
      have none : (fresh.after requests).effectsOf [request] number = [] := by
        simp [effectsOf, stages, same]
      rw [none]
      have stats := congrArg Messenger.stats kept
      exact ⟨(congrArg Stats.deliveries stats).trans deliveries,
        (congrArg Stats.failed stats).trans failed⟩

end Exchange

/-- A messenger counts as delivered what its delegates accepted in dispatches that completed. What
they accepted in dispatches that were aborted is lost to the count. -/
theorem deliveries_add_lost (requests : List Request) (number : Nat) :
    let stats := ((Exchange.fresh.after requests).bus number).messenger.stats
    let effects := Exchange.fresh.effectsOf requests number
    let lost := acceptances (effects.filter Effect.isAborted)
    stats.deliveries + lost = acceptances effects ∧
      stats.failed = effects.countP Effect.isAborted ∧
      (stats.deliveries = acceptances effects ↔ ∀ effect ∈ effects, effect.isAborted = true →
        effect.invocations.countP Invocation.isAccepted = 0) := by
  intro stats effects lost
  obtain ⟨deliveries, failed⟩ := Exchange.stats_after requests number
  have total : stats.deliveries + lost = acceptances effects := by
    rw [← acceptances_split effects Effect.isAborted, Nat.add_comm]
    exact congrArg (lost + ·) deliveries
  refine ⟨total, failed, ?_⟩
  have complete : stats.deliveries = acceptances effects ↔ lost = 0 := by omega
  rw [complete, acceptances_eq_zero_iff]
  simp only [List.mem_filter, and_imp]

/-- A single slot behind another slot: what the other one stores once the single slot is filled is
not counted. -/
theorem deliveries_miss_aborted :
    let reader : Identity := { number := 0, name := "reader" }
    let every : Slot := { number := 0, kind := .multi, payload := .track }
    let last : Slot := { number := 1, kind := .single, payload := .track }
    let message : Message := { payload := .tracks [] }
    let requests : List Request := [
      { messenger := 0, operation := .register "every" reader (.slot every) {} },
      { messenger := 0, operation := .register "last" reader (.slot last) {} },
      { messenger := 0, operation := .dispatch reader message "" },
      { messenger := 0, operation := .dispatch reader message "" }]
    ((Exchange.fresh.after requests).bus 0).messenger.stats.deliveries = 2 ∧
      acceptances (Exchange.fresh.effectsOf requests 0) = 3 := by
  intro reader every last message requests
  have unused : (Exchange.fresh.bus 0).Sound [] [] := Exchange.sound_after [] 0
  obtain ⟨_, storeOne, boundOne⟩ := Exchange.bind_slot unused "every" reader every {} rfl
    (by simp)
  obtain ⟨_, store, bound⟩ := Exchange.bind_slot boundOne "last" reader last {} rfl
    (by simp [every, last])
  have counted := (Exchange.stats_after requests 0).1
  simp only [requests, Exchange.effectsOf, Exchange.stages, Exchange.after, List.foldl]
    at counted ⊢
  generalize (Exchange.fresh.perform _).2 = one at *
  generalize (one.perform _).2 = both at *
  have empty : (both.bus 0).store = {} := store.trans storeOne
  have candidates : (both.bus 0).messenger.candidates reader message "" =
      [.ofSlot 0 reader every {}, .ofSlot 1 reader last {}] :=
    (bound.lists.candidates_eq reader message "").trans (by
      simp [Handle.ofSlot, Delegate.IsTyped, Delegate.Wants, Binding.payload, reader, every, last,
        message, Message.type, Payload.type])
  have handed : (both.bus 0).handed reader message "" =
      [{ handle := .ofSlot 0 reader every {}, result := .ok true },
        { handle := .ofSlot 1 reader last {}, result := .ok true }] := by
    rw [Bus.handed, candidates, empty]
    simp [invocations, Handle.process, Handle.ofSlot, every, last, message, Message.type,
      Payload.type, Store.put, Store.isFilled]
  -- The second dispatch meets the same candidates, and the single slot filled.
  obtain ⟨registry, _, stored⟩ := dispatch_frame (both.bus 0) reader message ""
  rw [candidates, empty] at stored
  have again : ((both.perform { messenger := 0, operation := .dispatch reader message "" }).2.bus
        0).handed reader message "" =
      [{ handle := .ofSlot 0 reader every {}, result := .ok true },
        { handle := .ofSlot 1 reader last {},
          result := .error ((Handle.ofSlot 1 reader last {}).refused "") }] := by
    rw [Exchange.perform_bus_self both { messenger := 0, operation := .dispatch reader message "" }]
    simp only [Usage.step, Exchange.usage]
    rw [Bus.handed, stored, Messenger.candidates, registry, ← Messenger.candidates, candidates]
    simp [deliver, invocations, Handle.process, Handle.ofSlot, every, last, message, Message.type,
      Payload.type, Store.put, Store.isFilled]
  simp [Usage.effect, Exchange.usage, handed, again, Effect.isAborted, Invocation.isFailed,
    Effect.invocations, acceptances] at counted ⊢
  exact ⟨counted.trans rfl, rfl⟩

end Beamline.Bus
