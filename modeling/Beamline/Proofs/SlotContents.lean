import Beamline.Proofs.PlaceHistory

/-!
What a slot holds, told from the messages that reached it since it was last emptied.
-/

namespace Beamline.Bus

/-- The messages that were handed to a delegate with a place since the place was last emptied. -/
def reachedSince (place : Place) (effects : List Effect) : List Message :=
  (since (Effect.empties place) effects).filterMap (Effect.reached place)

namespace Slot

variable (slot : Slot) (overwrite : Bool)

/-- What a slot holds of the messages that reached it: a multi slot all of them, a single slot the
first, or the last if it may be overwritten. -/
def holding (reached : List Message) : List Message :=
  match slot.kind with
  | .multi => reached
  | .single => if overwrite then reached.getLast?.toList else reached.head?.toList

/-- What a slot holds once one more message reached it. -/
def taking (held : List Message) (message : Message) : List Message :=
  match slot.kind with
  | .multi => held ++ [message]
  | .single => if held.isEmpty || overwrite then [message] else held

theorem holding_nil : slot.holding overwrite [] = [] := by
  unfold holding
  cases slot.kind <;> cases overwrite <;> rfl

private theorem holding_concat (reached : List Message) (message : Message) :
    slot.holding overwrite (reached ++ [message]) =
      slot.taking overwrite (slot.holding overwrite reached) message := by
  unfold holding taking
  cases slot.kind with
  | multi => rfl
  | single =>
    cases overwrite with
    | true => simp
    | false => cases reached <;> simp

private theorem holding_eq_nil_iff {reached : List Message} :
    slot.holding overwrite reached = [] ↔ reached = [] := by
  unfold holding
  cases slot.kind <;> cases overwrite <;> simp

end Slot

theorem reachedSince_concat (place : Place) (effects : List Effect) (effect : Effect) :
    reachedSince place (effects ++ [effect]) =
      if effect.empties place then [] else
        reachedSince place effects ++ (effect.reached place).toList := by
  rw [reachedSince, since_concat]
  split
  · rfl
  · rw [List.filterMap_append]
    cases found : effect.reached place <;> simp [reachedSince, found]

/-- Effects that do not reach a place leave what reached it, or empty it. -/
theorem reachedSince_append_of_unreached {place : Place} {earlier later : List Effect}
    (unreached : ∀ effect ∈ later, effect.reached place = none) :
    reachedSince place (earlier ++ later) =
      if later.any (Effect.empties place) then [] else reachedSince place earlier := by
  induction later using List.reverseRecOn with
  | nil => rw [List.append_nil]; rfl
  | append_singleton later effect ih =>
    have before := ih fun other member => unreached other (List.mem_append_left _ member)
    have last : effect.reached place = none := unreached effect (by simp)
    rw [← List.append_assoc, reachedSince_concat, before, last, List.any_append]
    cases emptied : effect.empties place with
    | true => simp [emptied]
    | false => simp [emptied]

/-! ## One operation -/

section Step

variable {slot : Slot} {overwrite : Bool}

theorem Handle.slot_of_place {handle : Handle} (kept : handle.place = .slot slot) :
    handle.delegate.binding = .slot slot := by
  unfold Handle.place at kept
  cases bound : handle.delegate.binding with
  | slot storage =>
    rw [bound] at kept
    cases kept
    rfl
  | filter payload installed =>
    rw [bound] at kept
    cases kept
  | anyFilter installed =>
    rw [bound] at kept
    cases kept

theorem Handle.blocked_iff {handle : Handle} (kept : handle.place = .slot slot) {store : Store} :
    handle.Blocked store ↔ slot.kind = .single ∧ handle.delegate.flags.allowOverwrite = false ∧
      store.contents slot ≠ [] := by
  constructor
  · intro blocked
    obtain ⟨other, place, single, forbidden, filled⟩ := blocked
    rw [kept] at place
    cases place
    exact ⟨single, forbidden, by simpa [Store.isFilled] using filled⟩
  · intro full
    obtain ⟨single, forbidden, filled⟩ := full
    exact ⟨slot, kept, single, forbidden, by simpa [Store.isFilled] using filled⟩

/-- A slot takes a message that reaches it, or refuses it and keeps what it has. -/
theorem Touched.contents {bus : Bus} {source : Identity} {message : Message} {name : String}
    (touched : bus.Touched source message name (.slot slot))
    (agree : ∀ handle ∈ bus.messenger.candidates source message name,
      handle.place = .slot slot → handle.delegate.flags.allowOverwrite = overwrite) :
    (bus.dispatch source message name).2.store.contents slot =
      ((Effect.dispatched message (bus.handed source message name)).reached (.slot slot)).elim
        (bus.store.contents slot) (slot.taking overwrite (bus.store.contents slot)) := by
  cases touched with
  | handled handle accepted candidate kept opened received alone =>
    have reached : (Effect.dispatched message (bus.handed source message name)).reached
        (.slot slot) = some message := by simp [Effect.reached, alone]
    unfold Handle.Received at received
    rw [Handle.slot_of_place kept] at received
    rw [Handle.blocked_iff kept, agree handle candidate kept] at opened
    rw [reached, received.2, Option.elim_some, Slot.taking]
    cases kind : slot.kind with
    | multi => rfl
    | single =>
      cases overwrite with
      | true => simp
      | false =>
        have bare : bus.store.contents slot = [] := by simpa [kind] using opened
        simp [bare]
  | refused handle candidate kept blocked same result alone =>
    have reached : (Effect.dispatched message (bus.handed source message name)).reached
        (.slot slot) = some message := by simp [Effect.reached, alone]
    rw [Handle.blocked_iff kept, agree handle candidate kept] at blocked
    obtain ⟨single, forbidden, filled⟩ := blocked
    have same : (bus.dispatch source message name).2.store.contents slot =
        bus.store.contents slot := same
    rw [reached, same, Option.elim_some, Slot.taking]
    simp [single, forbidden, filled]
  | missed same alone =>
    have reached : (Effect.dispatched message (bus.handed source message name)).reached
        (.slot slot) = none := by simp [Effect.reached, alone]
    rw [reached]
    exact same

/-- An operation empties a slot, or lets it take the message that reaches it. -/
theorem StepAt.contents {usage : Usage} {operation : Operation}
    (step : StepAt usage operation (.slot slot))
    (agree : ∀ source message name, operation = .dispatch source message name →
      ∀ handle ∈ usage.bus.messenger.candidates source message name,
        handle.place = .slot slot → handle.delegate.flags.allowOverwrite = overwrite) :
    (usage.step operation).2.bus.store.contents slot =
      if (usage.effect operation).empties (.slot slot) then []
      else ((usage.effect operation).reached (.slot slot)).elim (usage.bus.store.contents slot)
        (slot.taking overwrite (usage.bus.store.contents slot)) := by
  cases step with
  | emptied empties bare =>
    rw [if_pos empties]
    exact Store.isFilled_eq_false_iff.mp bare
  | dispatched source message name dispatch touched =>
    subst dispatch
    exact touched.contents (agree source message name rfl)
  | made quiet unused => cases unused
  | left undone unreached same =>
    have reached : (usage.effect operation).reached (.slot slot) = none := by
      cases effect : usage.effect operation with
      | dispatched message invocations =>
        rw [effect] at unreached
        simp [Effect.reached, unreached]
      | _ => rfl
    rw [reached, undone]
    exact same

end Step

/-! ## Every run -/

namespace Exchange

/-- What a slot holds whose delegates all agree on whether it may be overwritten. -/
theorem contents_after {slot : Slot} {overwrite : Bool} (requests : List Request)
    (agree : ∀ registration ∈ fresh.registrations requests, registration.2.place = .slot slot →
      registration.2.delegate.flags.allowOverwrite = overwrite) :
    (fresh.after requests).store.contents slot =
      slot.holding overwrite (reachedSince (.slot slot) (fresh.effects requests)) := by
  induction requests using List.reverseRecOn with
  | nil => simp [Exchange.after, fresh, effects, stages, reachedSince, since, Slot.holding_nil]
  | append_singleton requests request ih =>
    rw [registrations_append] at agree
    have before := ih fun registration member =>
      agree registration (List.mem_append_left _ member)
    -- Whatever delegate the request hands a message to was registered before it.
    have agreed : ∀ source message name, request.operation = .dispatch source message name →
        ∀ handle ∈ ((fresh.after requests).bus request.messenger).messenger.candidates source
          message name, handle.place = .slot slot →
            handle.delegate.flags.allowOverwrite = overwrite := by
      intro source message name _ handle candidate
      exact agree _ (List.mem_append_left _ (candidate_registered candidate))
    have stepped := (step_at requests request (.slot slot)).contents agreed
    rw [after_concat, effects_concat, reachedSince_concat, perform_store, stepped]
    split
    · exact (slot.holding_nil overwrite).symm
    · cases (((fresh.after requests).usage request.messenger).effect request.operation).reached
        (.slot slot) with
      | none => simpa using before
      | some message =>
        rw [Option.toList_some, Slot.holding_concat, ← before]
        rfl

end Exchange

/-! ## A slot that was bound once -/

/-- A delegate is a candidate for a message, and none before it ends the dispatch. -/
def Reaches (bus : Bus) (source : Identity) (message : Message) (name : String)
    (handle : Handle) : Prop :=
  ∃ earlier rest count after,
    bus.messenger.candidates source message name = earlier ++ handle :: rest ∧
      deliver bus.store message name earlier = (.ok count, after)

theorem reaches_iff {bus : Bus} {source : Identity} {message : Message} {name : String}
    {handle : Handle} : bus.Reaches source message name handle ↔
      ∃ invocation ∈ bus.handed source message name, invocation.handle = handle :=
  mem_invocations_iff.symm

theorem Reaches.candidate {bus : Bus} {source : Identity} {message : Message} {name : String}
    {handle : Handle} (reaches : bus.Reaches source message name handle) :
    handle ∈ bus.messenger.candidates source message name := by
  obtain ⟨earlier, rest, _, _, split, _⟩ := reaches
  rw [split]
  exact List.mem_append_right _ List.mem_cons_self

theorem Effect.reached_dispatched {message other : Message} {invocations : List Invocation}
    {place : Place} : (dispatched message invocations).reached place = some other ↔
      message = other ∧ ∃ invocation ∈ invocations, invocation.handle.place = place := by
  simp [Effect.reached, Effect.invokedAt, Effect.invocations, and_comm]

private theorem Usage.dispatch_of_reached {usage : Usage} {operation : Operation} {place : Place}
    {message : Message} (reached : (usage.effect operation).reached place = some message) :
    ∃ source name, operation = .dispatch source message name := by
  cases operation with
  | dispatch source other name =>
    obtain ⟨rfl, _⟩ := Effect.reached_dispatched.mp reached
    exact ⟨source, name, rfl⟩
  | reset label =>
    simp only [Usage.effect] at reached
    split at reached <;> cases reached
  | _ => cases reached

namespace Exchange

/-- All registrations of a slot, on whichever messenger, are this one. -/
def BoundOnce (requests : List Request) (slot : Slot) (number : Nat) (handle : Handle) : Prop :=
  ((fresh.registrations requests).filter fun registration => registration.2.place = .slot slot) =
    [(number, handle)]

namespace BoundOnce

variable {earlier later : List Request} {slot : Slot} {number : Nat} {handle : Handle}

theorem place (once : BoundOnce earlier slot number handle) : handle.place = .slot slot := by
  have member : (number, handle) ∈ (fresh.registrations earlier).filter fun registration =>
      registration.2.place = .slot slot := by
    rw [once]
    exact List.mem_singleton.mpr rfl
  exact of_decide_eq_true (List.mem_filter.mp member).2

theorem eq_of_place (once : BoundOnce earlier slot number handle) {registration : Nat × Handle}
    (member : registration ∈ fresh.registrations earlier)
    (place : registration.2.place = .slot slot) : registration = (number, handle) := by
  have found : registration ∈ (fresh.registrations earlier).filter fun registration =>
      registration.2.place = .slot slot := List.mem_filter.mpr ⟨member, decide_eq_true place⟩
  rw [once] at found
  exact List.mem_singleton.mp found

theorem eq_of_earlier (once : BoundOnce (earlier ++ later) slot number handle)
    {registration : Nat × Handle} (member : registration ∈ fresh.registrations earlier)
    (place : registration.2.place = .slot slot) : registration = (number, handle) := by
  refine once.eq_of_place ?_ place
  rw [registrations_append]
  exact List.mem_append_left _ member

theorem not_again (once : BoundOnce (earlier ++ later) slot number handle)
    (returned : handle ∈ issued (fresh.answers earlier number)) :
    ∀ registration ∈ (fresh.after earlier).registrations later,
      registration.2.place ≠ .slot slot := by
  intro registration member place
  have counted := congrArg List.length once
  rw [registrations_append, List.filter_append, List.length_append] at counted
  have before : (number, handle) ∈ (fresh.registrations earlier).filter fun registration =>
      registration.2.place = .slot slot :=
    List.mem_filter.mpr ⟨(mem_registrations_iff fresh).mpr returned, decide_eq_true once.place⟩
  have after : registration ∈ ((fresh.after earlier).registrations later).filter fun registration =>
      registration.2.place = .slot slot := List.mem_filter.mpr ⟨member, decide_eq_true place⟩
  have one := List.length_pos_of_mem before
  have two := List.length_pos_of_mem after
  rw [List.length_singleton] at counted
  omega

/-- A message reaches the slot just if its dispatch, on the messenger of the delegate, reaches the
delegate. -/
theorem reached_iff (once : BoundOnce (earlier ++ later) slot number handle) (messenger : Nat)
    (source : Identity) (message : Message) (name : String) :
    (((fresh.after earlier).usage messenger).effect
        (.dispatch source message name)).reached (.slot slot) = some message ↔
      messenger = number ∧ ((fresh.after earlier).bus messenger).Reaches source message name
        handle := by
  rw [Usage.effect, Effect.reached_dispatched, reaches_iff]
  constructor
  · intro reached
    obtain ⟨_, invocation, member, place⟩ := reached
    have same := once.eq_of_earlier (handed_registered member) place
    obtain ⟨rfl, rfl⟩ := Prod.mk.inj same
    exact ⟨rfl, invocation, member, rfl⟩
  · intro reached
    obtain ⟨_, invocation, member, rfl⟩ := reached
    exact ⟨rfl, invocation, member, once.place⟩

/-- What the slot holds is decided by whether its delegate may overwrite. -/
theorem contents (once : BoundOnce (earlier ++ later) slot number handle) :
    (fresh.after earlier).store.contents slot =
      slot.holding handle.delegate.flags.allowOverwrite
        (reachedSince (.slot slot) (fresh.effects earlier)) :=
  contents_after earlier fun registration member place => by
    rw [once.eq_of_earlier member place]

/-- A filled single slot refuses whatever reaches it. -/
theorem refused (once : BoundOnce (earlier ++ later) slot number handle)
    (single : slot.kind = .single) (forbidden : handle.delegate.flags.allowOverwrite = false)
    (filled : (fresh.after earlier).store.contents slot ≠ []) {source : Identity}
    {message : Message} {name : String}
    (reaches : ((fresh.after earlier).bus number).Reaches source message name handle) :
    (((fresh.after earlier).bus number).dispatch source message name).1 =
      .error (handle.refused name) := by
  have same {other : Handle} (candidate : other ∈
      ((fresh.after earlier).bus number).messenger.candidates source message name)
      (kept : other.place = .slot slot) : other = handle :=
    (Prod.mk.inj (once.eq_of_earlier (candidate_registered candidate) kept)).2
  cases (sound_after earlier number).touched source message name (.slot slot) with
  | handled other accepted candidate kept opened =>
    rw [same candidate kept, Handle.blocked_iff once.place] at opened
    exact absurd ⟨single, forbidden, filled⟩ opened
  | refused other candidate kept _ _ result =>
    rw [same candidate kept] at result
    exact result
  | missed _ alone =>
    obtain ⟨invocation, member, rfl⟩ := reaches_iff.mp reaches
    have invoked := List.filter_eq_nil_iff.mp alone invocation member
    exact absurd (decide_eq_true once.place) invoked

theorem unreached_of_removed (once : BoundOnce (earlier ++ later) slot number handle)
    (returned : handle ∈ issued (fresh.answers earlier number))
    (removed : handle ∉ live (fresh.answers earlier number)) :
    ∀ effect ∈ (fresh.after earlier).effects later, effect.reached (.slot slot) = none := by
  intro effect member
  obtain ⟨⟨exchange, messenger, operation⟩, staged, rfl⟩ := List.mem_map.mp member
  obtain ⟨front, back, rfl, met⟩ := mem_stages _ staged
  rw [← after_append] at met
  subst met
  by_contra touched
  obtain ⟨message, reached⟩ := Option.ne_none_iff_exists'.mp touched
  obtain ⟨source, name, rfl⟩ := Usage.dispatch_of_reached reached
  have onceBefore : BoundOnce ((earlier ++ front) ++
      { messenger, operation := .dispatch source message name } :: back) slot number handle := by
    rw [List.append_assoc]
    exact once
  obtain ⟨rfl, reaches⟩ := (onceBefore.reached_iff messenger source message name).mp reached
  have registered := ((sound_after _ messenger).lists.mem_candidates.mp reaches.candidate).1
  rw [answers_append] at registered
  -- It was registered again since, but the slot was not.
  have again := (mem_registrations_iff _).mpr ((mem_live_append registered).resolve_left removed)
  refine once.not_again returned (messenger, handle) ?_ once.place
  rw [registrations_append]
  exact List.mem_append_left _ again

end BoundOnce

end Exchange

/-- Whatever was done with messengers that bind a slot once, the slot holds what reached it since it
was last emptied: a multi slot all of it in order, a single slot the first message, or the last if it
may be overwritten. What else reaches a single slot that must not be overwritten is refused. After
the delegate was removed the slot keeps what it has until it is emptied. -/
theorem slot_holds_what_reached_it (earlier later : List Request) (slot : Slot) (number : Nat)
    (handle : Handle) (once : Exchange.BoundOnce (earlier ++ later) slot number handle) :
    let exchange := Exchange.fresh.after earlier
    let contents := exchange.store.contents slot
    let reached := reachedSince (.slot slot) (Exchange.fresh.effects earlier)
    let overwrite := handle.delegate.flags.allowOverwrite
    (∀ stage ∈ Exchange.fresh.stages earlier, ∀ source message name,
        stage.2.operation = .dispatch source message name →
        (((stage.1.usage stage.2.messenger).effect stage.2.operation).reached (.slot slot) =
            some message ↔
          stage.2.messenger = number ∧
            (stage.1.bus stage.2.messenger).Reaches source message name handle)) ∧
      (slot.kind = .multi → contents = reached) ∧
      (slot.kind = .single → overwrite = false → contents = reached.head?.toList) ∧
      (slot.kind = .single → overwrite = true → contents = reached.getLast?.toList) ∧
      (contents = [] ↔ reached = []) ∧
      (slot.kind = .single → overwrite = false → reached ≠ [] → ∀ source message name,
        (exchange.bus number).Reaches source message name handle →
          ((exchange.bus number).dispatch source message name).1 =
            .error (handle.refused name)) ∧
      (handle ∈ issued (Exchange.fresh.answers earlier number) →
        handle ∉ live (Exchange.fresh.answers earlier number) →
        (exchange.after later).store.contents slot =
          if (exchange.effects later).any (Effect.empties (.slot slot)) then [] else contents) := by
  intro exchange contents reached overwrite
  have held : contents = slot.holding overwrite reached := once.contents
  have bare : contents = [] ↔ reached = [] := by
    rw [held]
    exact slot.holding_eq_nil_iff overwrite
  refine ⟨?_, ?_, ?_, ?_, bare, ?_, ?_⟩
  · intro stage staged source message name dispatch
    obtain ⟨front, back, rfl, met⟩ := Exchange.mem_stages _ staged
    rw [List.append_assoc] at once
    rw [met, dispatch]
    exact once.reached_iff stage.2.messenger source message name
  · intro multi
    simp [held, Slot.holding, multi]
  · intro single forbidden
    simp [held, Slot.holding, single, forbidden]
  · intro single allowed
    simp [held, Slot.holding, single, allowed]
  · intro single forbidden filled source message name reaches
    exact once.refused single forbidden (bare.not.mpr filled) reaches
  · intro returned removed
    have whole : Exchange.BoundOnce (earlier ++ later ++ []) slot number handle := by
      rwa [List.append_nil]
    have unreached := once.unreached_of_removed returned removed
    rw [← Exchange.after_append, whole.contents, Exchange.effects_append,
      reachedSince_append_of_unreached unreached]
    split
    · exact slot.holding_nil overwrite
    · exact held.symm

/-- A single slot that gets two messages and is unbound after that. -/
theorem slot_holds_what_reached_it_first :
    let reader : Identity := { number := 0, name := "reader" }
    let slot : Slot := { number := 0, kind := .single, payload := .track }
    let handle := Handle.ofSlot 0 reader slot {}
    let message : Message := { payload := .tracks [] }
    let earlier : List Request := [
      { messenger := 0, operation := .register "slot" reader (.slot slot) {} },
      { messenger := 0, operation := .dispatch reader message "" },
      { messenger := 0, operation := .dispatch reader message "" }]
    let later : List Request := [
      { messenger := 0, operation := .remove "slot" },
      { messenger := 0, operation := .dispatch reader message "" }]
    Exchange.BoundOnce (earlier ++ later) slot 0 handle ∧
      (Exchange.fresh.after earlier).store.contents slot =
        (reachedSince (.slot slot) (Exchange.fresh.effects earlier)).head?.toList := by
  intro reader slot handle message earlier later
  have unused : (Exchange.fresh.bus 0).Sound [] [] := Exchange.sound_after [] 0
  obtain ⟨registered, _⟩ := Exchange.bind_slot unused "slot" reader slot {} rfl (by simp)
  have removal (exchange : Exchange) :
      (exchange.perform { messenger := 0, operation := .remove "slot" }).1.handle? = none := by
    simp only [Exchange.perform, Usage.step, Usage.withHandle]
    split <;> rfl
  have once : Exchange.BoundOnce (earlier ++ later) slot 0 handle := by
    simp only [earlier, later, Exchange.BoundOnce, Exchange.registrations, List.cons_append,
      List.nil_append, Exchange.stages, List.filterMap, registered, removal]
    rfl
  obtain ⟨_, _, first, _⟩ := slot_holds_what_reached_it earlier later slot 0 handle once
  exact ⟨once, first rfl rfl⟩

end Beamline.Bus
