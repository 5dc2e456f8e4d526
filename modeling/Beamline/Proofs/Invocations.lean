import Beamline.Proofs.Delivery
import Beamline.Proofs.ExchangeInvariant

namespace Beamline.Bus

/-- A message handed to a delegate, and what came of it. -/
structure Invocation where
  handle : Handle
  result : Except BusError Bool

namespace Invocation

/-- Whether the slot stored the message or the filter said yes. -/
def isAccepted (invocation : Invocation) : Bool :=
  match invocation.result with
  | .ok accepted => accepted
  | .error _ => false

def isFailed (invocation : Invocation) : Bool :=
  match invocation.result with
  | .ok _ => false
  | .error _ => true

end Invocation

/-- Delegates handed a message in turn. No delegate is handed it after the first error. -/
def invocations (store : Store) (message : Message) (name : String) :
    List Handle → List Invocation
  | [] => []
  | handle :: rest =>
    match handle.process store message name with
    | (.error error, _) => [{ handle, result := .error error }]
    | (.ok accepted, store) =>
      { handle, result := .ok accepted } :: invocations store message name rest

/-- What an operation does to the places of delegates. -/
inductive Effect
  | dispatched (message : Message) (invocations : List Invocation)
  /-- A place was emptied, through a delegate or through the slot itself. -/
  | reset (place : Place)
  /-- A slot was emptied by taking what it held. -/
  | drained (slot : Slot)
  | nothing

namespace Effect

/-- The delegates that were handed a message. -/
def invocations : Effect → List Invocation
  | dispatched _ invocations => invocations
  | _ => []

def resets (place : Place) : Effect → Bool
  | reset other => other = place
  | _ => false

def empties (place : Place) : Effect → Bool
  | reset other => other = place
  | drained slot => .slot slot = place
  | _ => false

/-- Those of them that keep what they get in this place. -/
def invokedAt (place : Place) (effect : Effect) : List Invocation :=
  effect.invocations.filter fun invocation => invocation.handle.place = place

/-- The message that was handed to a delegate with this place, if one was. -/
def reached (place : Place) (effect : Effect) : Option Message :=
  match effect with
  | dispatched message _ => if (effect.invokedAt place).isEmpty then none else some message
  | _ => none

/-- Whether a delegate with this place accepted a message. -/
def accepted (place : Place) (effect : Effect) : Bool :=
  (effect.invokedAt place).any Invocation.isAccepted

def isAborted (effect : Effect) : Bool :=
  effect.invocations.any Invocation.isFailed

end Effect

/-- The delegates that a dispatch hands a message to. -/
def handed (bus : Bus) (source : Identity) (message : Message) (name : String) :
    List Invocation :=
  invocations bus.store message name (bus.messenger.candidates source message name)

def Usage.effect (usage : Usage) : Operation → Effect
  | .dispatch source message name =>
    .dispatched message (usage.bus.handed source message name)
  | .reset label =>
    match usage.kept[label]? with
    | some handle => .reset handle.place
    | none => .nothing
  | .resetSlot slot => .reset (.slot slot)
  | .drain slot => .drained slot
  | _ => .nothing

def Exchange.effects (exchange : Exchange) (requests : List Request) : List Effect :=
  (exchange.stages requests).map fun stage =>
    (stage.1.usage stage.2.messenger).effect stage.2.operation

theorem Exchange.effects_append (exchange : Exchange) (earlier later : List Request) :
    exchange.effects (earlier ++ later) =
      exchange.effects earlier ++ (exchange.after earlier).effects later := by
  simp [effects, stages_append]

theorem Exchange.effects_concat (exchange : Exchange) (requests : List Request)
    (request : Request) : exchange.effects (requests ++ [request]) =
      exchange.effects requests ++
        [((exchange.after requests).usage request.messenger).effect request.operation] := by
  rw [effects_append]
  rfl

/-! ## Deliveries and their invocations -/

variable {message : Message} {name : String}

/-- A delivery without an error counts the invocations that accepted the message. -/
theorem invocations_of_ok {handles : List Handle} {store after : Store} {count : Nat}
    (delivered : deliver store message name handles = (.ok count, after)) :
    (invocations store message name handles).map Invocation.handle = handles ∧
      (invocations store message name handles).countP Invocation.isAccepted = count ∧
      (invocations store message name handles).any Invocation.isFailed = false := by
  induction handles generalizing store count with
  | nil =>
    cases delivered
    exact ⟨rfl, rfl, rfl⟩
  | cons handle rest ih =>
    rcases processed : handle.process store message name with ⟨error | accepted, middle⟩
    · simp only [deliver, processed] at delivered
      cases delivered
    · rcases completed : deliver middle message name rest with ⟨error | others, further⟩
      · simp only [deliver, processed, completed] at delivered
        cases delivered
      · simp only [deliver, processed, completed] at delivered
        cases delivered
        obtain ⟨invoked, counted, faultless⟩ := ih completed
        simp only [invocations, processed]
        refine ⟨by rw [List.map_cons, invoked], ?_, faultless⟩
        rw [List.countP_cons, counted]
        cases accepted <;> rfl

theorem invocations_of_error {handles : List Handle} {store after : Store} {error : BusError}
    (delivered : deliver store message name handles = (.error error, after)) :
    (invocations store message name handles).any Invocation.isFailed = true := by
  induction handles generalizing store with
  | nil => cases delivered
  | cons handle rest ih =>
    rcases processed : handle.process store message name with ⟨refusal | accepted, middle⟩
    · simp only [invocations, processed]
      rfl
    · rcases completed : deliver middle message name rest with ⟨failure | others, further⟩
      · simp only [deliver, processed, completed] at delivered
        cases delivered
        have failed := ih completed
        simp only [invocations, processed, List.any_cons, failed, Bool.or_true]
      · simp only [deliver, processed, completed] at delivered
        cases delivered

/-- A delegate is handed the message just if it is in turn after delegates that all succeed. -/
theorem mem_invocations_iff {handles : List Handle} {store : Store} {handle : Handle} :
    (∃ invocation ∈ invocations store message name handles, invocation.handle = handle) ↔
      ∃ earlier rest count after, handles = earlier ++ handle :: rest ∧
        deliver store message name earlier = (.ok count, after) := by
  induction handles generalizing store with
  | nil => simp [invocations]
  | cons first others ih =>
    rcases processed : first.process store message name with ⟨error | accepted, middle⟩
    · simp only [invocations, processed]
      constructor
      · intro invoked
        obtain ⟨invocation, member, rfl⟩ := invoked
        obtain rfl := List.mem_singleton.mp member
        exact ⟨[], others, 0, store, rfl, rfl⟩
      · intro found
        obtain ⟨earlier, rest, count, after, split, delivered⟩ := found
        cases earlier with
        | nil =>
          obtain ⟨rfl, rfl⟩ := List.cons.inj split
          exact ⟨_, List.mem_singleton.mpr rfl, rfl⟩
        | cons other between =>
          obtain ⟨rfl, rfl⟩ := List.cons.inj split
          simp only [deliver, processed] at delivered
          cases delivered
    · simp only [invocations, processed]
      constructor
      · intro invoked
        obtain ⟨invocation, member, rfl⟩ := invoked
        rcases List.mem_cons.mp member with rfl | later
        · exact ⟨[], others, 0, store, rfl, rfl⟩
        · obtain ⟨earlier, rest, count, after, split, delivered⟩ :=
            ih.mp ⟨invocation, later, rfl⟩
          refine ⟨first :: earlier, rest, if accepted then count + 1 else count, after,
            by rw [split, List.cons_append], ?_⟩
          simp only [deliver, processed, delivered]
      · intro found
        obtain ⟨earlier, rest, count, after, split, delivered⟩ := found
        cases earlier with
        | nil =>
          obtain ⟨rfl, rfl⟩ := List.cons.inj split
          exact ⟨_, List.mem_cons_self, rfl⟩
        | cons other between =>
          obtain ⟨rfl, rfl⟩ := List.cons.inj split
          rcases completed : deliver middle message name between with ⟨failure | further, last⟩
          · simp only [deliver, processed, completed] at delivered
            cases delivered
          · obtain ⟨invocation, member, same⟩ :=
              ih.mpr ⟨between, rest, further, last, rfl, completed⟩
            exact ⟨invocation, List.mem_cons_of_mem _ member, same⟩

/-! ## The outcome of a dispatch -/

/-- Delegates that handled a message, with their answers. -/
def passed (handles : List Handle) (answers : List Bool) : List Invocation :=
  (handles.zip answers).map fun (handle, accepted) => { handle, result := .ok accepted }

theorem invocations_of_handled {handles : List Handle} {answers : List Bool}
    {before after : Store} (rest : List Handle)
    (handled : Handled message name before handles answers after) :
    invocations before message name (handles ++ rest) =
      passed handles answers ++ invocations after message name rest := by
  induction handled with
  | nil => rfl
  | cons first others ih =>
    rw [List.cons_append, invocations, first]
    simp only [ih]
    rfl

/-- A dispatch is handled by candidates in turn, either by all of them or by those before one that
refuses it. -/
structure Outcome (bus : Bus) (source : Identity) (message : Message) (name : String)
    (handled : List Handle) (answers : List Bool) (refusing : List Handle) : Prop where
  candidates : ∃ rest,
    bus.messenger.candidates source message name = handled ++ refusing ++ rest
  opened : ∀ handle ∈ handled, ¬handle.Blocked bus.store
  blocked : ∀ handle ∈ refusing, handle.Blocked bus.store
  delivered : Delivered message name bus.store handled answers
    (bus.dispatch source message name).2.store
  invocations : bus.handed source message name = passed handled answers ++
    refusing.map fun handle => { handle, result := .error (handle.refused name) }
  result : ∀ handle ∈ refusing,
    (bus.dispatch source message name).1 = .error (handle.refused name)

theorem Sound.outcome {bus : Bus} {returned live : List Handle}
    (sound : bus.Sound returned live) (source : Identity) (message : Message) (name : String) :
    ∃ handled answers refusing, bus.Outcome source message name handled answers refusing := by
  rcases open_or_blocked (bus.messenger.candidates source message name) bus.store with
    opened | ⟨earlier, blocked, rest, split, refusing, opened⟩
  · obtain ⟨answers, after, completed, delivered⟩ :=
      Usage.Sound.dispatch_of_open sound opened
    have outcome : bus.dispatch source message name = _ := dispatch_of_ok completed
    refine ⟨bus.messenger.candidates source message name, answers, [],
      ⟨[], by simp⟩, opened, by simp, ?_, ?_, by simp⟩
    · rw [outcome]
      exact delivered
    · have all := invocations_of_handled [] delivered.handled
      rw [List.append_nil] at all
      exact all
  · obtain ⟨answers, after, failed, delivered⟩ :=
      Usage.Sound.dispatch_of_blocked sound split refusing opened
    have outcome : bus.dispatch source message name = _ := dispatch_of_error failed
    have typed := Usage.Sound.candidates_typed sound source message name
    have apart := Usage.Sound.candidates_apart sound source message name
    rw [split] at typed apart
    -- What the delegates before it did leaves the blocked one blocked.
    have same : blocked.place.Same bus.store after :=
      delivered.untouched blocked.place fun handle member =>
        (List.pairwise_append.mp apart).2.2 handle member blocked List.mem_cons_self
    have refused := Handle.process_of_blocked name
      (typed blocked (List.mem_append_right _ List.mem_cons_self))
      ((Handle.Blocked.of_same same).mpr refusing)
    refine ⟨earlier, answers, [blocked], ⟨rest, by rw [split]; simp⟩, opened,
      by simpa using refusing, ?_, ?_, ?_⟩
    · rw [outcome]
      exact delivered
    · rw [handed, split, invocations_of_handled _ delivered.handled, invocations, refused]
      rfl
    · rw [outcome]
      simp

/-! ## The outcome for one place -/

/-- Delegates that keep what they get in different places are told apart by the place. -/
theorem filter_place_of_mem {invocations : List Invocation}
    (apart : invocations.Pairwise fun first second => first.handle.place ≠ second.handle.place)
    {invocation : Invocation} (member : invocation ∈ invocations) :
    (invocations.filter fun other => other.handle.place = invocation.handle.place) =
      [invocation] := by
  induction invocations with
  | nil => cases member
  | cons first rest ih =>
    obtain ⟨alone, apart⟩ := List.pairwise_cons.mp apart
    rcases List.mem_cons.mp member with rfl | later
    · have others : rest.filter (fun other => other.handle.place = invocation.handle.place) = [] :=
        List.filter_eq_nil_iff.mpr fun other present => by simpa using (alone other present).symm
      simp [others]
    · have different : ¬first.handle.place = invocation.handle.place := alone invocation later
      simpa [different] using ih apart later

/-- What a dispatch means to one place. Since no two candidates share it, at most one of them is
handed the message there. -/
inductive Touched (bus : Bus) (source : Identity) (message : Message) (name : String)
    (place : Place) : Prop
  | handled (handle : Handle) (accepted : Bool)
      (candidate : handle ∈ bus.messenger.candidates source message name)
      (kept : handle.place = place)
      (opened : ¬handle.Blocked bus.store)
      (received : handle.Received message name bus.store
        (bus.dispatch source message name).2.store accepted)
      (alone : (Effect.dispatched message (bus.handed source message name)).invokedAt place =
        [{ handle, result := .ok accepted }])
  | refused (handle : Handle)
      (candidate : handle ∈ bus.messenger.candidates source message name)
      (kept : handle.place = place)
      (blocked : handle.Blocked bus.store)
      (same : place.Same bus.store (bus.dispatch source message name).2.store)
      (result : (bus.dispatch source message name).1 = .error (handle.refused name))
      (alone : (Effect.dispatched message (bus.handed source message name)).invokedAt place =
        [{ handle, result := .error (handle.refused name) }])
  | missed
      (same : place.Same bus.store (bus.dispatch source message name).2.store)
      (alone : (Effect.dispatched message (bus.handed source message name)).invokedAt place = [])

namespace Outcome

variable {bus : Bus} {source : Identity} {handled refusing : List Handle} {answers : List Bool}

/-- Those handed the message are candidates, each with a place of its own. -/
theorem handles_eq (outcome : Outcome bus source message name handled answers refusing) :
    (bus.handed source message name).map Invocation.handle = handled ++ refusing := by
  have paired : (passed handled answers).map Invocation.handle = handled := by
    have long : handled.length ≤ answers.length :=
      Nat.le_of_eq outcome.delivered.received.length_eq
    rw [passed, List.map_map]
    exact List.map_fst_zip long
  rw [outcome.invocations, List.map_append, paired, List.map_map]
  simp [Function.comp_def]

end Outcome

theorem Exchange.candidate_registered {requests : List Request} {number : Nat} {source : Identity}
    {message : Message} {name : String} {handle : Handle}
    (candidate : handle ∈
      ((fresh.after requests).bus number).messenger.candidates source message name) :
    (number, handle) ∈ fresh.registrations requests := by
  have sound := sound_after requests number
  have registered := sound.registered.subset (sound.lists.mem_candidates.mp candidate).1
  exact (mem_registrations_iff fresh).mpr registered

/-- A delegate is handed a message only by a messenger that registered it. -/
theorem Exchange.handed_registered {requests : List Request} {number : Nat} {source : Identity}
    {message : Message} {name : String} {invocation : Invocation}
    (member : invocation ∈ ((fresh.after requests).bus number).handed source message name) :
    (number, invocation.handle) ∈ fresh.registrations requests := by
  obtain ⟨handled, answers, refusing, outcome⟩ :=
    (sound_after requests number).outcome source message name
  obtain ⟨rest, split⟩ := outcome.candidates
  have listed : invocation.handle ∈ handled ++ refusing := by
    rw [← outcome.handles_eq]
    exact List.mem_map_of_mem member
  exact candidate_registered (split ▸ List.mem_append_left rest listed)

theorem Exchange.invocation_registered {requests : List Request} {effect : Effect}
    (member : effect ∈ fresh.effects requests) {invocation : Invocation}
    (invoked : invocation ∈ effect.invocations) :
    ∃ number, (number, invocation.handle) ∈ fresh.registrations requests := by
  obtain ⟨⟨exchange, request⟩, staged, rfl⟩ := List.mem_map.mp member
  obtain ⟨earlier, later, rfl, rfl⟩ := mem_stages fresh staged
  refine ⟨request.messenger, ?_⟩
  rw [registrations_append]
  refine List.mem_append_left _ ?_
  obtain ⟨messenger, operation⟩ := request
  cases operation with
  | dispatch source message name => exact handed_registered invoked
  | reset label =>
    simp only [Usage.effect] at invoked
    split at invoked <;> cases invoked
  | _ => cases invoked

/-- For every place, one of its delegates handled the message, refused it or was not handed it. -/
theorem Sound.touched {bus : Bus} {returned live : List Handle} (sound : bus.Sound returned live)
    (source : Identity) (message : Message) (name : String) (place : Place) :
    bus.Touched source message name place := by
  obtain ⟨handled, answers, refusing, outcome⟩ := sound.outcome source message name
  obtain ⟨rest, split⟩ := outcome.candidates
  have candidate (handle : Handle) (member : handle ∈ handled ++ refusing) :
      handle ∈ bus.messenger.candidates source message name :=
    split ▸ List.mem_append_left rest member
  have apart : (handled ++ refusing).Pairwise fun first second => first.place ≠ second.place :=
    (split ▸ Usage.Sound.candidates_apart sound source message name).sublist
      (List.sublist_append_left _ _)
  have handedApart := apart
  rw [← outcome.handles_eq, List.pairwise_map] at handedApart
  by_cases reached : ∃ invocation ∈ bus.handed source message name,
      invocation.handle.place = place
  · obtain ⟨invocation, member, rfl⟩ := reached
    have alone := filter_place_of_mem handedApart member
    rw [outcome.invocations] at member
    rcases List.mem_append.mp member with passing | refusal
    · obtain ⟨⟨handle, accepted⟩, paired, rfl⟩ := List.mem_map.mp passing
      have present : handle ∈ handled := (List.of_mem_zip paired).1
      exact .handled handle accepted (candidate handle (List.mem_append_left _ present)) rfl
        (outcome.opened handle present)
        ((List.forall₂_iff_zip.mp outcome.delivered.received).2 paired) alone
    · obtain ⟨handle, present, rfl⟩ := List.mem_map.mp refusal
      -- Those before it have places of their own, so what they did leaves this one as it was.
      have same := outcome.delivered.untouched handle.place fun other earlier =>
        (List.pairwise_append.mp apart).2.2 other earlier handle present
      exact .refused handle (candidate handle (List.mem_append_right _ present)) rfl
        (outcome.blocked handle present) same (outcome.result handle present) alone
  · have none : ∀ handle ∈ handled ++ refusing, handle.place ≠ place := by
      intro handle member kept
      rw [← outcome.handles_eq] at member
      obtain ⟨invocation, present, rfl⟩ := List.mem_map.mp member
      exact reached ⟨invocation, present, kept⟩
    refine .missed (outcome.delivered.untouched place fun handle member =>
      none handle (List.mem_append_left _ member)) (List.filter_eq_nil_iff.mpr ?_)
    intro invocation member kept
    exact reached ⟨invocation, member, of_decide_eq_true kept⟩

end Beamline.Bus
