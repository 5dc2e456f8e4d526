import Beamline.Proofs.Routing

/-!
A dispatch hands a message to its candidates one after the other. The first delegate whose slot is
filled and must not be overwritten ends it; whether there is one can be told before the dispatch,
since no two candidates share a place.
-/

namespace Beamline.Bus

/-- What is kept in a place is the same in two stores. -/
def Place.Same (place : Place) (before after : Store) : Prop :=
  match place with
  | .slot storage => after.contents storage = before.contents storage
  | .filter number => after.filterState number = before.filterState number

namespace Place.Same

variable {place : Place} {before middle after : Store}

theorem refl (place : Place) (store : Store) : place.Same store store := by
  cases place <;> rfl

theorem trans (first : place.Same before middle) (second : place.Same middle after) :
    place.Same before after := by
  cases place with
  | slot slot => exact Eq.trans second first
  | filter number => exact Eq.trans second first

end Place.Same

/-- A filled single slot that must not be overwritten. -/
def Handle.Blocked (handle : Handle) (store : Store) : Prop :=
  ∃ slot, handle.place = .slot slot ∧ slot.kind = .single ∧
    handle.delegate.flags.allowOverwrite = false ∧ store.isFilled slot = true

def Handle.fillsSlot (handle : Handle) : Bool :=
  handle.delegate.binding.slot?.isSome

/-- What a filter's state is after one more call. -/
def FilterState.Called (before after : FilterState) (message : Message) (name : Option String)
    (accepted : Bool) : Prop :=
  after.delivered = (before.delivered || accepted) ∧
    after.calls = { message, name, accepted } :: before.calls

/-- A delegate handled a message once, with this answer: a slot has it and the answer is yes, a
filter was called once more. -/
def Handle.Received (handle : Handle) (message : Message) (name : String) (before after : Store)
    (accepted : Bool) : Prop :=
  match handle.delegate.binding with
  | .slot slot => accepted = true ∧ after.contents slot =
    match slot.kind with
    | .single => [message]
    | .multi => before.contents slot ++ [message]
  | .filter _ installed => (before.filterState installed.number).Called
    (after.filterState installed.number) message none accepted
  | .anyFilter installed => (before.filterState installed.number).Called
    (after.filterState installed.number) message (some name) accepted

/-- Delegates handle a message in turn, each once and without an error, with these answers. -/
inductive Handled (message : Message) (name : String) :
    Store → List Handle → List Bool → Store → Prop
  | nil {store : Store} : Handled message name store [] [] store
  | cons {before middle after : Store} {handle : Handle} {rest : List Handle} {accepted : Bool}
      {answers : List Bool}
      (first : handle.process before message name = (.ok accepted, middle))
      (others : Handled message name middle rest answers after) :
      Handled message name before (handle :: rest) (accepted :: answers) after

/-- Delegates handled a message in turn: each has it with its answer, and nothing else changed. -/
structure Delivered (message : Message) (name : String) (before : Store) (handles : List Handle)
    (answers : List Bool) (after : Store) : Prop where
  handled : Handled message name before handles answers after
  received : List.Forall₂ (fun handle => handle.Received message name before after) handles answers
  untouched : ∀ place, (∀ handle ∈ handles, handle.place ≠ place) → place.Same before after

/-! ## One delegate -/

@[simp]
theorem Store.contents_setContents (store : Store) (slot other : Slot) (messages : List Message) :
    (store.setContents slot messages).contents other =
      if slot = other then messages else store.contents other := by
  simp [Store.contents, Store.setContents, Std.HashMap.getD_insert]

@[simp]
theorem Store.contents_empty (slot : Slot) : ({} : Store).contents slot = [] := by
  simp [Store.contents]

@[simp]
theorem Store.contents_ask (store : Store) (number : Nat) (filter : Filter) (message : Message)
    (name : Option String) (slot : Slot) :
    (store.ask number filter message name).2.contents slot = store.contents slot := by
  simp only [Store.ask, Store.remember]
  split <;> rfl

theorem Store.filterState_ask (store : Store) (number : Nat) (filter : Filter) (message : Message)
    (name : Option String) (other : Nat) (different : number ≠ other) :
    (store.ask number filter message name).2.filterState other = store.filterState other := by
  simp [Store.ask, Store.filterState, Std.HashMap.getD_insert, different]

@[simp]
theorem Store.filterState_resetFilter (store : Store) (number other : Nat) :
    (store.resetFilter number).filterState other =
      if number = other then { store.filterState number with delivered := false }
      else store.filterState other := by
  simp [Store.filterState, Store.resetFilter, Std.HashMap.getD_insert]

theorem Store.filterState_newFilter (store : Store) (filter : Filter) (number : Nat) :
    (store.newFilter filter).2.filterState number =
      if store.next = number then { tally := filter.tally } else store.filterState number := by
  simp [Store.newFilter, Store.fresh, Store.filterState, Std.HashMap.getD_insert]

theorem Store.called_ask (store : Store) (number : Nat) (filter : Filter) (message : Message)
    (name : Option String) : (store.filterState number).Called
      ((store.ask number filter message name).2.filterState number) message name
      (store.ask number filter message name).1 := by
  simp [Store.ask, Store.filterState, FilterState.Called]

theorem same_ask (store : Store) (number : Nat) (filter : Filter) (message : Message)
    (name : Option String) (place : Place) (elsewhere : Place.filter number ≠ place) :
    place.Same store (store.ask number filter message name).2 := by
  cases place with
  | slot slot => exact Store.contents_ask _ _ _ _ _ _
  | filter other =>
    exact Store.filterState_ask _ _ _ _ _ _ fun same => elsewhere (congrArg Place.filter same)

theorem same_setContents (store : Store) (slot : Slot) (messages : List Message)
    (place : Place) (elsewhere : Place.slot slot ≠ place) :
    place.Same store (store.setContents slot messages) := by
  cases place with
  | slot other =>
    have different : slot ≠ other := fun same => elsewhere (congrArg Place.slot same)
    simp [Place.Same, different]
  | filter number => rfl

theorem same_resetFilter (store : Store) (number : Nat) (place : Place)
    (elsewhere : Place.filter number ≠ place) : place.Same store (store.resetFilter number) := by
  cases place with
  | slot slot => rfl
  | filter other =>
    have different : number ≠ other := fun same => elsewhere (congrArg Place.filter same)
    simp [Place.Same, different]

theorem Handle.Blocked.of_same {handle : Handle} {before after : Store}
    (same : handle.place.Same before after) : handle.Blocked after ↔ handle.Blocked before := by
  constructor
  · intro blocked
    obtain ⟨slot, place, single, kept, filled⟩ := blocked
    rw [place] at same
    exact ⟨slot, place, single, kept, by rwa [Store.isFilled, ← same]⟩
  · intro blocked
    obtain ⟨slot, place, single, kept, filled⟩ := blocked
    rw [place] at same
    exact ⟨slot, place, single, kept, by rwa [Store.isFilled, same]⟩

/-- A blocked delegate refuses every message of its type and changes nothing. -/
theorem Handle.process_of_blocked {handle : Handle} {store : Store} {message : Message}
    (name : String) (typed : ∀ payload ∈ handle.delegate.binding.payload, payload = message.type)
    (blocked : handle.Blocked store) :
    handle.process store message name = (.error (handle.refused name), store) := by
  obtain ⟨slot, place, single, kept, filled⟩ := blocked
  cases bound : handle.delegate.binding with
  | slot storage =>
    have same : Place.slot storage = .slot slot := by
      rw [← place, Handle.place, bound]
      rfl
    cases same
    have suits : slot.payload = message.type := typed slot.payload (congrArg Binding.payload bound)
    simp [Handle.process, bound, suits, Store.put, single, filled, kept]
  | filter payload installed => simp [Handle.place, bound, Binding.place] at place
  | anyFilter installed => simp [Handle.place, bound, Binding.place] at place

/-- A delegate that is not blocked handles a message of its type and leaves other places alone. -/
theorem Handle.process_of_open {handle : Handle} {store : Store} {message : Message}
    (name : String) (typed : ∀ payload ∈ handle.delegate.binding.payload, payload = message.type)
    (opened : ¬handle.Blocked store) : ∃ accepted after,
      handle.process store message name = (.ok accepted, after) ∧
        handle.Received message name store after accepted ∧
        ∀ place, handle.place ≠ place → place.Same store after := by
  cases bound : handle.delegate.binding with
  | slot slot =>
    have place : handle.place = .slot slot := by rw [Handle.place, bound]; rfl
    have suits : slot.payload = message.type := typed slot.payload (congrArg Binding.payload bound)
    have elsewhere (messages : List Message) : ∀ place, handle.place ≠ place →
        place.Same store (store.setContents slot messages) := fun other different =>
      same_setContents store slot messages other (place ▸ different)
    cases kind : slot.kind with
    | single =>
      have free : (store.isFilled slot && !handle.delegate.flags.allowOverwrite) = false := by
        cases filled : store.isFilled slot with
        | false => rfl
        | true =>
          cases kept : handle.delegate.flags.allowOverwrite with
          | true => rfl
          | false => exact absurd ⟨slot, place, kind, kept, filled⟩ opened
      refine ⟨true, store.setContents slot [message], ?_, ?_, elsewhere _⟩
      · simp [Handle.process, bound, suits, Store.put, kind, free]
      · simp [Handle.Received, bound, kind]
    | multi =>
      refine ⟨true, store.setContents slot (store.contents slot ++ [message]), ?_, ?_, elsewhere _⟩
      · simp [Handle.process, bound, suits, Store.put, kind]
      · simp [Handle.Received, bound, kind]
  | filter payload installed =>
    have place : handle.place = .filter installed.number := by rw [Handle.place, bound]; rfl
    have suits : payload = message.type := typed payload (congrArg Binding.payload bound)
    refine ⟨_, _, by simp only [Handle.process, bound, suits, ne_eq, not_true, ↓reduceIte]; rfl,
      ?_, fun other different => same_ask _ _ _ _ _ other (place ▸ different)⟩
    rw [Handle.Received, bound]
    exact Store.called_ask _ _ _ _ _
  | anyFilter installed =>
    have place : handle.place = .filter installed.number := by rw [Handle.place, bound]; rfl
    refine ⟨_, _, by simp only [Handle.process, bound]; rfl, ?_,
      fun other different => same_ask _ _ _ _ _ other (place ▸ different)⟩
    rw [Handle.Received, bound]
    exact Store.called_ask _ _ _ _ _

namespace Handle.Received

variable {handle : Handle} {message : Message} {name : String} {before middle after : Store}
  {accepted : Bool}

private theorem same_after (received : handle.Received message name before middle accepted)
    (same : handle.place.Same middle after) :
    handle.Received message name before after accepted := by
  unfold Handle.Received at *
  unfold Handle.place at same
  cases bound : handle.delegate.binding with
  | slot slot =>
    simp only [bound, Binding.place, Place.Same] at received same ⊢
    exact ⟨received.1, same.trans received.2⟩
  | filter payload installed =>
    simp only [bound, Binding.place, Place.Same] at received same ⊢
    rw [same]
    exact received
  | anyFilter installed =>
    simp only [bound, Binding.place, Place.Same] at received same ⊢
    rw [same]
    exact received

private theorem same_before (received : handle.Received message name middle after accepted)
    (same : handle.place.Same before middle) :
    handle.Received message name before after accepted := by
  unfold Handle.Received at *
  unfold Handle.place at same
  cases bound : handle.delegate.binding with
  | slot slot =>
    simp only [bound, Binding.place, Place.Same] at received same ⊢
    rw [← same]
    exact received
  | filter payload installed =>
    simp only [bound, Binding.place, Place.Same] at received same ⊢
    rw [← same]
    exact received
  | anyFilter installed =>
    simp only [bound, Binding.place, Place.Same] at received same ⊢
    rw [← same]
    exact received

end Handle.Received

/-! ## Delegates in turn -/

variable {message : Message} {name : String}

/-- Delegates of which none is blocked handle a message of their type in turn. As each keeps what it
gets in a place of its own, what the others get does not matter to it. -/
theorem deliver_of_open {handles : List Handle} {store : Store} (name : String)
    (typed : ∀ handle ∈ handles, ∀ payload ∈ handle.delegate.binding.payload,
      payload = message.type)
    (apart : handles.Pairwise fun first second => first.place ≠ second.place)
    (opened : ∀ handle ∈ handles, ¬handle.Blocked store) : ∃ answers after,
      deliver store message name handles = (.ok (answers.count true), after) ∧
        Delivered message name store handles answers after := by
  induction handles generalizing store with
  | nil => exact ⟨[], store, rfl, .nil, .nil, fun place _ => .refl place store⟩
  | cons handle rest ih =>
    obtain ⟨alone, apart⟩ := List.pairwise_cons.mp apart
    obtain ⟨accepted, middle, processed, received, frame⟩ := Handle.process_of_open name
      (typed handle List.mem_cons_self) (opened handle List.mem_cons_self)
    have untouched (other : Handle) (member : other ∈ rest) : other.place.Same store middle :=
      frame other.place (alone other member)
    obtain ⟨answers, after, completed, delivered⟩ := ih
      (fun other member => typed other (List.mem_cons_of_mem _ member)) apart
      (fun other member => (Handle.Blocked.of_same (untouched other member)).not.mpr
        (opened other (List.mem_cons_of_mem _ member)))
    have settled : handle.place.Same middle after :=
      delivered.untouched handle.place fun other member => (alone other member).symm
    refine ⟨accepted :: answers, after, ?_, .cons processed delivered.handled,
      .cons (received.same_after settled) ?_, ?_⟩
    · cases accepted <;> simp [deliver, processed, completed]
    · refine List.forall₂_iff_zip.mpr
        ⟨delivered.received.length_eq, fun {other answer} member => ?_⟩
      exact ((List.forall₂_iff_zip.mp delivered.received).2 member).same_before
        (untouched other (List.of_mem_zip member).1)
    · intro place different
      exact (frame place (different handle List.mem_cons_self)).trans
        (delivered.untouched place fun other member =>
          different other (List.mem_cons_of_mem _ member))

private theorem deliver_append_error {earlier rest : List Handle} {store middle after : Store}
    {count : Nat} {error : BusError}
    (delivered : deliver store message name earlier = (.ok count, middle))
    (failed : deliver middle message name rest = (.error error, after)) :
    deliver store message name (earlier ++ rest) = (.error error, after) := by
  induction earlier generalizing store count with
  | nil =>
    cases delivered
    exact failed
  | cons handle others ih =>
    rw [deliver] at delivered
    rw [List.cons_append, deliver]
    split at delivered
    · cases delivered
    · rename_i next processed
      split at delivered
      · cases delivered
      · rename_i further completed
        cases delivered
        rw [ih completed]

/-- The first blocked delegate ends a delivery; those before it keep what they got, and those after
it are not asked. -/
theorem deliver_of_blocked {earlier rest : List Handle} {blocked : Handle} {store : Store}
    (typed : ∀ handle ∈ earlier ++ blocked :: rest,
      ∀ payload ∈ handle.delegate.binding.payload, payload = message.type)
    (apart : (earlier ++ blocked :: rest).Pairwise fun first second =>
      first.place ≠ second.place)
    (refusing : blocked.Blocked store) (opened : ∀ handle ∈ earlier, ¬handle.Blocked store) :
    ∃ answers after,
      deliver store message name (earlier ++ blocked :: rest) =
        (.error (blocked.refused name), after) ∧
      Delivered message name store earlier answers after := by
  obtain ⟨first, _, between⟩ := List.pairwise_append.mp apart
  obtain ⟨answers, after, completed, delivered⟩ := deliver_of_open name
    (fun handle member => typed handle (List.mem_append_left _ member)) first opened
  have same : blocked.place.Same store after :=
    delivered.untouched blocked.place fun handle member =>
      between handle member blocked List.mem_cons_self
  have refused := Handle.process_of_blocked name
    (typed blocked (List.mem_append_right _ List.mem_cons_self))
    ((Handle.Blocked.of_same same).mpr refusing)
  exact ⟨answers, after, deliver_append_error completed (by rw [deliver, refused]), delivered⟩

/-- What is counted as accepted: every slot, and the filters that said yes. -/
theorem count_answers {handles : List Handle} {answers : List Bool} {before after : Store}
    (received : List.Forall₂ (fun handle => handle.Received message name before after)
      handles answers) :
    answers.count true = handles.countP Handle.fillsSlot +
      (handles.zip answers).countP fun (handle, accepted) => !handle.fillsSlot && accepted := by
  induction received with
  | nil => rfl
  | @cons handle accepted _ _ one others ih =>
    have slotAccepts : handle.fillsSlot = true → accepted = true := by
      intro fills
      unfold Handle.Received at one
      unfold Handle.fillsSlot at fills
      cases bound : handle.delegate.binding <;> simp_all [Binding.slot?]
    cases fills : handle.fillsSlot <;> cases accepted <;>
      simp_all <;> omega

theorem Place.Same.isSatisfied {handle : Handle} {before after : Store}
    (same : handle.place.Same before after) :
    handle.isSatisfied after = handle.isSatisfied before := by
  unfold Handle.place at same
  unfold Handle.isSatisfied Delegate.isSatisfied
  cases bound : handle.delegate.binding with
  | slot slot =>
    simp only [bound, Binding.place, Place.Same] at same
    simp only [Store.isFilled, same]
  | filter payload installed =>
    simp only [bound, Binding.place, Place.Same] at same
    simp only [same]
  | anyFilter installed =>
    simp only [bound, Binding.place, Place.Same] at same
    simp only [same]

/-- A list of delegates is open, or splits at the first that is blocked. -/
theorem open_or_blocked (handles : List Handle) (store : Store) :
    (∀ handle ∈ handles, ¬handle.Blocked store) ∨ ∃ earlier blocked rest,
      handles = earlier ++ blocked :: rest ∧ blocked.Blocked store ∧
        ∀ handle ∈ earlier, ¬handle.Blocked store := by
  induction handles with
  | nil => exact .inl (by simp)
  | cons handle rest ih =>
    by_cases refusing : handle.Blocked store
    · exact .inr ⟨[], handle, rest, rfl, refusing, by simp⟩
    · rcases ih with opened | ⟨earlier, blocked, others, rfl, blocking, opened⟩
      · exact .inl (List.forall_mem_cons.mpr ⟨refusing, opened⟩)
      · exact .inr ⟨handle :: earlier, blocked, others, rfl, blocking,
          List.forall_mem_cons.mpr ⟨refusing, opened⟩⟩

namespace Usage.Sound

variable {usage : Usage} {returned live : List Handle}

/-- Candidates are of the type of the message, as each is in the bucket where it belongs. -/
theorem candidates_typed (sound : usage.Sound returned live) (source : Identity)
    (message : Message) (name : String) :
    ∀ handle ∈ usage.bus.messenger.candidates source message name,
      ∀ payload ∈ handle.delegate.binding.payload, payload = message.type :=
  fun _ member => (sound.lists.mem_candidates.mp member).2.2.2.2

theorem candidates_apart (sound : usage.Sound returned live) (source : Identity)
    (message : Message) (name : String) :
    (usage.bus.messenger.candidates source message name).Pairwise fun first second =>
      first.place ≠ second.place := by
  have symmetric : Std.Symm fun first second : Handle => first.place ≠ second.place :=
    ⟨fun _ _ different => different.symm⟩
  refine (sound.lists.candidates_nodup source message name).pairwise_of_forall_ne ?_
  intro first member second present different
  exact sound.placesApart.forall (sound.lists.mem_candidates.mp member).1
    (sound.lists.mem_candidates.mp present).1 different

/-- The place of a registered delegate that did not handle a message is as it was. -/
theorem untouched (sound : usage.Sound returned live) {handles : List Handle}
    {answers : List Bool} {after : Store} (listed : ∀ handle ∈ handles, handle ∈ live)
    (delivered : Delivered message name usage.bus.store handles answers after) :
    ∀ handle ∈ live, handle ∉ handles → handle.place.Same usage.bus.store after ∧
      handle.isSatisfied after = handle.isSatisfied usage.bus.store := by
  intro handle member absent
  have symmetric : Std.Symm fun first second : Handle => first.place ≠ second.place :=
    ⟨fun _ _ different => different.symm⟩
  have same := delivered.untouched handle.place fun other present =>
    sound.placesApart.forall (listed other present) member fun same => absent (same ▸ present)
  exact ⟨same, same.isSatisfied⟩

theorem dispatch_of_blocked (sound : usage.Sound returned live) {source : Identity}
    {earlier rest : List Handle} {blocked : Handle}
    (split : usage.bus.messenger.candidates source message name = earlier ++ blocked :: rest)
    (refusing : blocked.Blocked usage.bus.store)
    (opened : ∀ handle ∈ earlier, ¬handle.Blocked usage.bus.store) : ∃ answers after,
      deliver usage.bus.store message name
          (usage.bus.messenger.candidates source message name) =
        (.error (blocked.refused name), after) ∧
      Delivered message name usage.bus.store earlier answers after := by
  have typed := sound.candidates_typed source message name
  have apart := sound.candidates_apart source message name
  rw [split] at typed apart ⊢
  exact deliver_of_blocked typed apart refusing opened

theorem dispatch_of_open (sound : usage.Sound returned live) {source : Identity}
    (opened : ∀ handle ∈ usage.bus.messenger.candidates source message name,
      ¬handle.Blocked usage.bus.store) : ∃ answers after,
      deliver usage.bus.store message name
          (usage.bus.messenger.candidates source message name) =
        (.ok (answers.count true), after) ∧
      Delivered message name usage.bus.store
        (usage.bus.messenger.candidates source message name) answers after :=
  deliver_of_open name (sound.candidates_typed source message name)
    (sound.candidates_apart source message name) opened

/-- A dispatch that succeeds met no blocked candidate, and one that fails met one. -/
theorem dispatch_fails_iff (sound : usage.Sound returned live) (source : Identity) :
    (∃ error, (usage.bus.dispatch source message name).1 = .error error) ↔
      ∃ handle ∈ usage.bus.messenger.candidates source message name,
        handle.Blocked usage.bus.store := by
  rcases open_or_blocked (usage.bus.messenger.candidates source message name) usage.bus.store with
    opened | ⟨earlier, blocked, rest, split, refusing, opened⟩
  · obtain ⟨answers, after, completed, _⟩ := sound.dispatch_of_open opened
    rw [dispatch_of_ok completed]
    constructor
    · intro fails
      obtain ⟨error, failed⟩ := fails
      cases failed
    · intro met
      obtain ⟨handle, member, refusing⟩ := met
      exact absurd refusing (opened handle member)
  · obtain ⟨answers, after, failed, _⟩ := sound.dispatch_of_blocked split refusing opened
    rw [dispatch_of_error failed]
    constructor
    · intro _
      exact ⟨blocked, split ▸ List.mem_append_right _ List.mem_cons_self, refusing⟩
    · intro _
      exact ⟨_, rfl⟩

end Usage.Sound

/-- Whatever was done with a messenger, a dispatch fails just if the slot of some candidate is
filled and must not be overwritten. The error then names the first such candidate; those before it
handled the message, each once and in turn, and nothing else changed. Otherwise all candidates
handled it, the report counts slots and the filters that said yes, and it is logged once. -/
theorem dispatch_fail_fast (store : Store) (operations : List Operation) (source : Identity)
    (message : Message) (name : String) :
    let delegates := live ((Usage.fresh store).answers operations)
    let bus := ((Usage.fresh store).after operations).bus
    let candidates := bus.messenger.candidates source message name
    let result := (bus.dispatch source message name).1
    let later := (bus.dispatch source message name).2
    ((∃ error, result = .error error) ↔ ∃ handle ∈ candidates, handle.Blocked bus.store) ∧
      (∀ earlier blocked rest, candidates = earlier ++ blocked :: rest →
        blocked.Blocked bus.store → (∀ handle ∈ earlier, ¬handle.Blocked bus.store) →
          result = .error (.invalidBinding blocked.uniqueName
            blocked.delegate.binding.payloadName name .alreadyFilled) ∧
          (∃ answers, Delivered message name bus.store earlier answers later.store) ∧
          (∀ handle ∈ delegates, handle ∉ earlier → handle.place.Same bus.store later.store ∧
            handle.isSatisfied later.store = handle.isSatisfied bus.store) ∧
          later.messenger = { bus.messenger with
            stats := { bus.messenger.stats with failed := bus.messenger.stats.failed + 1 } }) ∧
      ((∀ handle ∈ candidates, ¬handle.Blocked bus.store) →
        (∃ answers, Delivered message name bus.store candidates answers later.store ∧
          result = .ok {
            invoked := candidates.length
            accepted := candidates.countP Handle.fillsSlot +
              (candidates.zip answers).countP fun (handle, accepted) =>
                !handle.fillsSlot && accepted }) ∧
          (∀ handle ∈ delegates, handle ∉ candidates → handle.place.Same bus.store later.store ∧
            handle.isSatisfied later.store = handle.isSatisfied bus.store) ∧
          later.messenger.registry = bus.messenger.registry ∧
          later.messenger.nextId = bus.messenger.nextId ∧
          ∀ lane, later.messenger.sentMessages lane = bus.messenger.sentMessages lane ++
            if lane = source.lane then [message] else []) := by
  intro delegates bus candidates result later
  have sound := Usage.sound_after store operations
  have listed : ∀ handle ∈ candidates, handle ∈ delegates := fun handle member =>
    (sound.lists.mem_candidates.mp member).1
  refine ⟨sound.dispatch_fails_iff source, ?_, ?_⟩
  · intro earlier blocked rest split refusing opened
    obtain ⟨answers, after, failed, delivered⟩ :=
      sound.dispatch_of_blocked split refusing opened
    have outcome : bus.dispatch source message name = _ := dispatch_of_error failed
    simp only [result, later, outcome]
    exact ⟨rfl, ⟨answers, delivered⟩, sound.untouched (fun handle member =>
      listed handle (split ▸ List.mem_append_left _ member)) delivered, trivial⟩
  · intro opened
    obtain ⟨answers, after, completed, delivered⟩ := sound.dispatch_of_open opened
    have outcome : bus.dispatch source message name = _ := dispatch_of_ok completed
    simp only [result, later, outcome]
    refine ⟨⟨answers, delivered, by rw [count_answers delivered.received]⟩,
      sound.untouched listed delivered, trivial, trivial, fun lane => ?_⟩
    simp only [Messenger.sentMessages, Std.HashMap.getD_insert, beq_iff_eq]
    by_cases same : source.lane = lane
    · simp [same]
    · simp [same, Ne.symm same]

end Beamline.Bus
