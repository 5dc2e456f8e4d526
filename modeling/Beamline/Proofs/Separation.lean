import Beamline.Proofs.Bindings
import Beamline.Proofs.Twins
import Beamline.Proofs.WatchedLanes
import Beamline.Run.Record

namespace Beamline.Bus

/-- The number of the store that a place has. -/
def Place.number : Place → Nat
  | .slot storage => storage.number
  | .filter index => index

/-- What is in a place comes from messages: a slot holds some of them in order, and a filter that
accepted something got one of them. -/
def Place.Within (place : Place) (store : Store) (messages : List Message) : Prop :=
  match place with
  | .slot storage => (store.contents storage).Sublist messages
  | .filter index => (store.filterState index).delivered = true → messages ≠ []

namespace Place.Within

variable {place : Place} {before after store : Store} {messages : List Message}

theorem of_same (same : place.Same before after) (within : place.Within before messages) :
    place.Within after messages := by
  cases place with
  | slot slot => exact (congrArg (List.Sublist · messages) same).mpr within
  | filter number => exact fun delivered => within (same ▸ delivered)

theorem append (within : place.Within store messages) (more : List Message) :
    place.Within store (messages ++ more) := by
  cases place with
  | slot slot => exact List.Sublist.trans within (List.sublist_append_left _ _)
  | filter number =>
    exact fun delivered empty => within delivered (List.append_eq_nil_iff.mp empty).1

/-- Nothing is in a place that keeps nothing. -/
theorem keeps_iff : place.Within store [] ↔ store.keeps place = false := by
  cases place with
  | slot slot => simp [Place.Within, Store.keeps]
  | filter number => simp [Place.Within, Store.keeps]

theorem of_empty (within : place.Within store []) (messages : List Message) :
    place.Within store messages :=
  within.append messages

theorem of_received {handle : Handle} {message : Message} {name : String} {accepted : Bool}
    (received : handle.Received message name before after accepted)
    (within : handle.place.Within before messages) :
    handle.place.Within after (messages ++ [message]) := by
  unfold Handle.Received at received
  unfold Handle.place at within ⊢
  cases bound : handle.delegate.binding with
  | slot slot =>
    rw [bound] at received within
    obtain ⟨_, contents⟩ := received
    simp only [Binding.place, Place.Within] at within ⊢
    rw [contents]
    cases slot.kind with
    | single => exact List.sublist_append_right _ _
    | multi => exact List.Sublist.append within (List.Sublist.refl _)
  | filter payload installed => exact fun _ => by simp
  | anyFilter installed => exact fun _ => by simp

end Place.Within

private theorem remove_sent (bus : Bus) (handle : Handle) :
    (bus.remove handle).2.messenger.sent = bus.messenger.sent := by
  unfold Bus.remove Messenger.remove
  rcases bus.messenger.registry.erase handle with ⟨_ | fault, registry⟩ <;> rfl

/-! ## Emptying places -/

theorem Place.Within.resetSlot {place : Place} {store : Store} {messages : List Message}
    (within : place.Within store messages) (slot : Slot) :
    place.Within (store.resetSlot slot) messages := by
  by_cases same : place = .slot slot
  · subst same
    exact of_empty (keeps_iff.mpr (store.keeps_resetSlot slot)) messages
  · exact within.of_same (same_setContents store slot [] place (Ne.symm same))

theorem Place.Within.reset {place : Place} {store : Store} {messages : List Message}
    (within : place.Within store messages) (handle : Handle) :
    place.Within (handle.delegate.reset store) messages := by
  obtain ⟨bare, others⟩ := handle.reset_place store
  by_cases same : handle.place = place
  · subst same
    exact of_empty (keeps_iff.mpr bare) messages
  · exact within.of_same (others place same)

theorem Place.Within.resetEach {place : Place} {store : Store} {messages : List Message}
    (within : place.Within store messages) (handles : List Handle) :
    place.Within (resetEach handles store) messages := by
  induction handles generalizing store with
  | nil => exact within
  | cons handle rest ih => exact ih (within.reset handle)

theorem within_resetEach {handles : List Handle} {handle : Handle} (member : handle ∈ handles)
    (store : Store) : handle.place.Within (resetEach handles store) [] := by
  induction handles generalizing store with
  | nil => cases member
  | cons first rest ih =>
    rcases List.mem_cons.mp member with rfl | later
    · have bare : handle.place.Within (handle.delegate.reset store) [] :=
        Place.Within.keeps_iff.mpr (handle.reset_place store).1
      exact bare.resetEach rest
    · exact ih later _

/-- Every delegate that was ever registered has a place of its own, made for it. -/
structure Separate (bus : Bus) (returned live : List Handle) : Prop where
  sound : bus.Sound returned live
  counted : bus.messenger.stats.registered = bus.messenger.stats.removed + live.length
  apart : returned.Pairwise fun first second => first.place ≠ second.place
  used : ∀ handle ∈ returned, handle.place.number < bus.store.next
  vacant : ∀ slot, bus.store.contents slot ≠ [] → slot.number < bus.store.next

namespace Separate

variable {bus later : Bus} {returned live : List Handle}

/-- Delegates with one place are one. -/
theorem eq_of_place (separate : bus.Separate returned live) {one other : Handle}
    (first : one ∈ returned) (second : other ∈ returned) (same : one.place = other.place) :
    one = other := by
  have symmetric : Std.Symm fun first second : Handle => first.place ≠ second.place :=
    ⟨fun _ _ apart same => apart same.symm⟩
  by_contra different
  exact separate.apart.forall first second different same

/-- What leaves the registry and its counts alone and puts nothing into new slots. -/
theorem frame (separate : bus.Separate returned live)
    (registry : later.messenger.registry = bus.messenger.registry)
    (nextId : later.messenger.nextId = bus.messenger.nextId)
    (registered : later.messenger.stats.registered = bus.messenger.stats.registered)
    (removed : later.messenger.stats.removed = bus.messenger.stats.removed)
    (more : bus.store.next ≤ later.store.next)
    (vacant : ∀ slot, later.store.contents slot ≠ [] → slot.number < later.store.next) :
    later.Separate returned live where
  sound := separate.sound.frame registry nextId more
  counted := registered.trans (separate.counted.trans (congrArg (· + _) removed.symm))
  apart := separate.apart
  used handle member := Nat.lt_of_lt_of_le (separate.used handle member) more
  vacant := vacant

/-- What only empties slots. -/
theorem emptied (separate : bus.Separate returned live) {store : Store}
    (next : store.next = bus.store.next)
    (fewer : ∀ slot, store.contents slot ≠ [] → bus.store.contents slot ≠ []) :
    Separate { bus with store } returned live :=
  separate.frame rfl rfl rfl rfl (Nat.le_of_eq next.symm) fun slot filled =>
    Nat.lt_of_lt_of_le (separate.vacant slot (fewer slot filled)) (Nat.le_of_eq next.symm)

/-! ## Removals -/

theorem remove (separate : bus.Separate returned live) (handle : Handle) :
    (bus.remove handle).2.Separate returned (live.filter fun other => other.id != handle.id) := by
  obtain ⟨registry, gone, _, fewer, removed⟩ := separate.sound.remove_snd handle
  have counted := separate.counted
  have left := separate.sound.remove handle
  rw [removed] at left ⊢
  refine ⟨left, ?_, separate.apart, separate.used, separate.vacant⟩
  dsimp only
  omega

theorem removeAll (separate : bus.Separate returned live) (handles : List Handle) :
    ∃ messenger, (Bindings.removeAll bus handles).2 = { bus with messenger } ∧
      messenger.sent = bus.messenger.sent ∧
      Separate { bus with messenger } returned
        (live.filter fun other => handles.all fun handle => other.id != handle.id) := by
  obtain ⟨registry, gone, _, fewer, removed, left⟩ := separate.sound.removeAll_snd handles
  have counted := separate.counted
  rw [removed] at left
  refine ⟨_, removed, rfl, left, ?_, separate.apart, separate.used, separate.vacant⟩
  dsimp only
  omega

/-! ## Registrations -/

/-- A suitable registration for a place that nobody used. -/
theorem registered (separate : bus.Separate returned live) {receiver : Identity}
    {binding : Binding Filter} {flags : Flags}
    (suitable : bus.messenger.refusal binding flags = none)
    (unused : ∀ other ∈ returned, other.place ≠ (bus.nextHandle receiver binding flags).place)
    (made : (bus.nextHandle receiver binding flags).place.number < (install bus.store binding).2.next)
    (same : ∀ slot, (install bus.store binding).2.contents slot = bus.store.contents slot) :
    (bus.register receiver binding flags).2.Separate
      (returned ++ [bus.nextHandle receiver binding flags])
      (live ++ [bus.nextHandle receiver binding flags]) := by
  have sound := @Sound.register _ _ _ separate.sound receiver _ _ suitable
  have more := install_next_le bus.store binding
  rw [register_of_suitable suitable] at sound ⊢
  refine ⟨sound, ?_, ?_, ?_, ?_⟩
  · have counted := separate.counted
    simp only [List.length_append, List.length_singleton]
    omega
  · refine List.pairwise_append.mpr ⟨separate.apart, List.pairwise_singleton _ _, ?_⟩
    intro other member handle new
    rw [List.mem_singleton.mp new]
    exact unused other member
  · intro handle member
    rcases List.mem_append.mp member with old | new
    · exact Nat.lt_of_lt_of_le (separate.used handle old) more
    · rw [List.mem_singleton.mp new]
      exact made
  · intro slot filled
    rw [same slot] at filled
    exact Nat.lt_of_lt_of_le (separate.vacant slot filled) more

end Separate

/-- What bindings have registered in addition, if they have: each delegate has a new place. -/
structure Bound (returned live created : List Handle) (bindings later : Bindings)
    (before after : Bus) : Prop where
  separate : after.Separate (returned ++ created) (live ++ created)
  handles : later = { bindings with handles := bindings.handles ++ created }
  lane : ∀ handle ∈ created, handle.lane = bindings.identity.lane
  empty : ∀ handle ∈ created, handle.place.Within after.store []
  same : ∀ place : Place, place.number < before.store.next → place.Same before.store after.store
  sent : after.messenger.sent = before.messenger.sent

namespace Separate

variable {bus : Bus} {returned live : List Handle}

theorem bound_of_refused (separate : bus.Separate returned live) (bindings : Bindings) :
    Bound returned live [] bindings bindings bus bus where
  separate := by simpa using separate
  handles := by simp
  lane := by simp
  empty := by simp
  same place _ := .refl place _
  sent := rfl

theorem bound_of_suitable (separate : bus.Separate returned live) (bindings : Bindings)
    {binding : Binding Filter} {flags : Flags}
    (suitable : bus.messenger.refusal binding flags = none)
    (unused : ∀ other ∈ returned,
      other.place ≠ (bus.nextHandle bindings.identity binding flags).place)
    (made : (bus.nextHandle bindings.identity binding flags).place.number <
      (install bus.store binding).2.next)
    (empty : (bus.nextHandle bindings.identity binding flags).place.Within
      (install bus.store binding).2 [])
    (same : ∀ place : Place, place.number < bus.store.next →
      place.Same bus.store (install bus.store binding).2)
    (contents : ∀ slot, (install bus.store binding).2.contents slot = bus.store.contents slot) :
    Bound returned live [bus.nextHandle bindings.identity binding flags] bindings
      (bindings.register bus binding flags).2.1 bus
      (bindings.register bus binding flags).2.2 := by
  have separated := separate.registered suitable unused made contents
  rw [register_of_suitable suitable] at separated
  simp only [Bindings.register, register_of_suitable suitable]
  refine ⟨separated, rfl, ?_, ?_, same, rfl⟩
  · intro handle new
    rw [List.mem_singleton.mp new]
    rfl
  · intro handle new
    rw [List.mem_singleton.mp new]
    exact empty

theorem bound_register_of_suitable (separate : bus.Separate returned live) (bindings : Bindings)
    {binding : Binding Filter} (filter : binding.slot? = none) {flags : Flags}
    (suitable : bus.messenger.refusal binding flags = none) :
    Bound returned live [bus.nextHandle bindings.identity binding flags] bindings
      (bindings.register bus binding flags).2.1 bus
      (bindings.register bus binding flags).2.2 := by
  have place : (bus.nextHandle bindings.identity binding flags).place =
      .filter bus.store.next := by
    cases binding with
    | slot slot => cases filter
    | _ => rfl
  have next := (number_of_nextHandle place).2
  have contents (slot : Slot) :
      (install bus.store binding).2.contents slot = bus.store.contents slot := by
    cases binding <;> rfl
  refine separate.bound_of_suitable bindings suitable ?_ ?_ ?_ ?_ contents
  · intro other member same
    have used := separate.used other member
    rw [same, place] at used
    exact Nat.lt_irrefl _ used
  · rw [place, next]
    exact Nat.lt_succ_self _
  · rw [place, Place.Within.keeps_iff]
    have bare (asked : Filter) :
        (bus.store.newFilter asked).2.keeps (.filter bus.store.next) = false := by
      simp [Store.keeps, Store.filterState_newFilter]
    cases binding with
    | slot slot => cases filter
    | filter payload asked => exact bare asked
    | anyFilter asked => exact bare asked
  · intro other below
    rcases install_place bus.store binding other with same | ⟨rfl, _⟩
    · exact same
    · exact absurd below (Nat.lt_irrefl _)

theorem bound_register (separate : bus.Separate returned live) (bindings : Bindings)
    {binding : Binding Filter} (filter : binding.slot? = none) (flags : Flags) : ∃ created,
      Bound returned live created bindings (bindings.register bus binding flags).2.1 bus
        (bindings.register bus binding flags).2.2 := by
  cases refusal : bus.messenger.refusal binding flags with
  | some reason =>
    refine ⟨[], ?_⟩
    simp only [Bindings.register, register_of_refused refusal]
    exact separate.bound_of_refused bindings
  | none => exact ⟨_, separate.bound_register_of_suitable bindings filter refusal⟩

section Slot

variable (separate : bus.Separate returned live) (bindings : Bindings) (kind : SlotKind)
  (payload : PayloadType)

include separate

/-- A slot that is made. -/
theorem newSlot : Separate { bus with store := (bus.store.newSlot kind payload).2 } returned live :=
  separate.frame rfl rfl rfl rfl (Nat.le_succ _) fun other filled =>
    Nat.lt_succ_of_lt (separate.vacant other filled)

omit separate in
theorem bound_bindSlot_of_register {created : List Handle} {flags : Flags} :
    let slot : Slot := { number := bus.store.next, kind, payload }
    let made : Bus := { bus with store := (bus.store.newSlot kind payload).2 }
    Bound returned live created bindings (bindings.register made (.slot slot) flags).2.1 made
      (bindings.register made (.slot slot) flags).2.2 →
    Bound returned live created bindings (bindings.bindSlot bus kind payload flags).2.1 bus
      (bindings.bindSlot bus kind payload flags).2.2 := by
  intro slot made bound
  obtain ⟨separated, handles, lane, bare, kept, sent⟩ := bound
  have same (place : Place) : place.Same bus.store made.store := by
    cases place <;> rfl
  rw [Bindings.bindSlot_eq]
  exact ⟨separated, handles, lane, bare,
    fun place within => (same place).trans (kept place (Nat.lt_succ_of_lt within)), sent⟩

theorem bound_bindSlot_of_suitable {flags : Flags} :
    let slot : Slot := { number := bus.store.next, kind, payload }
    let made : Bus := { bus with store := (bus.store.newSlot kind payload).2 }
    made.messenger.refusal (.slot slot) flags = none →
      Bound returned live [made.nextHandle bindings.identity (.slot slot) flags] bindings
        (bindings.bindSlot bus kind payload flags).2.1 bus
        (bindings.bindSlot bus kind payload flags).2.2 := by
  intro slot made suitable
  have empty : made.store.contents slot = [] := by
    by_contra filled
    exact Nat.lt_irrefl _ (separate.vacant slot filled)
  apply bound_bindSlot_of_register
  refine (separate.newSlot kind payload).bound_of_suitable bindings suitable ?_
    (Nat.lt_succ_self _) ?_ (fun place _ => .refl place _) fun _ => rfl
  · intro other member same
    have used := separate.used other member
    rw [same] at used
    exact Nat.lt_irrefl _ used
  · exact (congrArg (List.Sublist · []) empty).mpr (List.Sublist.refl _)

theorem bound_bindSlot (flags : Flags) : ∃ created,
    Bound returned live created bindings (bindings.bindSlot bus kind payload flags).2.1 bus
      (bindings.bindSlot bus kind payload flags).2.2 := by
  let slot : Slot := { number := bus.store.next, kind, payload }
  let made : Bus := { bus with store := (bus.store.newSlot kind payload).2 }
  cases refusal : made.messenger.refusal (.slot slot) flags with
  | some reason =>
    refine ⟨[], bound_bindSlot_of_register bindings kind payload ?_⟩
    have refused : (bindings.register made (.slot slot) flags).2 = (bindings, made) := by
      simp only [Bindings.register, register_of_refused refusal]
    simp only [made, slot] at refused
    rw [refused]
    exact (separate.newSlot kind payload).bound_of_refused bindings
  | none => exact ⟨_, separate.bound_bindSlot_of_suitable bindings kind payload refusal⟩

end Slot

/-! ## Dispatches -/

theorem within_dispatch (separate : bus.Separate returned live) (source : Identity)
    (message : Message) (name : String) {handle : Handle} (member : handle ∈ returned)
    {messages : List Message} (within : handle.place.Within bus.store messages) :
    handle.place.Within (bus.dispatch source message name).2.store
      (if handle.lane = source.lane then messages ++ [message] else messages) := by
  have kept (same : handle.place.Same bus.store (bus.dispatch source message name).2.store) :
      handle.place.Within (bus.dispatch source message name).2.store
        (if handle.lane = source.lane then messages ++ [message] else messages) := by
    split
    · exact (within.of_same same).append _
    · exact within.of_same same
  cases separate.sound.touched source message name handle.place with
  | handled other accepted candidate place _ received _ =>
    obtain ⟨listed, wants⟩ := (Usage.Sound.lists separate.sound).mem_candidates.mp candidate
    obtain rfl := separate.eq_of_place (separate.sound.registered.subset listed) member place
    have lane : other.lane = source.lane := wants.1
    rw [if_pos lane]
    exact .of_received received within
  | refused _ _ _ _ same _ _ => exact kept same
  | missed same _ => exact kept same

theorem dispatch (separate : bus.Separate returned live) (source : Identity) (message : Message)
    (name : String) : (bus.dispatch source message name).2.Separate returned live := by
  obtain ⟨registry, nextId, store⟩ := dispatch_frame bus source message name
  have next : (bus.dispatch source message name).2.store.next = bus.store.next := by
    rw [store, deliver_next]
  have stats : (bus.dispatch source message name).2.messenger.stats.registered =
      bus.messenger.stats.registered ∧ (bus.dispatch source message name).2.messenger.stats.removed =
        bus.messenger.stats.removed := by
    rcases delivered : deliver bus.store message name
      (bus.messenger.candidates source message name) with ⟨error | accepted, after⟩
    · rw [dispatch_of_error delivered]
      exact ⟨rfl, rfl⟩
    · rw [dispatch_of_ok delivered]
      exact ⟨rfl, rfl⟩
  refine separate.frame registry nextId stats.1 stats.2 (Nat.le_of_eq next.symm) ?_
  intro slot filled
  rw [next]
  have kept (same : Place.Same (.slot slot) bus.store
      (bus.dispatch source message name).2.store) : slot.number < bus.store.next :=
    separate.vacant slot fun empty => filled (Eq.trans same empty)
  cases separate.sound.touched source message name (.slot slot) with
  | handled other accepted candidate place _ _ _ =>
    obtain ⟨listed, _⟩ := (Usage.Sound.lists separate.sound).mem_candidates.mp candidate
    have used := separate.used other (separate.sound.registered.subset listed)
    rwa [place] at used
  | refused _ _ _ _ same _ _ => exact kept same
  | missed same _ => exact kept same

/-! ## Emptying slots -/

theorem resetSlot (separate : bus.Separate returned live) (slot : Slot) :
    Separate { bus with store := bus.store.resetSlot slot } returned live := by
  refine separate.emptied rfl fun other filled empty => filled ?_
  simp only [Store.resetSlot, Store.contents_setContents, empty, ite_self]

theorem resetEach (separate : bus.Separate returned live) (handles : List Handle) :
    Separate { bus with store := Bus.resetEach handles bus.store } returned live := by
  refine separate.emptied (resetEach_next handles bus.store) fun other filled empty => filled ?_
  simp only [resetEach_contents, empty, ite_self]

end Separate

theorem sentMessages_dispatch (bus : Bus) (source : Identity) (message : Message) (name : String)
    {lane : LaneId} (other : lane ≠ source.lane) :
    (bus.dispatch source message name).2.messenger.sentMessages lane =
      bus.messenger.sentMessages lane := by
  rcases delivered : deliver bus.store message name
    (bus.messenger.candidates source message name) with ⟨error | accepted, store⟩
  · rw [dispatch_of_error delivered]
    rfl
  · rw [dispatch_of_ok delivered]
    simp [Messenger.sentMessages, Std.HashMap.getD_insert, Ne.symm other]

end Beamline.Bus

namespace Beamline.Run

open Bus

/-- A request that bindings offer to a module: it registers nothing that the bindings do not keep,
and fills no slot that they did not make. -/
def Request.Offered : Request → Prop
  | bindApart .. | register (.slot _) _ => False
  | _ => True

/-- What a request of a module does to the delegates and their places: those that it creates are
its own, those that it leaves registered are still kept by the bindings if they were, and nothing
gets to another lane. -/
structure Footprint (returned live created left : List Handle) (sent : List Message)
    (scope later : Scope) (before after : Bus) : Prop where
  separate : after.Separate (returned ++ created) left
  identity : later.bindings.identity = scope.bindings.identity
  held : ∀ handle ∈ later.bindings.handles, handle ∈ scope.bindings.handles ∨ handle ∈ created
  left : ∀ handle ∈ left, (handle ∈ live ∨ handle ∈ created) ∧
    (handle ∈ scope.bindings.handles ∨ handle ∈ created → handle ∈ later.bindings.handles)
  lane : ∀ handle ∈ created, handle.lane = scope.bindings.identity.lane
  empty : ∀ handle ∈ created, handle.place.Within after.store []
  within : ∀ handle ∈ returned, ∀ messages, handle.place.Within before.store messages →
    handle.place.Within after.store
      (if handle.lane = scope.bindings.identity.lane then messages ++ sent else messages)
  logs : ∀ lane ≠ scope.bindings.identity.lane,
    after.messenger.sentMessages lane = before.messenger.sentMessages lane

section Footprint

variable {returned live : List Handle} {scope later : Scope} {before after : Bus}

/-- A request that registers and removes nothing. -/
theorem Footprint.of_same (separate : after.Separate returned live)
    (bindings : later.bindings = scope.bindings) (sent : List Message)
    (within : ∀ handle ∈ returned, ∀ messages, handle.place.Within before.store messages →
      handle.place.Within after.store
        (if handle.lane = scope.bindings.identity.lane then messages ++ sent else messages))
    (logs : ∀ lane ≠ scope.bindings.identity.lane,
      after.messenger.sentMessages lane = before.messenger.sentMessages lane) :
    Footprint returned live [] live sent scope later before after where
  separate := by simpa using separate
  identity := by rw [bindings]
  held handle member := .inl (by rwa [← bindings])
  left handle member := ⟨.inl member, by simp [bindings]⟩
  lane := by simp
  empty := by simp
  within := within
  logs := logs

/-- A request that changes no place and no log. -/
theorem Footprint.idle (separate : before.Separate returned live)
    (bindings : later.bindings = scope.bindings) :
    Footprint returned live [] live [] scope later before before :=
  .of_same separate bindings [] (fun _ _ _ within => by simpa using within) fun _ _ => rfl

/-- A request that only empties places. -/
theorem Footprint.emptying {store : Store}
    (separate : Bus.Separate { before with store } returned live)
    (within : ∀ (place : Place) (messages : List Message),
      place.Within before.store messages → place.Within store messages)
    (bindings : later.bindings = scope.bindings) :
    Footprint returned live [] live [] scope later before { before with store } :=
  .of_same separate bindings [] (fun _ _ _ old => by simpa using within _ _ old) fun _ _ => rfl

/-- A request that registers a delegate. -/
theorem Footprint.binding (separate : before.Separate returned live) {created : List Handle}
    (bound : Bound returned live created scope.bindings later.bindings before after) :
    Footprint returned live created (live ++ created) [] scope later before after where
  separate := bound.separate
  identity := by rw [bound.handles]
  held handle member := by
    rw [bound.handles] at member
    exact List.mem_append.mp member
  left handle member := by
    rw [bound.handles]
    exact ⟨List.mem_append.mp member, List.mem_append.mpr⟩
  lane := bound.lane
  empty := bound.empty
  within handle member messages old := by
    simpa using old.of_same (bound.same handle.place (separate.used handle member))
  logs lane _ := by rw [Messenger.sentMessages, bound.sent, Messenger.sentMessages]

/-- A request that removes delegates. -/
theorem Footprint.removing {messenger : Messenger} {left : List Handle}
    (separate : Bus.Separate { before with messenger } returned left)
    (sent : messenger.sent = before.messenger.sent) (fewer : ∀ handle ∈ left, handle ∈ live)
    (identity : later.bindings.identity = scope.bindings.identity)
    (held : ∀ handle ∈ later.bindings.handles, handle ∈ scope.bindings.handles)
    (kept : ∀ handle ∈ left, handle ∈ scope.bindings.handles →
      handle ∈ later.bindings.handles) :
    Footprint returned live [] left [] scope later before { before with messenger } where
  separate := by simpa using separate
  identity := identity
  held handle member := .inl (held handle member)
  left handle member := ⟨.inl (fewer handle member), by simpa using kept handle member⟩
  lane := by simp
  empty := by simp
  within _ _ _ old := by simpa using old
  logs lane _ := by rw [Messenger.sentMessages, sent, Messenger.sentMessages]

/-- Whatever a module requests of its bindings, it has such a footprint. -/
theorem Request.footprint {request : Request} (offered : request.Offered) {scope : Scope}
    {world : World} (separate : world.bus.Separate returned live) : ∃ created left,
      Footprint returned live created left request.sent scope (request.perform scope world).1.2
        world.bus (request.perform scope world).2.bus := by
  cases request with
  | bindApart name kind payload flags => exact offered.elim
  | bindSlot kind payload flags =>
    obtain ⟨created, bound⟩ := separate.bound_bindSlot scope.bindings kind payload flags
    exact ⟨created, _, .binding separate bound⟩
  | register binding flags =>
    have filter : binding.slot? = none := by
      cases binding with
      | slot slot => exact offered.elim
      | _ => rfl
    obtain ⟨created, bound⟩ := separate.bound_register scope.bindings filter flags
    exact ⟨created, _, .binding separate bound⟩
  | remove handle =>
    exact ⟨[], _, .removing (separate.remove handle) (remove_sent world.bus handle)
      (fun _ member => (List.mem_filter.mp member).1) rfl (fun _ member => member)
      fun _ _ member => member⟩
  | release =>
    obtain ⟨messenger, removed, sent, left⟩ := separate.removeAll scope.bindings.handles
    have released : (Request.perform .release scope world).2.bus =
        { world.bus with messenger } := removed
    rw [released]
    refine ⟨[], _, .removing left sent (fun _ member => (List.mem_filter.mp member).1) rfl
      (fun _ member => absurd member List.not_mem_nil) fun handle member bound => ?_⟩
    have other := List.all_eq_true.mp (List.mem_filter.mp member).2 handle bound
    simp at other
  | dispatch message name =>
    exact ⟨[], live, .of_same (separate.dispatch _ _ _) rfl _
      (fun _ member _ old => separate.within_dispatch _ _ _ member old)
      fun _ other => sentMessages_dispatch _ _ _ _ other⟩
  | drain slot =>
    exact ⟨[], live, .emptying (separate.resetSlot slot) (fun _ _ old => old.resetSlot slot) rfl⟩
  | resetSlot slot =>
    exact ⟨[], live, .emptying (separate.resetSlot slot) (fun _ _ old => old.resetSlot slot) rfl⟩
  | resetHandle handle =>
    exact ⟨[], live, .emptying (separate.resetEach [handle]) (fun _ _ old => old.reset handle) rfl⟩
  | resetAll =>
    have reset : (Request.perform .resetAll scope world).2.bus =
        { world.bus with store := resetEach scope.bindings.handles world.bus.store } :=
      Bindings.reset_eq scope.bindings world.bus
    rw [reset]
    exact ⟨[], live, .emptying (separate.resetEach _) (fun _ _ old => old.resetEach _) rfl⟩
  | draw wanted => exact ⟨[], live, .idle separate rfl⟩
  | _ => exact ⟨[], live, .idle separate rfl⟩

end Footprint

end Beamline.Run
