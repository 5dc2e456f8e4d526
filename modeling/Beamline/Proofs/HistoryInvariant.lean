import Beamline.Bus.History
import Beamline.Proofs.RegistryInvariant
import Mathlib.Data.List.Pairwise

namespace Beamline.Bus

/-- Where a delegate keeps what it got: in a slot, or in the state of its filter. -/
inductive Place
  | slot (slot : Slot)
  | filter (number : Nat)
  deriving DecidableEq

def Binding.place : Binding Installed → Place
  | slot storage => .slot storage
  | filter _ installed | anyFilter installed => .filter installed.number

def Handle.place (handle : Handle) : Place :=
  handle.delegate.binding.place

theorem Binding.place_eq_slot {binding : Binding Installed} {slot : Slot} :
    binding.place = .slot slot ↔ binding.slot? = some slot := by
  cases binding <;> simp [Binding.place, Binding.slot?]

theorem Delegate.typeKey_of_slot {delegate : Delegate} {slot : Slot}
    (fills : delegate.binding.slot? = some slot) : delegate.typeKey = .payload slot.payload := by
  cases bound : delegate.binding <;> simp_all [Binding.slot?, Delegate.typeKey, Binding.payload]

/-- The check for taken slots looks at the delegates of one type, and misses none. -/
theorem Registry.Lists.fills_iff {registry : Registry} {live : List Handle}
    (lists : registry.Lists live) (slot : Slot) :
    registry.fills slot = true ↔ ∃ handle ∈ live, handle.place = .slot slot := by
  simp only [Registry.fills, List.any_eq_true, beq_iff_eq, Handle.place, Binding.place_eq_slot]
  constructor
  · intro taken
    obtain ⟨handle, member, fills⟩ := taken
    refine ⟨handle, lists.mem_handles.mp (Registry.mem_handles_of_names member), fills⟩
  · intro taken
    obtain ⟨handle, member, fills⟩ := taken
    obtain ⟨names, bucket, typed, named, found⟩ := lists.exists_bucket member
    rw [Delegate.typeKey_of_slot fills] at typed
    refine ⟨handle, ?_, fills⟩
    rw [Registry.names, Std.HashMap.getD_eq_getD_getElem?, typed]
    exact NameMap.mem_handles.mpr ⟨_, bucket, named, found⟩

/-! ## What operations leave alone -/

@[simp]
theorem Store.resetSlot_next (store : Store) (slot : Slot) :
    (store.resetSlot slot).next = store.next := rfl

@[simp]
theorem Store.resetFilter_next (store : Store) (number : Nat) :
    (store.resetFilter number).next = store.next := rfl

@[simp]
theorem Store.remember_next (store : Store) (filter : Filter) (call : Call) :
    (store.remember filter call).next = store.next := by
  unfold Store.remember
  split <;> rfl

@[simp]
theorem Store.ask_next (store : Store) (number : Nat) (filter : Filter) (message : Message)
    (name : Option String) : (store.ask number filter message name).2.next = store.next := by
  simp [Store.ask]

private theorem Store.put_next {store after : Store} {slot : Slot} {message : Message}
    {overwrite : Bool}
    (stored : store.put slot message overwrite = some after) : after.next = store.next := by
  unfold Store.put at stored
  split at stored
  · split at stored
    · simp at stored
    · cases stored
      rfl
  · cases stored
    rfl

@[simp]
theorem Handle.process_next (handle : Handle) (store : Store) (message : Message) (name : String) :
    (handle.process store message name).2.next = store.next := by
  unfold Handle.process
  split
  · split
    · rfl
    · split
      · rfl
      · rename_i stored
        exact Store.put_next stored
  · split <;> simp
  · simp

@[simp]
theorem deliver_next (handles : List Handle) (store : Store) (message : Message) (name : String) :
    (deliver store message name handles).2.next = store.next := by
  induction handles generalizing store with
  | nil => rfl
  | cons handle rest ih =>
    have kept := Handle.process_next handle store message name
    unfold deliver
    split
    · rename_i processed
      rw [processed] at kept
      exact kept
    · rename_i middle processed
      rw [processed] at kept
      split <;> (rename_i delivered; rw [← kept, ← ih middle, delivered])

@[simp]
theorem Delegate.reset_next (delegate : Delegate) (store : Store) :
    (delegate.reset store).next = store.next := by
  unfold Delegate.reset
  split <;> simp

/-! ## What a dispatch does, by the outcome of the delivery -/

theorem dispatch_of_error {bus : Bus} {source : Identity} {message : Message} {name : String}
    {error : BusError} {store : Store}
    (delivered : deliver bus.store message name (bus.messenger.candidates source message name) =
      (.error error, store)) :
    bus.dispatch source message name = (.error error, {
      messenger := { bus.messenger with
        stats := { bus.messenger.stats with failed := bus.messenger.stats.failed + 1 } }
      store }) := by
  simp only [Bus.dispatch, delivered]

theorem dispatch_of_ok {bus : Bus} {source : Identity} {message : Message} {name : String}
    {accepted : Nat} {store : Store}
    (delivered : deliver bus.store message name (bus.messenger.candidates source message name) =
      (.ok accepted, store)) :
    bus.dispatch source message name = (
      .ok { invoked := (bus.messenger.candidates source message name).length, accepted }, {
        messenger := { bus.messenger with
          stats := { bus.messenger.stats with
            dispatched := bus.messenger.stats.dispatched + 1
            deliveries := bus.messenger.stats.deliveries + accepted
            unreceived :=
              if accepted = 0 then bus.messenger.stats.unreceived + 1
              else bus.messenger.stats.unreceived }
          sent := bus.messenger.sent.insert source.lane
            (bus.messenger.sentMessages source.lane ++ [message]) }
        store }) := by
  simp only [Bus.dispatch, delivered]

/-- A dispatch leaves both maps of the registry alone, whatever comes of it. -/
theorem dispatch_frame (bus : Bus) (source : Identity) (message : Message) (name : String) :
    (bus.dispatch source message name).2.messenger.registry = bus.messenger.registry ∧
      (bus.dispatch source message name).2.messenger.nextId = bus.messenger.nextId ∧
      (bus.dispatch source message name).2.store =
        (deliver bus.store message name (bus.messenger.candidates source message name)).2 := by
  rcases delivered : deliver bus.store message name
    (bus.messenger.candidates source message name) with ⟨error | accepted, store⟩
  · rw [dispatch_of_error delivered]
    exact ⟨rfl, rfl, rfl⟩
  · rw [dispatch_of_ok delivered]
    exact ⟨rfl, rfl, rfl⟩

/-! ## What a registration does -/

theorem register_of_refused {bus : Bus} {receiver : Identity} {binding : Binding Filter}
    {flags : Flags} {reason : Refusal}
    (refused : bus.messenger.refusal binding flags = some reason) :
    bus.register receiver binding flags =
      (.error (.invalidBinding (bindingName receiver binding) binding.payloadName
        (NameKey.ofReceiver receiver flags).display reason), bus) := by
  simp only [Bus.register, refused]

/-- The handle that a suitable registration returns. -/
def nextHandle (bus : Bus) (receiver : Identity) (binding : Binding Filter) (flags : Flags) :
    Handle where
  id := bus.messenger.nextId
  delegate := { receiver, flags, binding := (install bus.store binding).1 }

theorem register_of_suitable {bus : Bus} {receiver : Identity} {binding : Binding Filter}
    {flags : Flags} (suitable : bus.messenger.refusal binding flags = none) :
    bus.register receiver binding flags = (.ok (bus.nextHandle receiver binding flags), {
      messenger := { bus.messenger with
        registry := bus.messenger.registry.insert (bus.nextHandle receiver binding flags)
        nextId := bus.messenger.nextId + 1
        stats := { bus.messenger.stats with registered := bus.messenger.stats.registered + 1 } }
      store := (install bus.store binding).2 }) := by
  simp only [Bus.register, suitable, nextHandle]

theorem fills_of_suitable {messenger : Messenger} {binding : Binding Filter} {flags : Flags}
    {slot : Slot} (suitable : messenger.refusal binding flags = none)
    (bound : binding.slot? = some slot) : messenger.registry.fills slot = false := by
  unfold Messenger.refusal at suitable
  split at suitable
  · simp at suitable
  · simpa [bound] using suitable

theorem slot_of_nextHandle {bus : Bus} {receiver : Identity} {binding : Binding Filter}
    {flags : Flags} {slot : Slot}
    (place : (nextHandle bus receiver binding flags).place = .slot slot) :
    binding.slot? = some slot := by
  cases binding with
  | slot bound =>
    cases place
    rfl
  | filter payload filter => cases place
  | anyFilter filter => cases place

/-- A new filter gets the next number of the store, which is then used up. -/
theorem number_of_nextHandle {bus : Bus} {receiver : Identity} {binding : Binding Filter}
    {flags : Flags} {number : Nat}
    (place : (nextHandle bus receiver binding flags).place = .filter number) :
    number = bus.store.next ∧ (install bus.store binding).2.next = bus.store.next + 1 := by
  cases binding with
  | slot bound => cases place
  | filter payload filter =>
    cases place
    exact ⟨rfl, rfl⟩
  | anyFilter filter =>
    cases place
    exact ⟨rfl, rfl⟩

theorem install_next_le (store : Store) (binding : Binding Filter) :
    store.next ≤ (install store binding).2.next := by
  cases binding with
  | slot slot => exact Nat.le_refl _
  | filter payload filter => exact Nat.le_succ _
  | anyFilter filter => exact Nat.le_succ _

/-! ## Every history -/

theorem Usage.answers_cons (usage : Usage) (operation : Operation) (rest : List Operation) :
    usage.answers (operation :: rest) =
      (usage.step operation).1 :: (usage.step operation).2.answers rest := rfl

theorem issued_cons (answer : Answer) (answers : List Answer) :
    issued (answer :: answers) = answer.handle?.toList ++ issued answers := by
  cases found : answer.handle? <;> simp [issued, found]

/-- What holds of a bus in use, with the delegates ever returned and those not removed since. -/
structure Usage.Sound (usage : Usage) (returned live : List Handle) : Prop where
  lists : usage.bus.messenger.registry.Lists live
  /-- Numbers are handed out one after the other. -/
  numbered : returned.map Handle.id = List.range usage.bus.messenger.nextId
  registered : live.Sublist returned
  kept : ∀ (label : String) (handle : Handle),
    usage.kept[label]? = some handle → handle ∈ returned
  slotsApart : live.Pairwise fun first second =>
    ∀ slot, first.place = .slot slot → second.place ≠ .slot slot
  filtersApart : returned.Pairwise fun first second =>
    ∀ number, first.place = .filter number → second.place ≠ .filter number
  installed : ∀ handle ∈ returned, ∀ number, handle.place = .filter number →
    number < usage.bus.store.next

namespace Usage

variable {usage later : Usage} {returned live : List Handle}

theorem sound_fresh (store : Store) : (fresh store).Sound [] [] where
  lists := Registry.lists_empty
  numbered := rfl
  registered := List.Sublist.refl _
  kept label handle found := by simp [fresh] at found
  slotsApart := List.Pairwise.nil
  filtersApart := List.Pairwise.nil
  installed := by simp

namespace Sound

theorem id_lt (sound : usage.Sound returned live) {handle : Handle} (member : handle ∈ returned) :
    handle.id < usage.bus.messenger.nextId := by
  have listed : handle.id ∈ returned.map Handle.id := List.mem_map_of_mem member
  rwa [sound.numbered, List.mem_range] at listed

theorem ordered (sound : usage.Sound returned live) : Ordered returned := by
  have increasing : (returned.map Handle.id).Pairwise (· < ·) := by
    rw [sound.numbered]
    exact List.pairwise_lt_range
  exact List.pairwise_map.mp increasing

/-- No two registered delegates keep what they get in the same place. -/
theorem placesApart (sound : usage.Sound returned live) :
    live.Pairwise fun first second => first.place ≠ second.place := by
  have both := sound.slotsApart.and (sound.filtersApart.sublist sound.registered)
  refine both.imp fun {first second} apart same => ?_
  cases kept : first.place with
  | slot slot => exact apart.1 slot kept (same ▸ kept)
  | filter number => exact apart.2 number kept (same ▸ kept)

theorem eq_of_filter (sound : usage.Sound returned live) {handle other : Handle}
    (member : handle ∈ returned) (present : other ∈ returned) {number : Nat}
    (place : handle.place = .filter number) (same : other.place = .filter number) :
    handle = other := by
  have symmetric : Std.Symm fun first second : Handle =>
      ∀ number, first.place = .filter number → second.place ≠ .filter number :=
    ⟨fun _ _ apart number one another => apart number another one⟩
  by_contra different
  exact sound.filtersApart.forall member present different number place same

/-- Whatever leaves the registry, the numbering and the kept handles alone keeps the invariant. -/
theorem frame (sound : usage.Sound returned live)
    (registry : later.bus.messenger.registry = usage.bus.messenger.registry)
    (nextId : later.bus.messenger.nextId = usage.bus.messenger.nextId)
    (kept : later.kept = usage.kept) (next : later.bus.store.next = usage.bus.store.next) :
    later.Sound returned live where
  lists := registry ▸ sound.lists
  numbered := nextId ▸ sound.numbered
  registered := sound.registered
  kept := kept ▸ sound.kept
  slotsApart := sound.slotsApart
  filtersApart := sound.filtersApart
  installed := next ▸ sound.installed

theorem register (sound : usage.Sound returned live) (label : String) (receiver : Identity)
    (binding : Binding Filter) (flags : Flags) :
    (usage.register label receiver binding flags).2.Sound
      (returned ++ (usage.register label receiver binding flags).1.handle?.toList)
      ((usage.register label receiver binding flags).1.follow live) := by
  cases refusal : usage.bus.messenger.refusal binding flags with
  | some reason =>
    simp only [Usage.register, register_of_refused refusal, Answer.handle?, Option.toList_none,
      List.append_nil, Answer.follow]
    exact sound
  | none =>
    have free (slot : Slot) (place : (nextHandle usage.bus receiver binding flags).place =
        .slot slot) : ∀ other ∈ live, other.place ≠ .slot slot := by
      intro other member filled
      have taken := (sound.lists.fills_iff slot).mpr ⟨other, member, filled⟩
      rw [fills_of_suitable refusal (slot_of_nextHandle place)] at taken
      cases taken
    simp only [Usage.register, register_of_suitable refusal, Answer.handle?, Option.toList_some,
      Answer.follow]
    exact {
      lists := sound.lists.insert fun other member => sound.id_lt (sound.registered.subset member)
      numbered := by
        rw [List.map_append, sound.numbered, List.range_succ]
        rfl
      registered := sound.registered.append (List.Sublist.refl _)
      kept := by
        intro called handle found
        rw [Std.HashMap.getElem?_insert] at found
        split at found
        · cases found
          exact List.mem_append_right _ (List.mem_singleton.mpr rfl)
        · exact List.mem_append_left _ (sound.kept called handle found)
      slotsApart := List.pairwise_append.mpr ⟨sound.slotsApart, List.pairwise_singleton _ _, by
        intro other member handle new slot filled place
        rw [List.mem_singleton.mp new] at place
        exact free slot place other member filled⟩
      filtersApart := List.pairwise_append.mpr ⟨sound.filtersApart, List.pairwise_singleton _ _, by
        intro other member handle new taken kept place
        rw [List.mem_singleton.mp new] at place
        have below := sound.installed other member taken kept
        rw [(number_of_nextHandle place).1] at below
        exact Nat.lt_irrefl _ below⟩
      installed := by
        intro handle member taken kept
        rcases List.mem_append.mp member with old | new
        · exact Nat.lt_of_lt_of_le (sound.installed handle old taken kept) (install_next_le _ _)
        · rw [List.mem_singleton.mp new] at kept
          obtain ⟨same, next⟩ := number_of_nextHandle kept
          simp only [next, same]
          exact Nat.lt_succ_self _ }

theorem remove (sound : usage.Sound returned live) (handle : Handle) :
    ({ usage with bus := (usage.bus.remove handle).2 } : Usage).Sound returned
      (live.filter fun other => other.id != handle.id) := by
  by_cases member : ∃ listed ∈ live, listed.id = handle.id
  · obtain ⟨listed, member, same⟩ := member
    obtain ⟨success, lists⟩ := sound.lists.erase member same
    rcases erased : usage.bus.messenger.registry.erase handle with ⟨fault, registry⟩
    rw [erased] at success lists
    subst success
    simp only [Bus.remove, Messenger.remove, erased]
    exact {
      lists
      numbered := sound.numbered
      registered := List.filter_sublist.trans sound.registered
      kept := sound.kept
      slotsApart := sound.slotsApart.filter _
      filtersApart := sound.filtersApart
      installed := sound.installed }
  · have missing : ∀ listed ∈ live, listed.id ≠ handle.id :=
      fun listed present same => member ⟨listed, present, same⟩
    have unchanged : live.filter (fun other => other.id != handle.id) = live :=
      List.filter_eq_self.mpr fun listed present => by simpa using missing listed present
    simp only [Bus.remove, Messenger.remove, sound.lists.erase_of_missing missing, unchanged]
    exact sound

/-- One operation keeps the invariant. -/
theorem step (sound : usage.Sound returned live) (operation : Operation) :
    (usage.step operation).2.Sound (returned ++ (usage.step operation).1.handle?.toList)
      ((usage.step operation).1.follow live) := by
  have unchanged (answer : Answer) (silent : answer.handle? = none)
      (same : answer.follow live = live) {later : Usage} (kept : later.Sound returned live) :
      later.Sound (returned ++ answer.handle?.toList) (answer.follow live) := by
    rw [silent, same]
    simpa using kept
  cases operation with
  | register label receiver binding flags => exact sound.register label receiver binding flags
  | remove label =>
    simp only [Usage.step, Usage.withHandle]
    cases found : usage.kept[label]? with
    | none => exact unchanged _ rfl rfl sound
    | some handle => simpa [Answer.handle?, Answer.follow] using sound.remove handle
  | reset label =>
    simp only [Usage.step, Usage.withHandle]
    cases found : usage.kept[label]? with
    | none => exact unchanged _ rfl rfl sound
    | some handle =>
      exact unchanged _ rfl rfl (sound.frame rfl rfl rfl (Delegate.reset_next _ _))
  | inspect label =>
    simp only [Usage.step, Usage.withHandle]
    cases found : usage.kept[label]? with
    | none => exact unchanged _ rfl rfl sound
    | some handle => exact unchanged _ rfl rfl sound
  | dispatch source message name =>
    obtain ⟨registry, nextId, store⟩ := dispatch_frame usage.bus source message name
    exact unchanged _ rfl rfl (sound.frame registry nextId rfl (by
      simp [Usage.step, store]))
  | hasReceiver source message name => exact unchanged _ rfl rfl sound
  | read slot => exact unchanged _ rfl rfl sound
  | drain slot => exact unchanged _ rfl rfl (sound.frame rfl rfl rfl rfl)
  | resetSlot slot => exact unchanged _ rfl rfl (sound.frame rfl rfl rfl rfl)
  | sentMessages lane => exact unchanged _ rfl rfl sound
  | clearSent lane => exact unchanged _ rfl rfl (sound.frame rfl rfl rfl rfl)

/-- A run keeps the invariant, with what it returned added to the delegates returned before. -/
theorem run (sound : usage.Sound returned live) (operations : List Operation) :
    (usage.after operations).Sound (returned ++ issued (usage.answers operations))
      ((usage.answers operations).foldl Answer.follow live) := by
  induction operations generalizing usage returned live with
  | nil => simpa [Usage.after, Usage.answers, Usage.run, issued] using sound
  | cons operation rest ih =>
    have stepped := ih (sound.step operation)
    rw [List.append_assoc, ← issued_cons] at stepped
    exact stepped

end Sound

/-- Whatever was done with a fresh messenger, it is sound. -/
theorem sound_after (store : Store) (operations : List Operation) :
    ((fresh store).after operations).Sound (issued ((fresh store).answers operations))
      (Bus.live ((fresh store).answers operations)) := by
  have ran := (sound_fresh store).run operations
  rw [List.nil_append] at ran
  exact ran

end Usage

end Beamline.Bus
