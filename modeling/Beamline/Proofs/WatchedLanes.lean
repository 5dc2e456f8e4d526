import Beamline.Demo.Monitor
import Beamline.Proofs.Delivery
import Beamline.Proofs.ExchangeInvariant
import Beamline.Proofs.PlaceHistory
import Beamline.Proofs.Twins

namespace Beamline.Bus

namespace Handle

/-- Whether a delegate gets what is dispatched in a lane under the empty name. -/
def Takes (handle : Handle) (lane : LaneId) (message : Message) : Prop :=
  handle.delegate.Wants { number := 0, name := "", lane } message ""

instance (handle : Handle) (lane : LaneId) (message : Message) :
    Decidable (handle.Takes lane message) :=
  inferInstanceAs (Decidable (handle.delegate.Wants _ _ _))

/-- A delegate of a monitor. -/
structure Watches (handle : Handle) (tally : Nat) : Prop where
  binding : ∃ number, handle.delegate.binding =
    .anyFilter { number, filter := Demo.Monitor.watcher tally }
  everyName : handle.delegate.flags.ignoreName = true
  everyDetector : handle.delegate.receiver.detector = none

/-- Monitors get every message of their lane. -/
theorem Watches.takes_iff {handle : Handle} {tally : Nat} (watches : handle.Watches tally)
    {lane : LaneId} {message : Message} : handle.Takes lane message ↔ handle.lane = lane := by
  obtain ⟨⟨number, bound⟩, named, everywhere⟩ := watches
  simp [Takes, Delegate.Wants, named, everywhere, bound, Binding.payload, Handle.lane]

theorem accepts_of_process {handle : Handle} {tally : Nat}
    (known : (∃ slot, handle.place = .slot slot) ∨ handle.Watches tally) {store after : Store}
    {message : Message} {name : String} {accepted : Bool}
    (processed : handle.process store message name = (.ok accepted, after)) :
    accepted = true := by
  unfold Handle.process at processed
  rcases known with ⟨slot, place⟩ | watches
  · have bound := Binding.place_eq_slot.mp place
    cases stored : handle.delegate.binding with
    | slot storage =>
      rw [stored] at processed
      simp only at processed
      split at processed
      · cases processed
      · split at processed
        · cases processed
        · cases processed
          rfl
    | filter payload installed =>
      rw [stored] at bound
      cases bound
    | anyFilter installed =>
      rw [stored] at bound
      cases bound
  · obtain ⟨number, bound⟩ := watches.binding
    rw [bound] at processed
    cases processed
    rfl

end Handle

/-- Every delegate fills a slot or is a monitor's. -/
def Watched (tally : Nat) (live : List Handle) : Prop :=
  ∀ handle ∈ live, (∃ slot, handle.place = .slot slot) ∨ handle.Watches tally

/-- Delegates that fill slots or are monitors' accept a message, all of them. -/
theorem Handled.answers_eq {message : Message} {name : String} {before after : Store}
    {handles : List Handle} {answers : List Bool}
    (handled : Handled message name before handles answers after) {tally : Nat}
    (watched : Watched tally handles) : answers = List.replicate handles.length true := by
  induction handled with
  | nil => rfl
  | cons first others ih =>
    have accepted := Handle.accepts_of_process (watched _ List.mem_cons_self) first
    rw [accepted, ih fun other member => watched other (List.mem_cons_of_mem _ member)]
    rfl

theorem Delivered.received_of_mem {message : Message} {name : String} {before after : Store}
    {handles : List Handle} {answers : List Bool}
    (delivered : Delivered message name before handles answers after) {handle : Handle}
    (member : handle ∈ handles) :
    ∃ accepted ∈ answers, handle.Received message name before after accepted := by
  obtain ⟨position, within, rfl⟩ := List.getElem_of_mem member
  have bound : position < answers.length := delivered.received.length_eq ▸ within
  exact ⟨answers[position], List.getElem_mem bound,
    (List.forall₂_iff_get.mp delivered.received).2 position within bound⟩

/-- The candidates of a dispatch are the delegates that take the message. -/
theorem Sound.length_candidates {bus : Bus} {returned live : List Handle}
    (sound : bus.Sound returned live) (source : Identity) (message : Message) :
    (bus.messenger.candidates source message "").length =
      live.countP fun handle => handle.Takes source.lane message := by
  have permuted : (bus.messenger.candidates source message "").Perm
      (live.filter fun handle => handle.Takes source.lane message) := by
    refine (List.perm_ext_iff_of_nodup (sound.lists.candidates_nodup source message "")
      (sound.lists.ordered.filter _).nodup).mpr fun handle => ?_
    rw [List.mem_filter, decide_eq_true_eq]
    exact sound.lists.mem_candidates
  rw [permuted.length_eq, List.countP_eq_length_filter]

/-- If no slot stands in the way, a message comes to all delegates that take it, and to no other
place of a delegate. -/
theorem Sound.deliver_taken {bus : Bus} {returned live : List Handle} {tally : Nat}
    (sound : bus.Sound returned live) (watched : Watched tally live) {source : Identity}
    {message : Message}
    (opened : ∀ handle ∈ live, handle.Takes source.lane message → ¬handle.Blocked bus.store) :
    ∃ store, deliver bus.store message "" (bus.messenger.candidates source message "") =
        (.ok (live.countP fun handle => handle.Takes source.lane message), store) ∧
      (∀ handle ∈ live, handle.Takes source.lane message →
        handle.Received message "" bus.store store true) ∧
      ∀ handle ∈ live, ¬handle.Takes source.lane message →
        handle.place.Same bus.store store := by
  have listed (handle : Handle) : handle ∈ bus.messenger.candidates source message "" ↔
      handle ∈ live ∧ handle.Takes source.lane message := sound.lists.mem_candidates
  have free (handle : Handle) (member : handle ∈ bus.messenger.candidates source message "") :
      ¬handle.Blocked bus.store :=
    opened handle ((listed handle).mp member).1 ((listed handle).mp member).2
  obtain ⟨answers, store, completed, delivered⟩ := Usage.Sound.dispatch_of_open sound free
  have known : Watched tally (bus.messenger.candidates source message "") :=
    fun handle member => watched handle ((listed handle).mp member).1
  have accepted := delivered.handled.answers_eq known
  refine ⟨store, ?_, fun handle member takes => ?_, fun handle member other => ?_⟩
  · rw [completed, accepted, List.count_replicate_self, sound.length_candidates]
  · obtain ⟨answer, given, received⟩ :=
      delivered.received_of_mem ((listed handle).mpr ⟨member, takes⟩)
    rw [accepted] at given
    rwa [List.eq_of_mem_replicate given] at received
  · exact (Usage.Sound.untouched sound (fun other present => ((listed other).mp present).1)
      delivered handle member fun present => other ((listed handle).mp present).2).1

/-! ## The filters of a store -/

/-- Which tally a filter counts in, if it is a filter of the store. -/
def Store.tallyOf? (store : Store) (number : Nat) : Option (Option Nat) :=
  store.filters[number]?.map FilterState.tally

private theorem Store.tallyOf?_insert {store : Store} {number : Nat} {state : FilterState}
    (known : store.tallyOf? number = some state.tally) (other : Nat) :
    ({ store with filters := store.filters.insert number state } : Store).tallyOf? other =
      store.tallyOf? other := by
  unfold Store.tallyOf? at *
  rw [Std.HashMap.getElem?_insert]
  split
  · rename_i same
    rw [← eq_of_beq same, known]
    rfl
  · rfl

theorem Store.tallyOf?_eq {store : Store} {number : Nat}
    (known : (store.tallyOf? number).isSome = true) :
    store.tallyOf? number = some (store.filterState number).tally := by
  unfold Store.tallyOf? Store.filterState at *
  cases found : store.filters[number]? with
  | none => simp [found] at known
  | some state => simp [Std.HashMap.getD_eq_getD_getElem?, found]

theorem Store.tallyOf?_resetFilter {store : Store} {number : Nat}
    (known : (store.tallyOf? number).isSome = true) (other : Nat) :
    (store.resetFilter number).tallyOf? other = store.tallyOf? other := by
  have same : store.tallyOf? number =
      some ({ store.filterState number with delivered := false } : FilterState).tally :=
    Store.tallyOf?_eq known
  exact Store.tallyOf?_insert same other

theorem Store.tallyOf?_ask {store : Store} {number : Nat}
    (known : (store.tallyOf? number).isSome = true) (filter : Filter) (message : Message)
    (name : Option String) (other : Nat) :
    (store.ask number filter message name).2.tallyOf? other = store.tallyOf? other := by
  have same := Store.tallyOf?_eq known
  unfold Store.tallyOf? at same ⊢
  simp only [Store.ask, Std.HashMap.getElem?_insert]
  split
  · rename_i equal
    rw [← eq_of_beq equal, same]
    rfl
  · rfl

/-- A delegate whose filter, if it asks one, is a filter of the store. -/
def Handle.Known (handle : Handle) (store : Store) : Prop :=
  ∀ number, handle.place = .filter number → (store.tallyOf? number).isSome = true

private theorem Handle.tallyOf?_process {handle : Handle} {store : Store}
    (known : handle.Known store)
    (message : Message) (name : String) (number : Nat) :
    (handle.process store message name).2.tallyOf? number = store.tallyOf? number := by
  unfold Handle.process
  cases bound : handle.delegate.binding with
  | slot slot =>
    simp only
    split
    · rfl
    · split
      · rfl
      · rename_i after stored
        unfold Store.put at stored
        split at stored
        · split at stored
          · cases stored
          · cases stored
            rfl
        · cases stored
          rfl
  | filter payload installed =>
    have present := known installed.number (by rw [Handle.place, bound]; rfl)
    simp only
    split
    · rfl
    · exact Store.tallyOf?_ask present _ _ _ number
  | anyFilter installed =>
    have present := known installed.number (by rw [Handle.place, bound]; rfl)
    exact Store.tallyOf?_ask present _ _ _ number

/-- Deliveries change neither which filters there are nor where they count. -/
theorem tallyOf?_deliver {handles : List Handle} {store : Store}
    (known : ∀ handle ∈ handles, handle.Known store) (message : Message) (name : String)
    (number : Nat) :
    (deliver store message name handles).2.tallyOf? number = store.tallyOf? number := by
  induction handles generalizing store with
  | nil => rfl
  | cons handle rest ih =>
    have kept := Handle.tallyOf?_process (known handle List.mem_cons_self) message name
    unfold deliver
    rcases processed : handle.process store message name with ⟨error | accepted, middle⟩
    · rw [processed] at kept
      exact kept number
    · rw [processed] at kept
      have further : (deliver middle message name rest).2.tallyOf? number =
          middle.tallyOf? number := ih fun other member place found => by
        rw [kept]
        exact known other (List.mem_cons_of_mem _ member) place found
      rcases delivered : deliver middle message name rest with ⟨error | count, after⟩ <;>
        simpa only [delivered] using further.trans (kept number)

private theorem Handle.tallyOf?_reset {handle : Handle} {store : Store} (known : handle.Known store)
    (number : Nat) : (handle.delegate.reset store).tallyOf? number = store.tallyOf? number := by
  unfold Delegate.reset
  cases bound : handle.delegate.binding with
  | slot slot => rfl
  | filter payload installed =>
    exact Store.tallyOf?_resetFilter (known _ (by rw [Handle.place, bound]; rfl)) number
  | anyFilter installed =>
    exact Store.tallyOf?_resetFilter (known _ (by rw [Handle.place, bound]; rfl)) number

/-! ## Emptying the storage of delegates -/

/-- The store after delegates are reset one after the other. -/
def resetEach (handles : List Handle) (store : Store) : Store :=
  handles.foldl (fun store handle => handle.delegate.reset store) store

theorem Bindings.reset_eq (bindings : Bindings) (bus : Bus) :
    bindings.reset bus = { bus with store := resetEach bindings.handles bus.store } := by
  unfold Bindings.reset
  induction bindings.handles generalizing bus with
  | nil => rfl
  | cons handle rest ih => exact ih _

private theorem Handle.contents_reset (handle : Handle) (store : Store) (slot : Slot) :
    (handle.delegate.reset store).contents slot =
      if handle.place = .slot slot then [] else store.contents slot := by
  unfold Delegate.reset Handle.place
  cases handle.delegate.binding with
  | slot storage => simp [Binding.place, Store.resetSlot]
  | filter payload installed => rfl
  | anyFilter installed => rfl

theorem Handle.calls_reset (handle : Handle) (store : Store) (number : Nat) :
    ((handle.delegate.reset store).filterState number).calls =
      (store.filterState number).calls := by
  have kept (filter : Nat) : ((store.resetFilter filter).filterState number).calls =
      (store.filterState number).calls := by
    rw [Store.filterState_resetFilter]
    split
    · rename_i same
      rw [same]
    · rfl
  unfold Delegate.reset
  cases handle.delegate.binding with
  | slot storage => rfl
  | filter payload installed => exact kept _
  | anyFilter installed => exact kept _

section ResetEach

variable (handles : List Handle) (store : Store)

theorem resetEach_next : (resetEach handles store).next = store.next := by
  induction handles generalizing store with
  | nil => rfl
  | cons handle rest ih => exact (ih _).trans (Delegate.reset_next _ _)

theorem resetEach_contents (slot : Slot) : (resetEach handles store).contents slot =
    if ∃ handle ∈ handles, handle.place = .slot slot then [] else store.contents slot := by
  induction handles generalizing store with
  | nil => simp [resetEach]
  | cons handle rest ih =>
    refine (ih (handle.delegate.reset store)).trans ?_
    rw [Handle.contents_reset]
    by_cases later : ∃ other ∈ rest, other.place = .slot slot <;>
      by_cases first : handle.place = .slot slot <;> simp_all

theorem resetEach_calls (number : Nat) : ((resetEach handles store).filterState number).calls =
    (store.filterState number).calls := by
  induction handles generalizing store with
  | nil => rfl
  | cons handle rest ih => exact (ih _).trans (handle.calls_reset store number)

theorem resetEach_tallyOf? (known : ∀ handle ∈ handles, handle.Known store) (number : Nat) :
    (resetEach handles store).tallyOf? number = store.tallyOf? number := by
  induction handles generalizing store with
  | nil => rfl
  | cons handle rest ih =>
    have kept := handle.tallyOf?_reset (known handle List.mem_cons_self)
    refine (ih _ fun other member place found => ?_).trans (kept number)
    rw [kept]
    exact known other (List.mem_cons_of_mem _ member) place found

theorem resetEach_same (place : Place) (elsewhere : ∀ handle ∈ handles, handle.place ≠ place) :
    place.Same store (resetEach handles store) := by
  induction handles generalizing store with
  | nil => exact .refl place store
  | cons handle rest ih =>
    exact ((handle.reset_place store).2 place (elsewhere handle List.mem_cons_self)).trans
      (ih _ fun other member => elsewhere other (List.mem_cons_of_mem _ member))

end ResetEach

end Beamline.Bus
