import Beamline.Proofs.Asides
import Beamline.Proofs.EventShares
import Beamline.Proofs.LaneView
import Beamline.Proofs.ProgramLogic

/-!
Lanes with observers in them. For each lane there is a bench: some delegates that no observer has,
what their slots hold, and what was dispatched in the lane. Observers of any lane leave the benches
as they are.
-/

namespace Beamline.Bus

/-- If no slot stands in the way, a message comes to the delegates that take it and to no other. -/
theorem Sound.dispatch_taken {bus : Bus} {returned live : List Handle}
    (sound : bus.Sound returned live) {source : Identity} {message : Message}
    (opened : ∀ handle ∈ live, handle.Takes source.lane message → ¬handle.Blocked bus.store) :
    let dispatched := bus.dispatch source message ""
    (∃ report, dispatched.1 = .ok report) ∧
      (∀ handle ∈ live, handle.Takes source.lane message →
        ∃ accepted, handle.Received message "" bus.store dispatched.2.store accepted) ∧
      ∀ handle ∈ live, ¬handle.Takes source.lane message →
        handle.place.Same bus.store dispatched.2.store := by
  have listed (handle : Handle) : handle ∈ bus.messenger.candidates source message "" ↔
      handle ∈ live ∧ handle.Takes source.lane message := sound.lists.mem_candidates
  obtain ⟨answers, store, completed, delivered⟩ := Usage.Sound.dispatch_of_open sound
    fun handle member => opened handle ((listed handle).mp member).1 ((listed handle).mp member).2
  intro dispatched
  have same : dispatched.2.store = store := by rw [show dispatched = _ from dispatch_of_ok completed]
  refine ⟨⟨_, congrArg Prod.fst (dispatch_of_ok completed)⟩, ?_, ?_⟩
  · intro handle member takes
    obtain ⟨accepted, _, received⟩ :=
      delivered.received_of_mem ((listed handle).mpr ⟨member, takes⟩)
    exact ⟨accepted, same ▸ received⟩
  · intro handle member other
    rw [same]
    exact (Usage.Sound.untouched sound (fun other present => ((listed other).mp present).1)
      delivered handle member fun present => other ((listed handle).mp present).2).1

end Beamline.Bus

namespace Beamline.Run

open Bus

/-- What is known of a lane in which modules observe. -/
structure Bench extends View where
  /-- Delegates that belong to no observer. -/
  core : List Handle
  /-- Delegates that belong to observers. -/
  others : List Handle

namespace Bench

def empty : Bench where
  toView := .clear []
  core := []
  others := []

/-- A bench with more delegates of observers. -/
def join (bench : Bench) (handles : List Handle) : Bench :=
  { bench with others := bench.others ++ handles }

@[simp]
theorem join_nil (bench : Bench) : bench.join [] = bench := by
  simp [join]

@[simp]
theorem join_join (bench : Bench) (handles more : List Handle) :
    (bench.join handles).join more = bench.join (handles ++ more) := by
  simp [join]

/-- A bench with more delegates that belong to no observer. -/
def install (bench : Bench) (handles : List Handle) : Bench :=
  { bench with core := bench.core ++ handles }

@[simp]
theorem install_nil (bench : Bench) : bench.install [] = bench := by
  simp [install]

@[simp]
theorem install_install (bench : Bench) (handles more : List Handle) :
    (bench.install handles).install more = bench.install (handles ++ more) := by
  simp [install]

theorem join_install (bench : Bench) (handles more : List Handle) :
    (bench.join handles).install more = (bench.install more).join handles := rfl

/-- A bench after a message is dispatched. -/
def send (bench : Bench) (lane : LaneId) (event : UInt64) (message : Message) : Bench :=
  { bench with toView := bench.toView.send lane event message }

/-- A bench after the storage of delegates is emptied. -/
def emptied (bench : Bench) (handles : List Handle) : Bench :=
  { bench with toView := bench.toView.emptied handles }

/-- No filled slot of a bench stands in the way of a message. -/
def Free (bench : Bench) (lane : LaneId) (message : Message) : Prop :=
  ∀ handle ∈ bench.core, handle.Takes lane message → ∀ slot, handle.place = .slot slot →
    slot.kind = .single → bench.held handle = []

end Bench

/-- The messages that were dispatched in a lane, each with its event and its name. -/
def sentBy (lane : LaneId) (notes : List Note) : List (UInt64 × Message × String) :=
  ((sendings notes).filter fun sending => sending.lane = lane).map fun sending =>
    (sending.event, sending.message, sending.name)

theorem sentBy_silent (lane : LaneId) (notes : List Note) {note : Note}
    (silent : note.sending? = none) : sentBy lane (notes ++ [note]) = sentBy lane notes := by
  rw [sentBy, sendings_append, sendings_of_silent silent, List.append_nil]
  rfl

private theorem sentBy_sending (lane : LaneId) (notes : List Note) {note : Note} {sending : Sending}
    (sent : note.sending? = some sending) : sentBy lane (notes ++ [note]) =
      if sending.lane = lane then
        sentBy lane notes ++ [(sending.event, sending.message, sending.name)]
      else sentBy lane notes := by
  have one : sendings [note] = [sending] := by simp [sendings, sent]
  rw [sentBy, sendings_append, one, List.filter_append]
  split <;> simp [sentBy, *]

/-- A bench is as a lane has it. All registered delegates of the lane but those of the bench itself
are open. -/
structure Bench.Shows (bench : Bench) (lane : LaneId) (returned live : List Handle)
    (observed : Observed) : Prop where
  core : ∀ handle ∈ bench.core, handle ∈ live ∧ handle.lane = lane
  others : ∀ handle ∈ bench.others, handle ∈ returned ∧ handle.lane = lane ∧ handle ∉ bench.core
  opened : ∀ handle ∈ live, handle.lane = lane → handle ∈ bench.core ∨ handle.IsOpen
  held : ∀ handle ∈ bench.core, ∀ slot, handle.place = .slot slot →
    observed.1.bus.store.contents slot = bench.held handle
  sent : sentBy lane observed.2 = bench.sent.map fun (event, message) => (event, message, "")

/-- All lanes have their benches. As long as no lane is known to be able to fail, none has failed. -/
structure Layout (steady : Prop) (returned live : List Handle) (benches : Nat → Bench)
    (observed : Observed) : Prop where
  separate : observed.1.bus.Separate returned live
  shown : ∀ place ≤ ConfigError.maxWorkers,
    (benches place).Shows (laneOf place) returned live observed
  going : steady → observed.1.aborting = false

/-- The same, with the delegates left to be found. -/
def Laid (steady : Prop) (benches : Nat → Bench) (observed : Observed) : Prop :=
  ∃ returned live, Layout steady returned live benches observed

namespace Layout

variable {steady : Prop} {returned live issued left : List Handle} {benches : Nat → Bench}
  {before after : Observed} {own : Nat} {bench : Bench}

/-- What one lane does, as long as it leaves the delegates of the others alone. -/
theorem move (layout : Layout steady returned live benches before)
    (small : own ≤ ConfigError.maxWorkers) (separate : after.1.bus.Separate issued left)
    (more : returned ⊆ issued)
    (foreign : ∀ handle, handle.lane ≠ laneOf own → (handle ∈ left → handle ∈ live) ∧
      (handle ∈ live → handle ∈ left ∧
        handle.place.Same before.1.bus.store after.1.bus.store))
    (sent : ∀ lane ≠ laneOf own, sentBy lane after.2 = sentBy lane before.2)
    (going : steady → after.1.aborting = false)
    (shows_ : bench.Shows (laneOf own) issued left after) :
    Layout steady issued left (Function.update benches own bench) after where
  separate := separate
  shown := by
    intro place few
    by_cases same : place = own
    · subst same
      rwa [Function.update_self]
    · rw [Function.update_of_ne same]
      have other : laneOf place ≠ laneOf own := fun equal => same (laneOf_injective few small equal)
      have shown := layout.shown place few
      constructor
      · intro handle member
        obtain ⟨listed, theirs⟩ := shown.core handle member
        exact ⟨((foreign handle (theirs ▸ other)).2 listed).1, theirs⟩
      · intro handle member
        obtain ⟨known, theirs, apart⟩ := shown.others handle member
        exact ⟨more known, theirs, apart⟩
      · intro handle member theirs
        exact shown.opened handle ((foreign handle (theirs ▸ other)).1 member) theirs
      · intro handle member slot filled
        obtain ⟨listed, theirs⟩ := shown.core handle member
        have kept := ((foreign handle (theirs ▸ other)).2 listed).2
        rw [filled] at kept
        exact Eq.trans kept (shown.held handle member slot filled)
      · rw [sent _ other]
        exact shown.sent
  going := going

/-- What leaves the registered delegates and what they got alone. -/
theorem frame (layout : Layout steady returned live benches before)
    (separate : after.1.bus.Separate returned live)
    (contents : ∀ slot, after.1.bus.store.contents slot = before.1.bus.store.contents slot)
    (sent : ∀ lane, sentBy lane after.2 = sentBy lane before.2)
    (going : steady → after.1.aborting = false) : Layout steady returned live benches after where
  separate := separate
  shown place few := by
    obtain ⟨core, others, opened, held, known⟩ := layout.shown place few
    constructor
    · exact core
    · exact others
    · exact opened
    · exact fun handle member slot filled => (contents slot).trans (held handle member slot filled)
    · exact (sent _).trans known
  going := going

section Aside

variable {mine created : List Handle} {scope later : Scope} {note : Note}
  (layout : Layout steady returned live benches before) (small : own ≤ ConfigError.maxWorkers)
  (aside : Aside returned live mine created left scope later before.1.bus after.1.bus)
  (lane : scope.bindings.identity.lane = laneOf own)
  (known : ∀ handle ∈ mine, handle ∈ (benches own).others)

include layout small aside known

theorem foreign_of_aside {handle : Handle} (other : handle.lane ≠ laneOf own)
    (lane : scope.bindings.identity.lane = laneOf own) :
    (handle ∈ left → handle ∈ live) ∧ (handle ∈ live → handle ∈ left ∧
      handle.place.Same before.1.bus.store after.1.bus.store) := by
  constructor
  · intro member
    rcases aside.comes handle member with old | new
    · exact old
    · exact absurd ((aside.lane handle new).trans lane) other
  · intro member
    exact aside.stays handle member fun among =>
      other ((layout.shown own small).others handle (known handle among)).2.1

theorem core_of_aside {handle : Handle} (member : handle ∈ (benches own).core) :
    handle ∈ left ∧ handle.lane = laneOf own ∧ ∀ slot, handle.place = .slot slot →
      after.1.bus.store.contents slot = (benches own).held handle := by
  have shown := layout.shown own small
  obtain ⟨listed, home⟩ := shown.core handle member
  obtain ⟨stays, same⟩ := aside.stays handle listed fun among =>
    (shown.others handle (known handle among)).2.2 member
  refine ⟨stays, home, fun slot place => ?_⟩
  rw [place] at same
  exact Eq.trans same (shown.held handle member slot place)

include lane

/-- What an observer does adds to its own delegates at most. -/
theorem join (opened : ∀ handle ∈ created, handle.IsOpen) (noted : after.2 = before.2 ++ [note])
    (silent : note.sending? = none) (going : steady → after.1.aborting = false) :
    Layout steady (returned ++ created) left
      (Function.update benches own ((benches own).join created)) after := by
  have shown := layout.shown own small
  have sent (lane : LaneId) : sentBy lane after.2 = sentBy lane before.2 := by
    rw [noted, sentBy_silent lane before.2 silent]
  refine layout.move small aside.separate (List.subset_append_left _ _)
    (fun handle other => layout.foreign_of_aside small aside known other lane)
    (fun lane _ => sent lane) going ?_
  constructor
  · intro handle member
    obtain ⟨stays, home, _⟩ := layout.core_of_aside small aside known member
    exact ⟨stays, home⟩
  · intro handle member
    rcases List.mem_append.mp member with old | new
    · obtain ⟨issued, home, apart⟩ := shown.others handle old
      exact ⟨List.mem_append_left _ issued, home, apart⟩
    · refine ⟨List.mem_append_right _ new, (aside.lane handle new).trans lane, fun among => ?_⟩
      have listed := layout.separate.sound.registered.subset (shown.core handle among).1
      exact aside.not_created listed new
  · intro handle member home
    rcases aside.comes handle member with old | new
    · exact shown.opened handle old home
    · exact .inr (opened handle new)
  · intro handle member
    exact (layout.core_of_aside small aside known member).2.2
  · rw [sent]
    exact shown.sent

/-- What another module of the lane registers. -/
theorem install (empty : ∀ handle ∈ created, (benches own).held handle = [] ∧
      handle.place.Within after.1.bus.store []) (noted : after.2 = before.2 ++ [note])
    (silent : note.sending? = none) (going : steady → after.1.aborting = false) :
    Layout steady (returned ++ created) left
      (Function.update benches own ((benches own).install created)) after := by
  have shown := layout.shown own small
  have sent (lane : LaneId) : sentBy lane after.2 = sentBy lane before.2 := by
    rw [noted, sentBy_silent lane before.2 silent]
  refine layout.move small aside.separate (List.subset_append_left _ _)
    (fun handle other => layout.foreign_of_aside small aside known other lane)
    (fun lane _ => sent lane) going ?_
  constructor
  · intro handle member
    rcases List.mem_append.mp member with old | new
    · obtain ⟨stays, home, _⟩ := layout.core_of_aside small aside known old
      exact ⟨stays, home⟩
    · exact ⟨aside.registers handle new, (aside.lane handle new).trans lane⟩
  · intro handle member
    obtain ⟨issued, home, apart⟩ := shown.others handle member
    refine ⟨List.mem_append_left _ issued, home, fun among => ?_⟩
    rcases List.mem_append.mp among with old | new
    · exact apart old
    · exact aside.not_created issued new
  · intro handle member home
    rcases aside.comes handle member with old | new
    · exact (shown.opened handle old home).imp_left (List.mem_append_left _)
    · exact .inl (List.mem_append_right _ new)
  · intro handle member slot place
    rcases List.mem_append.mp member with old | new
    · exact (layout.core_of_aside small aside known old).2.2 slot place
    · obtain ⟨bare, nothing⟩ := empty handle new
      rw [place] at nothing
      exact (List.sublist_nil.mp nothing).trans bare.symm
  · rw [sent]
    exact shown.sent

end Aside

section Operations

variable {scope : Scope} (layout : Layout steady returned live benches before)
  (small : own ≤ ConfigError.maxWorkers)
  (lane : scope.bindings.identity.lane = laneOf own)

include layout small lane

/-- A dispatch in a lane reaches the delegates of the lane. No slot that is to be filled once stands
in the way, so it succeeds. -/
theorem dispatch {context : EventContext} {message : Message}
    (unnamed : scope.bindings.identity.output = "") (during : scope.context = some context)
    (free : (benches own).Free (laneOf own) message) :
    let performed := LaneOperation.performNoted (.request scope (.dispatch message none)) before
    (∃ report, performed.1 = (.ok report, scope)) ∧ Layout steady returned live
      (Function.update benches own ((benches own).send (laneOf own) context.event message))
      performed.2 := by
  have shown := layout.shown own small
  have opened (handle : Handle) (member : handle ∈ live)
      (takes : handle.Takes scope.bindings.identity.lane message) :
      ¬handle.Blocked before.1.bus.store := by
    rintro ⟨slot, place, single, _, filled⟩
    rw [lane] at takes
    rcases shown.opened handle member takes.1 with among | opened
    · have empty := free handle among takes slot place single
      rw [← shown.held handle among slot place] at empty
      simp [Store.isFilled, empty] at filled
    · cases (opened slot place).symm.trans single
  obtain ⟨⟨report, succeeds⟩, received, untouched⟩ :=
    Sound.dispatch_taken layout.separate.sound opened
  have separate := layout.separate.dispatch scope.bindings.identity message ""
  have same : LaneOperation.performNoted (.request scope (.dispatch message none)) before =
      ((.ok report, scope), { before.1 with
        bus := (before.1.bus.dispatch scope.bindings.identity message "").2 },
        before.2 ++ [⟨.request scope (.dispatch message none), (.ok report, scope)⟩]) := by
    simp only [LaneOperation.performNoted, LaneOperation.perform, Request.perform,
      Bindings.dispatch, unnamed, Option.getD_none, succeeds]
    rfl
  let note : Note := ⟨.request scope (.dispatch message none), (.ok report, scope)⟩
  have sending : note.sending? = some {
      lane := laneOf own, event := context.event, message, name := "", result := .ok report } := by
    simp [note, Note.sending?, during, unnamed, lane]
  have sent (other : LaneId) := sentBy_sending other before.2 sending
  rw [lane] at received untouched
  rw [same]
  refine ⟨⟨report, rfl⟩, layout.move small separate (List.Subset.refl _) (fun handle other => ?_)
    (fun other different => ?_) layout.going ?_⟩
  · exact ⟨id, fun member => ⟨member, untouched handle member fun takes => other takes.1⟩⟩
  · exact (sent other).trans (if_neg different.symm)
  · constructor
    · exact shown.core
    · exact shown.others
    · exact shown.opened
    · intro handle member slot place
      obtain ⟨registered, home⟩ := shown.core handle member
      change _ = ((benches own).toView.send (laneOf own) context.event message).held handle
      by_cases takes : handle.Takes (laneOf own) message
      · obtain ⟨accepted, got⟩ := received handle registered takes
        rw [Handle.Received, Handle.slot_of_place place] at got
        rw [View.send_held takes, got.2]
        cases kind : slot.kind with
        | multi => exact congrArg (· ++ [message]) (shown.held handle member slot place)
        | single => rw [free handle member takes slot place kind]; rfl
      · have kept := untouched handle registered takes
        rw [place] at kept
        rw [View.send_held_of_other takes, ← shown.held handle member slot place]
        exact kept
    · refine ((sent _).trans (if_pos rfl)).trans ?_
      rw [shown.sent]
      simp [Bench.send, View.send]

omit lane in
/-- Emptying the storage of delegates of the bench. -/
theorem reset (mine : ∀ handle ∈ scope.bindings.handles, handle ∈ (benches own).core) :
    Layout steady returned live
      (Function.update benches own ((benches own).emptied scope.bindings.handles))
      (LaneOperation.performNoted (.request scope .resetAll) before).2 := by
  have shown := layout.shown own small
  have known (handle : Handle) (bound : handle ∈ scope.bindings.handles) : handle ∈ live :=
    (shown.core handle (mine handle bound)).1
  have emptied : (LaneOperation.performNoted (.request scope .resetAll) before).2.1.bus =
      { before.1.bus with store := resetEach scope.bindings.handles before.1.bus.store } :=
    scope.bindings.reset_eq before.1.bus
  have sent (other : LaneId) := @sentBy_silent other before.2
    ⟨.request scope .resetAll, ((), scope)⟩ rfl
  have apart {handle other : Handle} (bound : handle ∈ scope.bindings.handles)
      (listed : other ∈ live) (different : other ∉ scope.bindings.handles) :
      handle.place ≠ other.place := fun same => different <|
    layout.separate.eq_of_place (layout.separate.sound.registered.subset (known handle bound))
      (layout.separate.sound.registered.subset listed) same ▸ bound
  refine layout.move small ?_ (List.Subset.refl _) (fun handle other => ?_)
    (fun other _ => sent other) layout.going ?_
  · rw [emptied]
    exact layout.separate.resetEach _
  · refine ⟨id, fun member => ⟨member, ?_⟩⟩
    rw [emptied]
    refine resetEach_same _ _ _ fun one bound => apart bound member fun among => other ?_
    exact (shown.core handle (mine handle among)).2
  · constructor
    · exact shown.core
    · exact shown.others
    · exact shown.opened
    · intro handle member slot place
      obtain ⟨listed, _⟩ := shown.core handle member
      change _ = ((benches own).toView.emptied scope.bindings.handles).held handle
      rw [emptied, resetEach_contents]
      by_cases among : handle ∈ scope.bindings.handles
      · rw [if_pos ⟨handle, among, place⟩, View.emptied_held (List.mem_map_of_mem among)]
      · rw [if_neg, View.emptied_held_of_other]
        · exact shown.held handle member slot place
        · intro id
          obtain ⟨one, bound, same⟩ := List.mem_map.mp id
          exact among (layout.separate.sound.lists.ordered.eq_of_id (known one bound) listed same ▸
            bound)
        · rintro ⟨one, bound, filled⟩
          exact apart bound listed among (filled.trans place.symm)
    · exact (sent _).trans shown.sent

end Operations

/-- A number that is used up for an instance. -/
theorem newIdentity {world : World} {notes : List Note}
    (layout : Layout steady returned live benches (world, notes)) (name : String)
    (detector : Option Detector) (lane : LaneId) (input output : String) :
    Layout steady returned live benches
      ((world.newIdentity name detector lane input output).2, notes) := by
  refine layout.frame ?_ (fun _ => rfl) (fun _ => rfl) layout.going
  exact layout.separate.frame rfl rfl rfl rfl (Nat.le_succ _) fun slot filled =>
    Nat.lt_succ_of_lt (layout.separate.vacant slot filled)

end Layout

end Beamline.Run
