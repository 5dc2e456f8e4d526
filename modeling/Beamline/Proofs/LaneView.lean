import Beamline.Proofs.Interleaving
import Beamline.Proofs.SlotContents
import Beamline.Proofs.WatchedLanes
import Beamline.Run.Trace

namespace Beamline.Run

open Bus

/-- The world, and what was done to it so far. -/
abbrev Observed := World × List Note

structure View where
  /-- What the slot of a delegate holds. -/
  held : Handle → List Message
  /-- The messages that were dispatched, each with its event. -/
  sent : List (UInt64 × Message)

namespace View

/-- The view after a message is dispatched. -/
def send (view : View) (lane : LaneId) (event : UInt64) (message : Message) : View where
  held handle :=
    if handle.Takes lane message then view.held handle ++ [message] else view.held handle
  sent := view.sent ++ [(event, message)]

/-- The view after the storage of delegates is emptied. -/
def emptied (view : View) (handles : List Handle) : View where
  held handle := if handle.id ∈ handles.map Handle.id then [] else view.held handle
  sent := view.sent

variable {view : View} {handles : List Handle} {handle : Handle}

theorem emptied_held (listed : handle.id ∈ handles.map Handle.id) :
    (view.emptied handles).held handle = [] := if_pos listed

theorem emptied_held_of_other (unlisted : handle.id ∉ handles.map Handle.id) :
    (view.emptied handles).held handle = view.held handle := if_neg unlisted

variable {lane : LaneId} {event : UInt64} {message : Message}

theorem send_held (takes : handle.Takes lane message) :
    (view.send lane event message).held handle = view.held handle ++ [message] := if_pos takes

theorem send_held_of_other (other : ¬handle.Takes lane message) :
    (view.send lane event message).held handle = view.held handle := if_neg other

/-- The view after messages are dispatched one after the other. -/
def sendAll (view : View) (lane : LaneId) (event : UInt64) (messages : List Message) : View :=
  messages.foldl (fun view message => view.send lane event message) view

theorem sendAll_append (earlier later : List Message) :
    view.sendAll lane event (earlier ++ later) =
      (view.sendAll lane event earlier).sendAll lane event later :=
  List.foldl_append

private theorem sendAll_held (messages : List Message) :
    (view.sendAll lane event messages).held handle =
      view.held handle ++ messages.filter fun message => handle.Takes lane message := by
  induction messages generalizing view with
  | nil => simp [sendAll]
  | cons message rest ih =>
    refine (@ih (view.send lane event message)).trans ?_
    by_cases takes : handle.Takes lane message
    · rw [send_held takes, List.filter_cons_of_pos (by simpa using takes), List.append_assoc]
      rfl
    · rw [send_held_of_other takes, List.filter_cons_of_neg (by simpa using takes)]

private theorem sendAll_sent (messages : List Message) :
    (view.sendAll lane event messages).sent =
      view.sent ++ messages.map fun message => (event, message) := by
  induction messages generalizing view with
  | nil => simp [sendAll]
  | cons message rest ih =>
    refine (@ih (view.send lane event message)).trans ?_
    simp [send]

/-- The view of a lane with empty storage. -/
def clear (sent : List (UInt64 × Message)) : View where
  held _ := []
  sent

/-- The view in an event that began with empty storage. -/
def during (sent : List (UInt64 × Message)) (lane : LaneId) (event : UInt64)
    (messages : List Message) : View :=
  (clear sent).sendAll lane event messages

theorem during_held (sent : List (UInt64 × Message)) (messages : List Message) :
    (during sent lane event messages).held handle =
      messages.filter fun message => handle.Takes lane message :=
  (sendAll_held messages).trans (List.nil_append _)

theorem during_append (sent : List (UInt64 × Message)) (earlier later : List Message) :
    during sent lane event (earlier ++ later) =
      (during sent lane event earlier).sendAll lane event later :=
  sendAll_append earlier later

theorem during_sent (sent : List (UInt64 × Message)) (messages : List Message) :
    (during sent lane event messages).sent = sent ++ messages.map fun message => (event, message) :=
  sendAll_sent messages

end View

/-- How many delegates accepted a dispatched message. -/
def Sending.accepted (sending : Sending) : Nat :=
  match sending.result with
  | .ok report => report.accepted
  | .error _ => 0

/-- The dispatch of a message in a lane, if all delegates that take it accept it. -/
def completed (live : List Handle) (lane : LaneId) (event : UInt64) (message : Message) :
    Sending where
  lane
  event
  message
  name := ""
  result :=
    let reached := live.countP fun handle => handle.Takes lane message
    .ok { invoked := reached, accepted := reached }

/-- What holds of a run as long as nothing went wrong: the registered delegates are still those that
were there at first, and every message was received. -/
structure Orderly (tally : Nat) (live : List Handle) (observed : Observed) : Prop where
  sound : observed.1.bus.Sound live live
  going : observed.1.aborting = false
  /-- The filters of the store are those of the delegates, and they all count in the tally. -/
  tallies : ∀ number, observed.1.bus.store.tallyOf? number =
    if ∃ handle ∈ live, handle.place = .filter number then some (some tally) else none
  dispatched : observed.1.bus.messenger.stats.dispatched = (sendings observed.2).length
  deliveries : observed.1.bus.messenger.stats.deliveries =
    ((sendings observed.2).map Sending.accepted).sum
  failed : observed.1.bus.messenger.stats.failed = 0
  unreceived : observed.1.bus.messenger.stats.unreceived = 0
  located : ∀ sending ∈ sendings observed.2, ∃ handle ∈ live, handle.lane = sending.lane
  met : ∀ note ∈ observed.2, note.unmet = []

/-- A view is what a lane sees. -/
structure Sees (live : List Handle) (lane : LaneId) (view : View) (observed : Observed) :
    Prop where
  held : ∀ handle ∈ live, handle.lane = lane → ∀ slot, handle.place = .slot slot →
    observed.1.bus.store.contents slot = view.held handle
  /-- Its monitors were asked about every message. -/
  calls : ∀ handle ∈ live, handle.lane = lane → ∀ number, handle.place = .filter number →
    (observed.1.bus.store.filterState number).calls.map Call.message =
      (view.sent.map Prod.snd).reverse
  sent : (sendings observed.2).filter (fun sending => sending.lane = lane) =
    view.sent.map fun (event, message) => completed live lane event message

def Shows (tally : Nat) (live : List Handle) (lane : LaneId) (view : View) (observed : Observed) :
    Prop :=
  Orderly tally live observed ∧ Sees live lane view observed

/-- What a view says about delegates that are not registered in its lane is of no account. -/
theorem Shows.of_agree {tally : Nat} {live : List Handle} {lane : LaneId} {view other : View}
    {observed : Observed} (shown : Shows tally live lane view observed)
    (held : ∀ handle ∈ live, handle.lane = lane → other.held handle = view.held handle)
    (sent : other.sent = view.sent) : Shows tally live lane other observed where
  left := shown.1
  right := {
    held := fun handle member own slot place =>
      (shown.2.held handle member own slot place).trans (held handle member own).symm
    calls := sent ▸ shown.2.calls
    sent := sent ▸ shown.2.sent }

theorem sendings_append (earlier later : List Note) :
    sendings (earlier ++ later) = sendings earlier ++ sendings later :=
  List.filterMap_append

theorem sendings_of_silent {note : Note} (silent : note.sending? = none) :
    sendings [note] = [] := by
  simp [sendings, silent]

theorem filter_sendings_of_event {notes : List Note} {event : UInt64} {lane : LaneId}
    (home : ∀ sending ∈ sendings notes, sending.event = event → sending.lane = lane) :
    ((sendings notes).filter fun sending => sending.event == event) =
      ((sendings notes).filter fun sending => sending.lane = lane).filter
        fun sending => sending.event = event := by
  rw [List.filter_filter]
  refine List.filter_congr fun sending sent => ?_
  by_cases same : sending.event = event
  · simp [same, home sending sent same]
  · simp [same]

theorem Sees.frame {live : List Handle} {lane : LaneId} {view : View} {before after : Observed}
    (sees : Sees live lane view before)
    (same : ∀ handle ∈ live, handle.lane = lane →
      handle.place.Same before.1.bus.store after.1.bus.store)
    (sent : (sendings after.2).filter (fun sending => sending.lane = lane) =
      (sendings before.2).filter fun sending => sending.lane = lane) :
    Sees live lane view after where
  held handle member mine slot place := by
    have kept := same handle member mine
    rw [place] at kept
    exact Eq.trans kept (sees.held handle member mine slot place)
  calls handle member mine number place := by
    have kept := same handle member mine
    rw [place] at kept
    rw [← sees.calls handle member mine number place]
    exact congrArg (fun state => state.calls.map Call.message) kept
  sent := sent.trans sees.sent

/-! ## Operations that dispatch nothing -/

/-- An operation left a run orderly and dispatched nothing. -/
structure Silent (before after : Observed) : Prop where
  registry : after.1.bus.messenger.registry = before.1.bus.messenger.registry
  nextId : after.1.bus.messenger.nextId = before.1.bus.messenger.nextId
  next : after.1.bus.store.next = before.1.bus.store.next
  stats : after.1.bus.messenger.stats = before.1.bus.messenger.stats
  aborting : after.1.aborting = before.1.aborting
  tallies : ∀ number, after.1.bus.store.tallyOf? number = before.1.bus.store.tallyOf? number
  note : ∃ note, after.2 = before.2 ++ [note] ∧ note.sending? = none ∧ note.unmet = []

theorem Silent.sendings_eq {before after : Observed} (silent : Silent before after) :
    sendings after.2 = sendings before.2 := by
  obtain ⟨note, noted, unsent, _⟩ := silent.note
  rw [noted, sendings_append, sendings_of_silent unsent, List.append_nil]

theorem Orderly.of_silent {tally : Nat} {live : List Handle} {before after : Observed}
    (orderly : Orderly tally live before) (silent : Silent before after) :
    Orderly tally live after where
  sound := orderly.sound.frame silent.registry silent.nextId (Nat.le_of_eq silent.next.symm)
  going := silent.aborting.trans orderly.going
  tallies number := (silent.tallies number).trans (orderly.tallies number)
  dispatched := by rw [silent.stats, silent.sendings_eq, orderly.dispatched]
  deliveries := by rw [silent.stats, silent.sendings_eq, orderly.deliveries]
  failed := by rw [silent.stats, orderly.failed]
  unreceived := by rw [silent.stats, orderly.unreceived]
  located := by
    rw [silent.sendings_eq]
    exact orderly.located
  met := by
    obtain ⟨note, noted, _, met⟩ := silent.note
    rw [noted]
    exact List.forall_mem_append.mpr ⟨orderly.met, by simpa using met⟩

/-! ## Dispatches -/

/-- What a dispatch in a lane comes to if all delegates that take the message accept it. -/
structure Dispatched (live : List Handle) (lane : LaneId) (event : UInt64) (message : Message)
    (before after : Observed) : Prop where
  registry : after.1.bus.messenger.registry = before.1.bus.messenger.registry
  nextId : after.1.bus.messenger.nextId = before.1.bus.messenger.nextId
  next : after.1.bus.store.next = before.1.bus.store.next
  aborting : after.1.aborting = before.1.aborting
  tallies : ∀ number, after.1.bus.store.tallyOf? number = before.1.bus.store.tallyOf? number
  stats : after.1.bus.messenger.stats = { before.1.bus.messenger.stats with
    dispatched := before.1.bus.messenger.stats.dispatched + 1
    deliveries := before.1.bus.messenger.stats.deliveries +
      (completed live lane event message).accepted }
  sent : sendings after.2 = sendings before.2 ++ [completed live lane event message]
  met : ∃ note, after.2 = before.2 ++ [note] ∧ note.unmet = []
  received : ∀ handle ∈ live, handle.Takes lane message →
    handle.Received message "" before.1.bus.store after.1.bus.store true
  untouched : ∀ handle ∈ live, ¬handle.Takes lane message →
    handle.place.Same before.1.bus.store after.1.bus.store

section Dispatched

variable {tally : Nat} {live : List Handle} {lane : LaneId} {event : UInt64} {message : Message}
  {before after : Observed}

theorem Orderly.of_dispatched (orderly : Orderly tally live before)
    (dispatched : Dispatched live lane event message before after)
    (monitored : ∃ handle ∈ live, handle.Watches tally ∧ handle.lane = lane) :
    Orderly tally live after where
  sound := orderly.sound.frame dispatched.registry dispatched.nextId
    (Nat.le_of_eq dispatched.next.symm)
  going := dispatched.aborting.trans orderly.going
  tallies number := (dispatched.tallies number).trans (orderly.tallies number)
  dispatched := by
    rw [dispatched.stats, dispatched.sent, List.length_append, orderly.dispatched]
    rfl
  deliveries := by
    rw [dispatched.stats, dispatched.sent, List.map_append, List.sum_append, orderly.deliveries]
    simp
  failed := by rw [dispatched.stats, orderly.failed]
  unreceived := by rw [dispatched.stats, orderly.unreceived]
  located := by
    rw [dispatched.sent]
    refine List.forall_mem_append.mpr ⟨orderly.located, ?_⟩
    obtain ⟨handle, member, _, mine⟩ := monitored
    simpa using ⟨handle, member, mine⟩
  met := by
    obtain ⟨note, noted, met⟩ := dispatched.met
    rw [noted]
    exact List.forall_mem_append.mpr ⟨orderly.met, by simpa using met⟩

/-- The lane of a dispatch sees the message, in its slots and with its monitors. -/
theorem Sees.of_dispatched {view : View} (sees : Sees live lane view before)
    (watched : Watched tally live) (dispatched : Dispatched live lane event message before after)
    (free : ∀ handle ∈ live, handle.Takes lane message → ∀ slot, handle.place = .slot slot →
      slot.kind = .single → view.held handle = []) :
    Sees live lane (view.send lane event message) after where
  held handle member mine slot place := by
    by_cases takes : handle.Takes lane message
    · rw [View.send_held takes, ← sees.held handle member mine slot place]
      have received := dispatched.received handle member takes
      rw [Handle.Received, Handle.slot_of_place place] at received
      rw [received.2]
      cases kind : slot.kind with
      | multi => rfl
      | single =>
        have empty := free handle member takes slot place kind
        rw [← sees.held handle member mine slot place] at empty
        rw [empty]
        rfl
    · rw [View.send_held_of_other takes, ← sees.held handle member mine slot place]
      have same := dispatched.untouched handle member takes
      rw [place] at same
      exact same
  calls handle member mine number place := by
    obtain ⟨slot, filled⟩ | watches := watched handle member
    · rw [place] at filled
      cases filled
    · have received := dispatched.received handle member (watches.takes_iff.mpr mine)
      obtain ⟨filter, bound⟩ := watches.binding
      have same : filter = number := by
        rw [Handle.place, bound] at place
        cases place
        rfl
      subst same
      rw [Handle.Received, bound] at received
      have called := received.2
      simp only at called
      rw [called, List.map_cons, sees.calls handle member mine _ place]
      simp [View.send]
  sent := by
    rw [dispatched.sent, List.filter_append, sees.sent]
    simp [View.send, completed]

private theorem Sees.of_dispatched_elsewhere {other : LaneId} {seen : View}
    (sees : Sees live other seen before)
    (dispatched : Dispatched live lane event message before after) (different : other ≠ lane) :
    Sees live other seen after := by
  refine sees.frame (fun handle member theirs => ?_) ?_
  · exact dispatched.untouched handle member fun takes => different (theirs.symm.trans takes.1)
  · rw [dispatched.sent, List.filter_append]
    simp [completed, different.symm]

end Dispatched

section Operations

variable {tally : Nat} {live : List Handle} {lane : LaneId} {view : View}

/-- An operation that changes neither the store nor the registry nor the counters. -/
theorem moves_idle {operation : LaneOperation}
    (unsent : ∀ answer, Note.sending? ⟨operation, answer⟩ = none)
    (met : ∀ observed, Shows tally live lane view observed →
      Note.unmet ⟨operation, (operation.perform observed.1).1⟩ = [])
    (kept : ∀ world, (operation.perform world).2.bus.store = world.bus.store ∧
      (operation.perform world).2.bus.messenger.registry = world.bus.messenger.registry ∧
      (operation.perform world).2.bus.messenger.nextId = world.bus.messenger.nextId ∧
      (operation.perform world).2.bus.messenger.stats = world.bus.messenger.stats ∧
      (operation.perform world).2.aborting = world.aborting) :
    Program.Moves (S := LaneOperations) LaneOperation.performNoted (Shows tally live) lane
      operation view view := by
  intro observed fits
  obtain ⟨store, registry, nextId, stats, aborting⟩ := kept observed.1
  have silent : Silent observed (operation.performNoted observed).2 := {
    registry, nextId, stats, aborting
    next := congrArg Store.next store
    tallies := fun number => congrArg (Store.tallyOf? · number) store
    note := ⟨_, rfl, unsent _, met observed fits⟩ }
  have frame (other : LaneId) (seen : View) (shown : Sees live other seen observed) :
      Sees live other seen (operation.performNoted observed).2 := by
    refine shown.frame (fun handle _ _ => ?_) (by rw [silent.sendings_eq])
    have same : (operation.performNoted observed).2.1.bus.store = observed.1.bus.store := store
    rw [same]
    exact .refl _ _
  exact ⟨⟨fits.1.of_silent silent, frame lane view fits.2⟩,
    fun other _ seen shown => ⟨shown.1.of_silent silent, frame other seen shown.2⟩⟩

/-- Delegates of a lane that are registered. -/
def Mine (live : List Handle) (lane : LaneId) (handles : List Handle) : Prop :=
  ∀ handle ∈ handles, handle ∈ live ∧ handle.lane = lane

theorem Orderly.known {observed : Observed} (orderly : Orderly tally live observed)
    {handle : Handle} (member : handle ∈ live) : handle.Known observed.1.bus.store := by
  intro number place
  rw [orderly.tallies, if_pos ⟨handle, member, place⟩]
  rfl

/-- The check at the end of an event finds nothing if every required slot holds a message. -/
theorem moves_unmet {scope : Scope} (mine : Mine live lane scope.bindings.handles)
    (filled : ∀ handle ∈ scope.bindings.handles, handle.isRequired = true →
      ∃ slot, handle.place = .slot slot ∧ view.held handle ≠ []) :
    Program.Moves (S := LaneOperations) LaneOperation.performNoted (Shows tally live) lane
        (.request scope .unmetRequirements) view view ∧
      Program.Answers (S := LaneOperations) LaneOperation.performNoted (Shows tally live) lane
        (.request scope .unmetRequirements) view ([], scope) := by
  have met (observed : Observed) (fits : Shows tally live lane view observed) :
      scope.bindings.unmetRequirements observed.1.bus = [] := by
    apply List.filterMap_eq_nil_iff.mpr
    intro handle member
    unfold Handle.unmetRequirement
    cases required : handle.isRequired with
    | false => rfl
    | true =>
      obtain ⟨slot, place, holds⟩ := filled handle member required
      obtain ⟨listed, own⟩ := mine handle member
      have contents := fits.2.held handle listed own slot place
      have satisfied : handle.isSatisfied observed.1.bus.store = true := by
        rw [handle.isSatisfied_eq_keeps, place]
        simpa [Store.keeps, Store.isFilled, contents] using holds
      simp [satisfied]
  exact ⟨moves_idle (fun _ => rfl) met fun _ => ⟨rfl, rfl, rfl, rfl, rfl⟩,
    fun observed fits => congrArg (·, scope) (met observed fits)⟩

theorem moves_reset {scope : Scope} (mine : Mine live lane scope.bindings.handles) :
    Program.Moves (S := LaneOperations) LaneOperation.performNoted (Shows tally live) lane
      (.request scope .resetAll) view (view.emptied scope.bindings.handles) := by
  intro observed fits
  have emptied : (LaneOperation.performNoted (.request scope .resetAll) observed).2.1.bus =
      { observed.1.bus with store := resetEach scope.bindings.handles observed.1.bus.store } :=
    scope.bindings.reset_eq observed.1.bus
  generalize reached : (LaneOperation.performNoted (.request scope .resetAll) observed).2 = after
    at emptied
  have stored : after.1.bus.store = resetEach scope.bindings.handles observed.1.bus.store := by
    rw [emptied]
  have noted : after.2 = observed.2 ++ [⟨.request scope .resetAll, ((), scope)⟩] := by
    rw [← reached]
    rfl
  have aborting : after.1.aborting = observed.1.aborting := by
    rw [← reached]
    rfl
  have known : ∀ handle ∈ scope.bindings.handles, handle.Known observed.1.bus.store :=
    fun handle member => fits.1.known (mine handle member).1
  have silent : Silent observed after := {
    aborting
    registry := by rw [emptied]
    nextId := by rw [emptied]
    next := by rw [stored, resetEach_next]
    stats := by rw [emptied]
    tallies := fun number => by rw [stored, resetEach_tallyOf? _ _ known]
    note := ⟨_, noted, rfl, rfl⟩ }
  have apart {handle other : Handle} (member : handle ∈ live) (present : other ∈ live)
      (different : handle ≠ other) : handle.place ≠ other.place := by
    have symmetric : Std.Symm fun first second : Handle => first.place ≠ second.place :=
      ⟨fun _ _ different => different.symm⟩
    exact (Usage.Sound.placesApart fits.1.sound).forall member present different
  refine ⟨⟨fits.1.of_silent silent, ?_, ?_, ?_⟩, fun other different seen shown =>
    ⟨shown.1.of_silent silent, shown.2.frame (fun handle member theirs => ?_)
      (by rw [silent.sendings_eq])⟩⟩
  · intro handle member own slot place
    rw [stored, resetEach_contents]
    by_cases among : handle ∈ scope.bindings.handles
    · have listed : handle.id ∈ scope.bindings.handles.map Handle.id :=
        List.mem_map_of_mem among
      rw [if_pos ⟨handle, among, place⟩, View.emptied_held listed]
    · have unlisted : handle.id ∉ scope.bindings.handles.map Handle.id := by
        intro listed
        obtain ⟨other, present, same⟩ := List.mem_map.mp listed
        have equal := fits.1.sound.lists.ordered.eq_of_id (mine other present).1 member same
        exact among (equal ▸ present)
      rw [if_neg, View.emptied_held_of_other unlisted]
      · exact fits.2.held handle member own slot place
      · intro emptying
        obtain ⟨other, present, filled⟩ := emptying
        exact apart member (mine other present).1 (fun same => among (same ▸ present))
          (place.trans filled.symm)
  · intro handle member own number place
    rw [stored, resetEach_calls]
    exact fits.2.calls handle member own number place
  · rw [silent.sendings_eq]
    exact fits.2.sent
  · rw [stored]
    refine resetEach_same _ _ _ fun one present => apart (mine one present).1 member ?_
    intro same
    subst same
    exact different (theirs.symm.trans (mine one present).2)

theorem dispatched_of_free {scope : Scope} {context : EventContext} {message : Message}
    (watched : Watched tally live) (own : scope.bindings.identity.lane = lane)
    (unnamed : scope.bindings.identity.output = "") (during : scope.context = some context)
    (free : ∀ handle ∈ live, handle.Takes lane message → ∀ slot, handle.place = .slot slot →
      slot.kind = .single → view.held handle = [])
    (monitored : ∃ handle ∈ live, handle.Watches tally ∧ handle.lane = lane)
    {observed : Observed} (fits : Shows tally live lane view observed) :
    (LaneOperation.performNoted (.request scope (.dispatch message none)) observed).1 =
        ((completed live lane context.event message).result, scope) ∧
      Dispatched live lane context.event message observed
        (LaneOperation.performNoted (.request scope (.dispatch message none)) observed).2 := by
  subst own
  have opened : ∀ handle ∈ live, handle.Takes scope.bindings.identity.lane message →
      ¬handle.Blocked observed.1.bus.store := by
    intro handle member takes blocked
    obtain ⟨slot, place, single, _, filled⟩ := blocked
    have empty := free handle member takes slot place single
    rw [← fits.2.held handle member takes.1 slot place] at empty
    simp [Store.isFilled, empty] at filled
  obtain ⟨store, delivered, received, untouched⟩ := fits.1.sound.deliver_taken watched opened
  have invoked := fits.1.sound.length_candidates scope.bindings.identity message
  have known : ∀ handle ∈ observed.1.bus.messenger.candidates scope.bindings.identity message "",
      handle.Known observed.1.bus.store := fun handle member =>
    fits.1.known (fits.1.sound.lists.mem_candidates.mp member).1
  have next := deliver_next (observed.1.bus.messenger.candidates scope.bindings.identity message "")
    observed.1.bus.store message ""
  have tallies := tallyOf?_deliver known message ""
  rw [delivered] at next tallies
  have accepting : (live.countP fun handle =>
      handle.Takes scope.bindings.identity.lane message) ≠ 0 := by
    obtain ⟨handle, member, watches, mine⟩ := monitored
    refine Nat.pos_iff_ne_zero.mp (List.countP_pos_iff.mpr ⟨handle, member, ?_⟩)
    exact decide_eq_true (watches.takes_iff.mpr mine)
  have done := dispatch_of_ok delivered
  rw [if_neg accepting, invoked] at done
  have performed : LaneOperation.performNoted (.request scope (.dispatch message none)) observed =
      (((completed live scope.bindings.identity.lane context.event message).result, scope),
        { observed.1 with
          bus := (observed.1.bus.dispatch scope.bindings.identity message "").2 },
        observed.2 ++ [⟨.request scope (.dispatch message none),
          ((completed live scope.bindings.identity.lane context.event message).result,
            scope)⟩]) := by
    simp only [LaneOperation.performNoted, LaneOperation.perform, Request.perform,
      Bindings.dispatch, unnamed, Option.getD_none, done]
    rfl
  rw [performed]
  refine ⟨rfl, ?_⟩
  exact {
    registry := by rw [done]
    nextId := by rw [done]
    next := by rw [done]; exact next
    aborting := rfl
    tallies := by rw [done]; exact tallies
    stats := by rw [done]; rfl
    sent := by
      rw [sendings_append]
      simp [sendings, Note.sending?, during, unnamed, completed]
    met := ⟨_, rfl, rfl⟩
    received := by rw [done]; exact received
    untouched := by rw [done]; exact untouched }

/-- A dispatch in a lane with a monitor, if no filled slot stands in the way. -/
theorem moves_dispatch (scope : Scope) {context : EventContext} {message : Message}
    (watched : Watched tally live) (own : scope.bindings.identity.lane = lane)
    (unnamed : scope.bindings.identity.output = "") (during : scope.context = some context)
    (free : ∀ handle ∈ live, handle.Takes lane message → ∀ slot, handle.place = .slot slot →
      slot.kind = .single → view.held handle = [])
    (monitored : ∃ handle ∈ live, handle.Watches tally ∧ handle.lane = lane) :
    Program.Moves (S := LaneOperations) LaneOperation.performNoted (Shows tally live) lane
        (.request scope (.dispatch message none)) view
        (view.send lane context.event message) ∧
      Program.Answers (S := LaneOperations) LaneOperation.performNoted (Shows tally live) lane
        (.request scope (.dispatch message none)) view
        ((completed live lane context.event message).result, scope) := by
  refine ⟨fun observed fits => ?_, fun observed fits =>
    (dispatched_of_free watched own unnamed during free monitored fits).1⟩
  obtain ⟨_, dispatched⟩ := dispatched_of_free watched own unnamed during free monitored fits
  have orderly := fits.1.of_dispatched dispatched monitored
  refine ⟨⟨orderly, ?_⟩, fun other different seen shown => ⟨orderly, ?_⟩⟩
  · exact fits.2.of_dispatched watched dispatched free
  · exact shown.2.of_dispatched_elsewhere dispatched different

end Operations

end Beamline.Run
