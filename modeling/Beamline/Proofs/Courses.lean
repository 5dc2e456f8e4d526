import Beamline.Proofs.Cells
import Beamline.Proofs.EventShares
import Beamline.Proofs.LaneEvents
import Beamline.Proofs.Lists
import Beamline.Proofs.ProgramLogic

namespace Beamline.Run

open Bus

/-- What code of a module goes by: its names, its cells among those of the lane, and the event. -/
structure Seat where
  name : String
  output : String
  /-- Where its cells begin. -/
  first : Nat
  wants : List Want
  /-- The event, none outside an event. -/
  event : Option UInt64 := none

/-- Whether the messages are kept in a slot. -/
def Want.isSlot (want : Want) : Bool :=
  match want.intake with
  | .slot .. => true
  | _ => false

/-- How far the modules of a lane are. -/
structure Course where
  cells : List Cell
  /-- What is left of the random stream of the event. -/
  stream : Random.Stream := default
  /-- What they noticed and did in the event. -/
  seen : List Sight := []

namespace Course

/-- Something is noticed, if that is in an event. -/
def note (seat : Seat) (sight : Sight) (course : Course) : Course :=
  match seat.event with
  | none => course
  | some _ => { course with seen := course.seen ++ [sight] }

/-- The messages in a slot of a module, none if there is no such slot. -/
def slot? (seat : Seat) (place : Nat) (course : Course) : Option (List Message) :=
  if seat.wants[place]?.any Want.isSlot then course.cells[seat.first + place]?.map Cell.contents
  else none

/-- Takes the messages out of a slot of a module. -/
def drain (seat : Seat) (place : Nat) (course : Course) : Course :=
  { course with cells := course.cells.modify (seat.first + place) Cell.emptied }

/-- The messages in a slot of a module are noticed, if there is such a slot. -/
def ofSlot (seat : Seat) (place : Nat) (later : Course → Course) (course : Course) :
    Option (List Message) × Course :=
  match course.slot? seat place with
  | some messages => (some messages, (later course).note seat (.received seat.name messages))
  | none => (some [], course)

def dispatch (seat : Seat) (message : Message) (name : Option String) (course : Course) :
    Option Report × Course :=
  let label := name.getD seat.output
  let (report, cells) := Cell.dispatch message label course.cells
  (report, { course with cells }.note seat (.dispatched seat.name message label report.isSome))

/-- Draws from the random stream, if there is one. -/
def draw (seat : Seat) (wanted : Random.Draw) (course : Course) :
    Option (Option Random.Drawn) × Course :=
  match seat.event with
  | none => (some none, course)
  | some _ =>
    match wanted.perform course.stream with
    | (.ok value, stream) => (some (some value), { course with stream })
    | (.error _, stream) => (none, { course with stream })

end Course

/-- What a module looks at: none if that ends its code. -/
def Look.serve (seat : Seat) : (look : Look) → Course → Option look.Answer × Course
  | .received place, course => course.ofSlot seat place id
  | .drained place, course => course.ofSlot seat place (Course.drain seat place)
  | .hasReceiver message, course =>
    (some (course.cells.any (Cell.wants message seat.output) : Bool), course)
  | .dispatch message name, course => course.dispatch seat message name
  | .offer message name, course =>
    let (report, course) := course.dispatch seat message name
    (some report, course)
  | .draw wanted, course => course.draw seat wanted

/-- What a module does at once: none if it fails. -/
def Reaction.serve (seat : Seat) : Reaction → Course → Option Unit × Course
  | .done (.ok ()), course => (some (), course)
  | .done (.error _), course => (none, course)
  | .call look next, course =>
    match Look.serve seat look course with
    | (none, course) => (none, course)
    | (some answer, course) => serve seat (next answer) course

/-! ## What is left of the cells -/

namespace Course

variable (seat : Seat)

theorem cells_note (sight : Sight) (course : Course) :
    (course.note seat sight).cells = course.cells := by
  unfold note
  cases seat.event <;> rfl

private theorem emptied_drain (place : Nat) (course : Course) :
    (course.drain seat place).cells.map Cell.emptied = course.cells.map Cell.emptied := by
  refine List.ext_getElem? fun other => ?_
  rw [drain, List.getElem?_map, List.getElem?_map, List.getElem?_modify,
    Option.map_eq_map, Option.map_map]
  refine congrArg (Option.map · _) (funext fun cell => ?_)
  by_cases here : seat.first + place = other <;> simp [here, Cell.emptied]

theorem emptied_ofSlot (place : Nat) {later : Course → Course} {course : Course}
    (same : (later course).cells.map Cell.emptied = course.cells.map Cell.emptied) :
    (course.ofSlot seat place later).2.cells.map Cell.emptied = course.cells.map Cell.emptied := by
  unfold ofSlot
  cases course.slot? seat place with
  | none => rfl
  | some messages => exact (congrArg (List.map Cell.emptied) (cells_note _ _ _)).trans same

theorem emptied_dispatch (message : Message) (name : Option String) (course : Course) :
    (course.dispatch seat message name).2.cells.map Cell.emptied =
      course.cells.map Cell.emptied := by
  unfold dispatch
  dsimp only
  rw [cells_note]
  exact Cell.emptied_dispatch _ _ _

private theorem cells_draw (wanted : Random.Draw) (course : Course) :
    (course.draw seat wanted).2.cells = course.cells := by
  unfold draw
  cases seat.event with
  | none => rfl
  | some event =>
    rcases wanted.perform course.stream with ⟨error | value, stream⟩ <;> rfl

end Course

theorem Look.emptied_serve (seat : Seat) (look : Look) (course : Course) :
    (look.serve seat course).2.cells.map Cell.emptied = course.cells.map Cell.emptied := by
  cases look with
  | received place => exact Course.emptied_ofSlot seat place rfl
  | drained place => exact Course.emptied_ofSlot seat place (Course.emptied_drain seat place course)
  | hasReceiver message => rfl
  | dispatch message name => exact Course.emptied_dispatch _ _ _ _
  | offer message name => exact Course.emptied_dispatch _ _ _ _
  | draw wanted => exact congrArg (List.map Cell.emptied) (Course.cells_draw _ _ _)

theorem Reaction.emptied_serve (seat : Seat) (reaction : Reaction) (course : Course) :
    (reaction.serve seat course).2.cells.map Cell.emptied = course.cells.map Cell.emptied := by
  induction reaction generalizing course with
  | done result => rcases result with error | _ <;> rfl
  | call look next ih =>
    have looked := look.emptied_serve seat course
    rw [serve]
    rcases told : look.serve seat course with ⟨_ | answer, later⟩ <;> rw [told] at looked
    · exact looked
    · exact (ih answer later).trans looked

/-! ## What the lanes show -/

/-- What a lane shows: its cells, and what its modules noticed and did. -/
structure Showing where
  cells : List Cell
  seen : List (UInt64 × Sight) := []

/-- What a lane shows in the course of an event, with what its modules noticed earlier. -/
def Course.showing (event : Option UInt64) (past : List (UInt64 × Sight)) (course : Course) :
    Showing where
  cells := course.cells
  seen := past ++ event.toList.flatMap fun event => course.seen.map (Prod.mk event)

/-- The delegates of a lane among those of all lanes. -/
def crewOf (live : List Handle) (own : Nat) : List Handle :=
  live.filter fun handle => handle.lane = laneOf own

/-- The lanes show what they should; and if the run is `calm`, none of them failed. -/
structure Stands (live : List Handle) (calm : Prop) (showings : Nat → Showing)
    (state : World × Record) : Prop where
  separate : state.1.bus.Separate live live
  shown : ∀ place ≤ ConfigError.maxWorkers,
    Cell.AllShown state.1.bus.store (crewOf live place) (showings place).cells
  seen : ∀ place ≤ ConfigError.maxWorkers,
    state.2.seenBy (laneOf place) = (showings place).seen
  calm : calm → state.1.aborting = false

private theorem Record.seenBy_concat (lane : LaneId) (record : Record) (instant : Instant) :
    Record.seenBy lane (record ++ [instant]) = record.seenBy lane ++
      (instant.sight?.toList.filterMap fun (other, sight) =>
        if other = lane then some sight else none) := by
  rw [seenBy, List.filterMap_append, List.filterMap_append]
  cases noticed : instant.sight? <;> simp [seenBy, noticed]

namespace Stands

variable {live : List Handle} {calm : Prop} {showings : Nat → Showing} {world after : World}
  {record : Record} {own : Nat}

private theorem place_ne (stands : Stands live calm showings (world, record)) {other : Nat}
    (small : own ≤ ConfigError.maxWorkers) (few : other ≤ ConfigError.maxWorkers)
    (different : other ≠ own) {handle : Handle} (member : handle ∈ crewOf live other) :
    ∀ mine ∈ crewOf live own, mine.place ≠ handle.place := by
  intro mine among same
  obtain ⟨listed, home⟩ := List.mem_filter.mp among
  obtain ⟨present, lane⟩ := List.mem_filter.mp member
  obtain rfl := stands.separate.eq_of_place listed present same
  exact different (laneOf_injective few small
    ((of_decide_eq_true lane).symm.trans (of_decide_eq_true home)))

/-- An operation of a lane that changes its own delegates alone. -/
theorem move (stands : Stands live calm showings (world, record))
    (small : own ≤ ConfigError.maxWorkers) {showing : Showing} {instant : Instant}
    (separate : after.bus.Separate live live)
    (shown : Cell.AllShown after.bus.store (crewOf live own) showing.cells)
    (others : ∀ place, (∀ handle ∈ crewOf live own, handle.place ≠ place) →
      place.Same world.bus.store after.bus.store)
    (calmly : calm → after.aborting = false) {sight : Option (UInt64 × Sight)}
    (noticed : instant.sight? = sight.map (Prod.mk (laneOf own)))
    (seen : showing.seen = (showings own).seen ++ sight.toList) :
    Stands live calm (Function.update showings own showing) (after, record ++ [instant]) := by
  refine ⟨separate, fun place few => ?_, fun place few => ?_, calmly⟩
  · by_cases same : place = own
    · subst same
      rwa [Function.update_self]
    · rw [Function.update_of_ne same]
      exact (stands.shown place few).of_same fun handle member =>
        others handle.place (stands.place_ne small few same member)
  · rw [Record.seenBy_concat, stands.seen place few, noticed]
    by_cases same : place = own
    · subst same
      rw [Function.update_self, seen]
      cases sight <;> simp
    · have other : laneOf own ≠ laneOf place := fun equal =>
        same (laneOf_injective few small equal.symm)
      rw [Function.update_of_ne same]
      cases sight <;> simp [other]

/-- An operation that changes no bus. -/
theorem stay (stands : Stands live calm showings (world, record))
    (small : own ≤ ConfigError.maxWorkers) {showing : Showing} {instant : Instant}
    (bus : after.bus = world.bus) (cells : showing.cells = (showings own).cells)
    (calmly : calm → after.aborting = false) {sight : Option (UInt64 × Sight)}
    (noticed : instant.sight? = sight.map (Prod.mk (laneOf own)))
    (seen : showing.seen = (showings own).seen ++ sight.toList) :
    Stands live calm (Function.update showings own showing) (after, record ++ [instant]) := by
  refine stands.move small (bus ▸ stands.separate) ?_ (fun place _ => ?_) calmly noticed seen
  · rw [bus, cells]
    exact stands.shown own small
  · rw [bus]
    exact .refl place _

end Stands

/-- A process of a lane that keeps all lanes in their standing. -/
abbrev Process.KeepsStanding {α : Type} (process : Process α) (live : List Handle) (calm : Prop)
    (own : Nat) (good : α → Showing → Prop) (showing : Showing) : Prop :=
  Program.Ensures (S := LaneOperations) LaneOperation.performRecorded (Stands live calm) own good
    process showing

end Beamline.Run
