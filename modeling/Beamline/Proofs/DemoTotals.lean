import Beamline.Proofs.DemoRun
import Beamline.Proofs.TallyCounts
import Mathlib.Data.List.Perm.Basic

/-!
What a run of the demonstration chain comes to in total. Each event is one lane's, so the messages
of a run are those of its events, in some order.
-/

namespace Beamline.Demo

open Bus Run

/-! ## The messages of a run -/

private theorem sentWith_flatMap {α : Type} (drawn : UInt64 → Event) (lanes : List α)
    (numbers : α → List UInt64) :
    sentWith drawn (lanes.flatMap numbers) =
      lanes.flatMap fun lane => sentWith drawn (numbers lane) :=
  List.flatMap_assoc

namespace Completes

variable {tally : Nat} {config : Config} {detectors : List Detector}
  {lanes : List (Lane Counters)} {observed : Observed} {outcome : Outcome Counters}
  (completes : Completes tally config detectors lanes observed outcome)

include completes

theorem orderly : Orderly tally (handlesOf (lanes.flatMap Lane.modules)) observed := by
  have length : lanes.length = config.workers.toNat := by
    simpa using congrArg List.length completes.ids
  have working := completes.accepted.working
  have listed : lanes[0] ∈ lanes := List.getElem_mem (by omega)
  exact (completes.shown _ listed).1

/-- The lanes share the events. -/
theorem shared :
    (lanes.flatMap fun lane => (Config.plan config).events lane.id).Perm
      (Config.plan config).allEvents := by
  have named := Plan.events_perm completes.fits completes.accepted.few
  have known : (lanes.flatMap fun lane => (Config.plan config).events lane.id) =
      (lanes.map Lane.id).flatMap (Config.plan config).events := by
    rw [List.flatMap_map]
  rw [known, completes.ids]
  exact named

theorem sendings_of_lane {lane : Lane Counters} (listed : lane ∈ lanes) :
    ((sendings observed.2).filter fun sending => sending.lane = lane.id) =
      (sentWith (eventsOf config detectors) ((Config.plan config).events lane.id)).map
        fun (event, message) =>
          completed (handlesOf (lanes.flatMap Lane.modules)) lane.id event message :=
  (completes.shown lane listed).2.sent

theorem lane_of_sending {sending : Sending}
    (sent : sending ∈ sendings observed.2) : ∃ lane ∈ lanes, sending.lane = lane.id := by
  obtain ⟨handle, member, own⟩ := (completes.orderly).located sending sent
  rw [handlesOf_flatMap] at member
  obtain ⟨lane, listed, member⟩ := List.mem_flatMap.mp member
  obtain ⟨module, among, bound⟩ := mem_handlesOf.mp member
  have mine := ((completes.staffed.crewed lane listed).mine among handle bound).2
  exact ⟨lane, listed, own.symm.trans mine⟩

theorem sent_perm :
    ((sendings observed.2).map fun sending => (sending.event, sending.message)).Perm
      (sentWith (eventsOf config detectors) (Config.plan config).allEvents) := by
  have known : ∀ sending ∈ sendings observed.2, sending.lane ∈ lanes.map Lane.id := by
    intro sending sent
    obtain ⟨lane, listed, own⟩ := completes.lane_of_sending sent
    exact own ▸ List.mem_map_of_mem listed
  have grouped := (perm_flatMap_filter completes.staffed.apart known).map
    fun sending => (sending.event, sending.message)
  refine grouped.trans (.trans (.of_eq ?_) (completes.shared.flatMap_right _))
  rw [List.flatMap_map, List.map_flatMap, List.flatMap_assoc]
  apply List.flatMap_congr
  intro lane listed
  rw [completes.sendings_of_lane listed, List.map_map]
  exact List.map_id _

/-- Every dispatch reached the receivers of its message, without an error. -/
theorem sending_eq {sending : Sending}
    (sent : sending ∈ sendings observed.2) :
    sending.result = .ok { invoked := reach sending.message.type
                           accepted := reach sending.message.type } ∧ sending.name = "" := by
  obtain ⟨lane, listed, own⟩ := completes.lane_of_sending sent
  have among : sending ∈ (sendings observed.2).filter fun sending => sending.lane = lane.id :=
    List.mem_filter.mpr ⟨sent, by simpa using own⟩
  rw [completes.sendings_of_lane listed] at among
  obtain ⟨⟨event, message⟩, planned, rfl⟩ := List.mem_map.mp among
  obtain ⟨number, _, dispatched⟩ := List.mem_flatMap.mp planned
  obtain ⟨other, expected, same⟩ := List.mem_map.mp dispatched
  cases same
  have reached := (completes.staffed.crewed lane listed).reached
    (covers_eventsOf config detectors event) expected
  exact ⟨by simp only [completed, reached], rfl⟩

theorem dispatched :
    (sendings observed.2).length = config.events.toNat * (1 + 4 * detectors.length) := by
  have permuted := completes.sent_perm.length_eq
  have each : ∀ number ∈ (Config.plan config).allEvents,
      ((eventsOf config detectors number).messages.map fun message => (number, message)).length =
        1 + 4 * detectors.length := by
    intro number _
    rw [List.length_map]
    exact (covers_eventsOf config detectors number).length_messages
  rw [List.length_map, sentWith, List.length_flatMap, sum_map_const each] at permuted
  rw [permuted, Plan.length_allEvents]
  rfl

theorem deliveries :
    ((sendings observed.2).map Sending.accepted).sum =
      config.events.toNat * (1 + 8 * detectors.length) := by
  have accepted : (sendings observed.2).map Sending.accepted =
      ((sendings observed.2).map fun sending => (sending.event, sending.message)).map
        fun sent => reach sent.2.type := by
    rw [List.map_map]
    apply List.map_congr_left
    intro sending sent
    rw [Sending.accepted, (completes.sending_eq sent).1]
    rfl
  have permuted := completes.sent_perm.map fun sent => reach sent.2.type
  have each : ∀ number ∈ (Config.plan config).allEvents,
      (((eventsOf config detectors number).messages.map fun message => (number, message)).map
        fun sent => reach sent.2.type).sum = 1 + 8 * detectors.length := by
    intro number _
    rw [List.map_map]
    exact (covers_eventsOf config detectors number).sum_reach
  rw [accepted, permuted.sum_nat, sentWith, List.map_flatMap, List.flatMap_def, List.sum_flatten,
    List.map_map]
  refine (sum_map_const each).trans ?_
  rw [Plan.length_allEvents]
  rfl

end Completes

/-! ## The tally -/

section Filters

variable {tally : Nat} {live : List Handle} {detectors : List Detector} {pipeline : Pipeline}
  {lane : LaneId} {modules : List (Module Counters)}

private theorem filters_of_plays {played : List Role}
    (plays : List.Forall₂ (Plays tally lane detectors pipeline) played modules)
    (unwatched : ∀ role ∈ played, role ≠ .monitor) :
    (handlesOf modules).filterMap Handle.filter? = [] := by
  induction plays with
  | nil => rfl
  | cons first others ih =>
    have rest := ih fun role among => unwatched role (List.mem_cons_of_mem _ among)
    rw [handlesOf_cons, List.filterMap_append, rest, List.append_nil]
    cases first with
    | generator | transfer | digitizer | reader => rfl
    | monitor => exact absurd rfl (unwatched _ List.mem_cons_self)

/-- A lane has one monitor, and its filter sees what is dispatched in the lane. -/
theorem Crewed.filters (crewed : Crewed tally live detectors pipeline lane modules) :
    ∃ handle ∈ live, handle.lane = lane ∧ ∃ number, handle.place = .filter number ∧
      (handlesOf modules).filterMap Handle.filter? = [number] := by
  have split : roles detectors = (.generator ::
      (detectors.map .transfer ++ detectors.map .digitizer ++ [.reader])) ++ [.monitor] := by
    simp [roles]
  obtain ⟨others, last, unwatched, watched, joined⟩ :=
    forall₂_append_left (split ▸ crewed.plays)
  have none := filters_of_plays unwatched fun role among same => by simp [same] at among
  cases watched with
  | cons plays ending =>
    cases ending
    have member := crewed.mine (joined ▸ List.mem_append_right others List.mem_cons_self)
    cases plays with
    | monitor state identity unnamed id number =>
      obtain ⟨listed, own⟩ := member _ List.mem_cons_self
      refine ⟨_, listed, own, number, rfl, ?_⟩
      rw [joined, handlesOf_append, List.filterMap_append, none]
      rfl

end Filters

/-- The payload names of the messages of an event with a number of detectors. -/
def eventNames (detectors : Nat) : List String :=
  "MCTrack" :: ((List.replicate detectors ["MCParticle", "DepositedCharge"]).flatten ++
    List.replicate detectors "PixelCharge" ++ List.replicate detectors "PixelHit")

theorem Event.Covers.names {event : Event} {detectors : List Detector}
    (covers : event.Covers detectors) :
    (event.messages.map fun message => message.type.name) = eventNames detectors.length := by
  obtain ⟨shots, readouts⟩ := covers.lengths
  have charges (shot : Shot) : shot.chargesMessage.type.name = "PixelCharge" := rfl
  have hits (readout : Readout) : readout.message.type.name = "PixelHit" := rfl
  have tracks : ({ payload := .tracks event.tracks } : Message).type.name = "MCTrack" := rfl
  have crossed (shot : Shot) : [shot.particlesMessage.type.name, shot.depositsMessage.type.name] =
      ["MCParticle", "DepositedCharge"] := rfl
  simp only [Event.messages, Event.generated, List.map_append, List.map_cons, List.map_nil,
    List.map_flatten, List.map_map, Function.comp_def, charges, hits, tracks, crossed,
    List.flatMap_def, List.map_const', shots, readouts, eventNames, List.cons_append]

namespace Completes

variable {tally : Nat} {config : Config} {detectors : List Detector}
  {lanes : List (Lane Counters)} {observed : Observed} {outcome : Outcome Counters}

/-- The monitors were asked about every message. -/
theorem asked (completes : Completes tally config detectors lanes observed outcome) :
    (observed.1.bus.store.asked (· == tally)).Perm
      ((Config.plan config).allEvents.flatMap fun _ => eventNames detectors.length) := by
  have orderly := completes.orderly
  let live := handlesOf (lanes.flatMap Lane.modules)
  have distinct : (live.filterMap Handle.filter?).Nodup := by
    refine List.pairwise_filterMap.mpr ((Usage.Sound.placesApart orderly.sound).imp ?_)
    intro first second apart one bound other filled same
    subst same
    exact apart ((Handle.filter?_eq_some.mp bound).trans (Handle.filter?_eq_some.mp filled).symm)
  have tallies (number : Nat) : observed.1.bus.store.tallyOf? number =
      if number ∈ live.filterMap Handle.filter? then some (some tally) else none := by
    rw [orderly.tallies]
    simp only [List.mem_filterMap, Handle.filter?_eq_some, live]
  have calls : ((live.filterMap Handle.filter?).flatMap fun number =>
      (observed.1.bus.store.filterState number).calls.map fun call => call.message.type.name) =
      lanes.flatMap fun lane => ((sentWith (eventsOf config detectors)
        ((Config.plan config).events lane.id)).map fun sent => sent.2.type.name).reverse := by
    simp only [live, handlesOf_flatMap, List.filterMap_flatMap, List.flatMap_assoc]
    apply List.flatMap_congr
    intro lane listed
    obtain ⟨handle, member, own, number, place, filters⟩ :=
      (completes.staffed.crewed lane listed).filters
    have seen := (completes.shown lane listed).2.calls handle member own number place
    have names := congrArg (List.map fun message => message.type.name) seen
    rw [List.map_map, List.map_reverse, List.map_map] at names
    rw [filters, List.flatMap_singleton]
    exact names
  have sent : (lanes.flatMap fun lane => (sentWith (eventsOf config detectors)
      ((Config.plan config).events lane.id)).map fun sent => sent.2.type.name).Perm
        ((Config.plan config).allEvents.flatMap fun _ => eventNames detectors.length) := by
    rw [← List.map_flatMap, ← sentWith_flatMap]
    refine ((completes.shared.flatMap_right _).map _).trans (.of_eq ?_)
    rw [List.map_flatMap]
    apply List.flatMap_congr
    intro number _
    rw [List.map_map]
    exact (covers_eventsOf config detectors number).names
  refine (Store.asked_perm distinct tallies).trans (calls ▸ ?_)
  exact (List.Perm.flatMap_left _ fun lane _ => List.reverse_perm _).trans sent

end Completes

/-- The names of the messages of the chain, in increasing order. -/
def sortedNames : List String :=
  ["DepositedCharge", "MCParticle", "MCTrack", "PixelCharge", "PixelHit"]

private theorem mem_eventNames {detectors : Nat} (installed : 0 < detectors) (text : String) :
    text ∈ eventNames detectors ↔ text ∈ sortedNames := by
  have some : detectors ≠ 0 := Nat.ne_of_gt installed
  simp only [eventNames, sortedNames, List.mem_cons, List.mem_append, List.mem_flatten,
    List.mem_replicate]
  grind

def talliedCounts (events detectors : Nat) : List (String × Nat) :=
  if events = 0 then []
  else [("DepositedCharge", events * detectors), ("MCParticle", events * detectors),
    ("MCTrack", events), ("PixelCharge", events * detectors), ("PixelHit", events * detectors)]

theorem Completes.counts {tally : Nat} {config : Config} {detectors : List Detector}
    {lanes : List (Lane Counters)} {observed : Observed} {outcome : Outcome Counters}
    (completes : Completes tally config detectors lanes observed outcome) :
    outcome.world.bus.store.counts tally =
      talliedCounts config.events.toNat detectors.length := by
  have asked := completes.asked
  have length : (Config.plan config).allEvents.length = config.events.toNat := Plan.length_allEvents
  rw [Store.counts, completes.store, talliedCounts]
  by_cases none : config.events.toNat = 0
  · rw [none, List.length_eq_zero_iff] at length
    rw [length, List.flatMap_nil] at asked
    rw [if_pos none, asked.eq_nil]
    exact occurrences_eq .nil .nil fun _ => .rfl
  · have listed (text : String) : text ∈ sortedNames ↔
        text ∈ observed.1.bus.store.asked (· == tally) := by
      obtain ⟨number, among⟩ : ∃ number, number ∈ (Config.plan config).allEvents :=
        List.exists_mem_of_length_pos (by omega)
      rw [asked.mem_iff, List.mem_flatMap, ← mem_eventNames completes.accepted.installed]
      exact ⟨fun sent => ⟨number, among, sent⟩, fun ⟨_, _, sent⟩ => sent⟩
    have count (text : String) : (observed.1.bus.store.asked (· == tally)).count text =
        config.events.toNat * (eventNames detectors.length).count text := by
      rw [asked.count_eq, List.count_flatMap, ← length]
      exact sum_map_const fun _ _ => rfl
    rw [if_neg none, occurrences_eq (by decide) (by decide) listed]
    simp [sortedNames, count, eventNames, List.count_flatten, List.count_replicate]

/-! ## The run as a whole -/

/-- A run of the chain succeeds, with these totals, by every schedule. -/
theorem chain_totals {config : Config} {simulation : Simulation Counters}
    (built : Simulation.ofConfig config = .ok simulation)
    (fits : config.events.toNat + config.workers.toNat ≤ UInt64.size)
    (range : InRange config simulation.detectors) (tally : Nat) (turns : List Nat) (world : World) :
    let demo := simulation.add (chain tally)
    let outcome := demo.run turns { world with bus := {} }
    let notes := demo.notes turns { world with bus := {} }
    let events := config.events.toNat
    let detectors := config.planes.length
    outcome.result = .ok {
        events := config.events
        lanes := config.workers
        modulesPerLane := 3 + 2 * detectors
        dispatched := events * (1 + 4 * detectors)
        deliveries := events * (1 + 8 * detectors)
        unreceived := 0 } ∧
      (∀ sending ∈ sendings notes, ∃ report, sending.result = .ok report) ∧
      outcome.world.bus.messenger.stats.failed = 0 ∧
      (∀ note ∈ notes, note.unmet = []) ∧
      outcome.world.bus.store.counts tally = talliedCounts events detectors := by
  intro demo outcome notes events detectors
  obtain ⟨installed, rfl, accepted⟩ := accepted_of_ofConfig built
  obtain ⟨lanes, observed, completes, noted⟩ :=
    completes_of_accepted accepted fits tally turns world range
  have orderly := completes.orderly
  have planes : detectors = installed.length := accepted.planes.symm
  have same : notes = observed.2 := noted
  rw [same, planes]
  refine ⟨?_, fun sending sent => ?_, completes.failed, orderly.met, completes.counts⟩
  · refine completes.result.trans ?_
    rw [orderly.dispatched, orderly.deliveries, orderly.unreceived, completes.dispatched,
      completes.deliveries]
  · exact ⟨_, (completes.sending_eq sent).1⟩

/-- Three events of the standard planes in two lanes. -/
theorem chain_totals_two_lanes : ∃ simulation : Simulation Counters,
    Simulation.ofConfig { events := 3, workers := 2 } = .ok simulation ∧
      (3 : UInt64).toNat + (2 : UInt64).toNat ≤ UInt64.size ∧
      InRange { events := 3, workers := 2 } simulation.detectors ∧
      ((simulation.add (chain 0)).run [1, 0, 1] {}).result = .ok {
        events := 3
        lanes := 2
        modulesPerLane := 9
        dispatched := 39
        deliveries := 75
        unreceived := 0 } := by
  obtain ⟨simulation, built⟩ : ∃ simulation : Simulation Counters,
      Simulation.ofConfig { events := 3, workers := 2 } = .ok simulation := ⟨_, rfl⟩
  have range := inRange_of_ofConfig built (by decide)
  exact ⟨simulation, built, by decide, range,
    (chain_totals built (by decide) range 0 [1, 0, 1] {}).1⟩

end Beamline.Demo
