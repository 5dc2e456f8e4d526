import Beamline.Proofs.DemoTotals
import Mathlib.Algebra.BigOperators.Group.List.Basic

/-!
How results of the demonstration chain depend on the number of lanes. An event has the same messages
and adds the same counts in whichever lane it is processed, so runs that succeed have the same
results. But which lanes have room for their charge follows from how the lanes share the events.
-/

namespace Beamline.Demo

open Bus Run

/-! ## The messages of one event -/

/-- The messages of an event as they are dispatched in the run of a plan. -/
def messagesOf (drawn : UInt64 → Event) (plan : Plan) (event : UInt64) : List (Message × String) :=
  if event < plan.total then (drawn event).messages.map fun message => (message, "") else []

private theorem sentWith_of_event {drawn : UInt64 → Event} {numbers : List UInt64}
    (distinct : numbers.Nodup) {event : UInt64} (listed : event ∈ numbers) :
    ((sentWith drawn numbers).filter fun sent => sent.1 = event) =
      (drawn event).messages.map fun message => (event, message) := by
  refine @filter_flatMap_key _ _ _ _ id _ Prod.fst _ (by simpa using distinct) ?_ event listed
  rintro owner _ ⟨number, message⟩ member
  obtain ⟨_, _, same⟩ := List.mem_map.mp member
  exact (congrArg Prod.fst same).symm

namespace Completes

variable {tally : Nat} {config : Config} {detectors : List Detector}
  {lanes : List (Lane Counters)} {observed : Observed} {outcome : Outcome Counters}
  (completes : Completes tally config detectors lanes observed outcome)

include completes

private theorem event_of_sending {lane : Lane Counters} (listed : lane ∈ lanes) {sending : Sending}
    (sent : sending ∈ sendings observed.2) (own : sending.lane = lane.id) :
    sending.event ∈ (Config.plan config).events lane.id := by
  have among : sending ∈ (sendings observed.2).filter fun sending => sending.lane = lane.id :=
    List.mem_filter.mpr ⟨sent, by simpa using own⟩
  rw [completes.sendings_of_lane listed] at among
  obtain ⟨⟨event, message⟩, planned, rfl⟩ := List.mem_map.mp among
  obtain ⟨number, processed, dispatched⟩ := List.mem_flatMap.mp planned
  obtain ⟨_, _, same⟩ := List.mem_map.mp dispatched
  cases same
  exact processed

private theorem number_of_lane {lane : Lane Counters} (listed : lane ∈ lanes) :
    ∃ number < config.workers.toNat, lane.id = laneOf number := by
  have named : lane.id ∈ lanes.map Lane.id := List.mem_map_of_mem listed
  rw [completes.ids] at named
  obtain ⟨number, within, same⟩ := List.mem_map.mp named
  exact ⟨number, List.mem_range.mp within, same.symm⟩

private theorem lane_of_number {number : Nat} (within : number < config.workers.toNat) :
    ∃ lane ∈ lanes, lane.id = laneOf number := by
  have named : laneOf number ∈ lanes.map Lane.id := by
    rw [completes.ids]
    exact List.mem_map_of_mem (List.mem_range.mpr within)
  exact List.mem_map.mp named

theorem place_of_sending {sending : Sending} (sent : sending ∈ sendings observed.2) :
    sending.event < (Config.plan config).total ∧
      sending.lane = laneOf (sending.event.toNat % config.workers.toNat) := by
  obtain ⟨lane, listed, own⟩ := completes.lane_of_sending sent
  obtain ⟨number, within, named⟩ := completes.number_of_lane listed
  have processed := completes.event_of_sending listed sent own
  rw [named] at processed
  obtain ⟨early, remainder⟩ :=
    (Plan.mem_events completes.accepted.few within).mp processed
  refine ⟨early, ?_⟩
  rw [own, named]
  exact congrArg laneOf remainder.symm

theorem sentIn_eq (event : UInt64) :
    sentIn event observed.2 = messagesOf (eventsOf config detectors) (Config.plan config) event := by
  unfold sentIn messagesOf
  by_cases early : event < (Config.plan config).total
  · have within := Nat.mod_lt event.toNat completes.accepted.working
    obtain ⟨lane, listed, named⟩ := completes.lane_of_number within
    have processed : event ∈ (Config.plan config).events lane.id := by
      rw [named]
      exact (Plan.mem_events completes.accepted.few within).mpr ⟨early, rfl⟩
    -- All of its messages are among those of one lane, which has the event once.
    have own := filter_sendings_of_event fun sending sent same =>
      ((completes.place_of_sending sent).2.trans (same ▸ rfl)).trans named.symm
    have once := @sentWith_of_event (eventsOf config detectors) _
      (Plan.eventsFrom_nodup completes.fits.positive _) event processed
    rw [own, completes.sendings_of_lane listed, List.filter_map, if_pos early]
    refine Eq.trans (congrArg (List.map _) (congrArg (List.map _) once)) ?_
    rw [List.map_map, List.map_map]
    rfl
  · have none : ((sendings observed.2).filter fun sending => sending.event == event) = [] := by
      refine List.filter_eq_nil_iff.mpr fun sending sent same => early ?_
      exact eq_of_beq same ▸ (completes.place_of_sending sent).1
    rw [none, if_neg early]
    rfl

end Completes

/-! ## The counters of the modules -/

/-- The counters of the module at a place of the chain. -/
def stateAt (modules : List (Module Counters)) (place : Nat) : Counters :=
  (modules[place]?.map Module.state).getD {}

/-- The counters of the modules at a place, of all lanes together. -/
def countersAt (lanes : List (Lane Counters)) (place : Nat) : Totals :=
  (lanes.map fun lane => (stateAt lane.modules place).totals).sum

section Counting

variable {tally : Nat} {live : List Handle} {detectors : List Detector} {pipeline : Pipeline}
  {lane : LaneId} {modules : List (Module Counters)} {drawn : UInt64 → Event}

private theorem totals_counted {gains : List Totals} (room : Room modules gains) (place : Nat) :
    (stateAt (List.zipWith counted modules gains) place).totals =
      (stateAt modules place).totals + gains.getD place 0 := by
  induction room generalizing place with
  | nil => rfl
  | cons holds others ih =>
    cases place with
    | zero => exact holds.totals_plus
    | succ place => exact ih place

private theorem totals_counting (crewed : Crewed tally live detectors pipeline lane modules)
    (covers : ∀ number, (drawn number).Covers detectors) {numbers : List UInt64}
    (room : HasRoom drawn modules numbers) (place : Nat) :
    (stateAt (counting drawn modules numbers) place).totals =
      (stateAt modules place).totals +
        (numbers.map fun number => (drawn number).gains.getD place 0).sum := by
  induction numbers generalizing modules with
  | nil => exact (add_zero _).symm
  | cons number rest ih =>
    obtain ⟨first, others⟩ := room
    have enough := crewed.length_eq.trans (covers number).length_gains.symm
    refine (ih (crewed.counted enough) others).trans ?_
    rw [totals_counted first, List.map_cons, List.sum_cons, add_assoc]

private theorem stateAt_released (place : Nat) :
    stateAt (modules.map Module.released) place = stateAt modules place := by
  simp [stateAt, Function.comp_def, Module.released]

private theorem stateAt_of_idle (idle : ∀ module ∈ modules, module.state = {}) (place : Nat) :
    stateAt modules place = {} := by
  unfold stateAt
  cases found : modules[place]? with
  | none => rfl
  | some module => exact idle module (List.mem_of_getElem? found)

end Counting

theorem Completes.countersAt_eq {tally : Nat} {config : Config} {detectors : List Detector}
    {lanes : List (Lane Counters)} {observed : Observed} {outcome : Outcome Counters}
    (completes : Completes tally config detectors lanes observed outcome) (place : Nat) :
    countersAt outcome.lanes place = ((Config.plan config).allEvents.map fun number =>
      (eventsOf config detectors number).gains.getD place 0).sum := by
  have each : ∀ lane ∈ lanes, (stateAt (laneAfter (eventsOf config detectors) (Config.plan config)
      lane).released.modules place).totals =
        (((Config.plan config).events lane.id).map fun number =>
          (eventsOf config detectors number).gains.getD place 0).sum := by
    intro lane listed
    have counted := totals_counting (completes.staffed.crewed lane listed)
      (covers_eventsOf config detectors) (completes.room lane listed) place
    have fresh : (stateAt lane.modules place).totals = 0 :=
      congrArg Counters.totals (stateAt_of_idle (completes.idle lane listed) place)
    rw [fresh, zero_add] at counted
    exact (congrArg Counters.totals (stateAt_released place)).trans counted
  rw [countersAt, completes.lanes_eq, List.map_map]
  refine (congrArg List.sum (List.map_congr_left each)).trans ?_
  rw [← (completes.shared.map _).sum_eq, List.map_flatMap, List.flatMap_def, List.sum_flatten,
    List.map_map]
  rfl

/-! ## Two runs -/

/-- The runs of two chains, counting in a tally each, have the same results. -/
structure SameResults (tally other : Nat) (notes again : List Note)
    (outcome repeated : Outcome Counters) : Prop where
  /-- The same messages are dispatched in each event, in the same order. -/
  sent : ∀ event, sentIn event notes = sentIn event again
  summary : ∃ summary later, outcome.result = .ok summary ∧ repeated.result = .ok later ∧
    summary.dispatched = later.dispatched ∧ summary.deliveries = later.deliveries ∧
    summary.unreceived = later.unreceived
  counts : outcome.world.bus.store.counts tally = repeated.world.bus.store.counts other
  counters : ∀ place, countersAt outcome.lanes place = countersAt repeated.lanes place

/-- A run succeeds just if the charge of each lane is in range, and otherwise meets a fault. -/
structure EndsInRange (config : Config) (detectors : List Detector) (outcome : Outcome Counters) :
    Prop where
  succeeds : InRange config detectors → ∃ summary, outcome.result = .ok summary
  faults : ¬InRange config detectors → outcome.result = .error (.fault .addition)

private theorem endsInRange_of_accepted {config : Config} {detectors : List Detector}
    (accepted : Accepted config detectors)
    (fits : config.events.toNat + config.workers.toNat ≤ UInt64.size) (tally : Nat)
    (turns : List Nat) (world : World) :
    let simulation : Simulation Counters := { config, detectors, blueprints := chain tally }
    EndsInRange config detectors (simulation.run turns { world with bus := {} }) where
  succeeds range := by
    obtain ⟨_, _, completes, _⟩ := completes_of_accepted accepted fits tally turns world range
    exact ⟨_, completes.result⟩
  faults := fault_of_accepted accepted fits tally turns world

private theorem sameResults_of_completes {config again : Config} {detectors : List Detector}
    {tally other : Nat} {lanes ranks : List (Lane Counters)} {observed seen : Observed}
    {outcome repeated : Outcome Counters}
    (completes : Completes tally config detectors lanes observed outcome)
    (repeats : Completes other again detectors ranks seen repeated)
    (same : ∃ workers, again = { config with workers }) :
    SameResults tally other observed.2 seen.2 outcome repeated := by
  obtain ⟨workers, rfl⟩ := same
  exact {
    sent := fun event => (completes.sentIn_eq event).trans (repeats.sentIn_eq event).symm
    summary := by
      refine ⟨_, _, completes.result, repeats.result, ?_, ?_, ?_⟩
      · rw [completes.orderly.dispatched, repeats.orderly.dispatched, completes.dispatched,
          repeats.dispatched]
      · rw [completes.orderly.deliveries, repeats.orderly.deliveries, completes.deliveries,
          repeats.deliveries]
      · rw [completes.orderly.unreceived, repeats.orderly.unreceived]
    counts := completes.counts.trans repeats.counts.symm
    counters := fun place =>
      (completes.countersAt_eq place).trans (repeats.countersAt_eq place).symm }

/-- The results of the chain depend neither on the number of workers nor on the schedule. But the
number of workers decides whether there are any: every lane needs room for the charge of its events.
-/
theorem results_independent_of_workers {config : Config} {simulation : Simulation Counters}
    (built : Simulation.ofConfig config = .ok simulation) (workers others : UInt64)
    (allowed : ∀ count ∈ [workers, others], 0 < count.toNat ∧
      count.toNat ≤ ConfigError.maxWorkers ∧ config.events.toNat + count.toNat ≤ UInt64.size)
    (tally other : Nat) (turns again : List Nat) (world elsewhere : World) :
    ∃ first second, Simulation.ofConfig { config with workers } = .ok first ∧
      Simulation.ofConfig { config with workers := others } = .ok second ∧
      let demo := first.add (chain tally)
      let repeated := second.add (chain other)
      let outcome := demo.run turns { world with bus := {} }
      let replay := repeated.run again { elsewhere with bus := {} }
      EndsInRange { config with workers } simulation.detectors outcome ∧
      EndsInRange { config with workers := others } simulation.detectors replay ∧
      (InRange { config with workers } simulation.detectors →
        InRange { config with workers := others } simulation.detectors →
        SameResults tally other (demo.notes turns { world with bus := {} })
          (repeated.notes again { elsewhere with bus := {} }) outcome replay) := by
  obtain ⟨working, few, fits⟩ := allowed workers (by simp)
  obtain ⟨operating, fewer, suits⟩ := allowed others (by simp)
  have first := ofConfig_workers built working few
  have second := ofConfig_workers built operating fewer
  refine ⟨_, _, first, second, ?_⟩
  obtain ⟨detectors, rfl, _⟩ := accepted_of_ofConfig built
  obtain ⟨_, same, accepted⟩ := accepted_of_ofConfig first
  obtain ⟨_, equal, approved⟩ := accepted_of_ofConfig second
  cases same
  cases equal
  refine ⟨endsInRange_of_accepted accepted fits tally turns world,
    endsInRange_of_accepted approved suits other again elsewhere, fun range reach => ?_⟩
  obtain ⟨_, observed, completes, noted⟩ :=
    completes_of_accepted accepted fits tally turns world range
  obtain ⟨_, seen, repeats, recorded⟩ :=
    completes_of_accepted approved suits other again elsewhere reach
  have results := sameResults_of_completes completes repeats ⟨others, rfl⟩
  rw [← noted, ← recorded] at results
  exact results

/-- Five events of the standard planes in one lane and in three. -/
theorem results_independent_of_three_workers :
    ∃ simulation : Simulation Counters, Simulation.ofConfig { events := 5 } = .ok simulation ∧
      ∃ first second : Simulation Counters,
        Simulation.ofConfig { events := 5, workers := 1 } = .ok first ∧
        Simulation.ofConfig { events := 5, workers := 3 } = .ok second ∧
        SameResults 0 0 ((first.add (chain 0)).notes [] {})
          ((second.add (chain 0)).notes [2, 0, 1, 1] {})
          ((first.add (chain 0)).run [] {}) ((second.add (chain 0)).run [2, 0, 1, 1] {}) := by
  obtain ⟨simulation, built⟩ : ∃ simulation : Simulation Counters,
      Simulation.ofConfig { events := 5 } = .ok simulation := ⟨_, rfl⟩
  obtain ⟨first, second, one, three, _, _, results⟩ :=
    @results_independent_of_workers { events := 5 } _ built 1 3
      (List.forall_mem_cons.mpr ⟨by decide, List.forall_mem_singleton.mpr (by decide)⟩) 0 0 []
      [2, 0, 1, 1] {} {}
  have range (workers : UInt64) (working : 0 < workers.toNat)
      (few : workers.toNat ≤ ConfigError.maxWorkers) :
      InRange { events := 5, workers } simulation.detectors :=
    @inRange_of_ofConfig _ { simulation with config := { events := 5, workers } }
      (ofConfig_workers built working few) (of_decide_eq_true rfl : 5 * (3 * (10 * 2)) ≤ UInt32.size)
  exact ⟨simulation, built, first, second, one, three,
    results (range 1 (by decide) (by decide)) (range 3 (by decide) (by decide))⟩

end Beamline.Demo
