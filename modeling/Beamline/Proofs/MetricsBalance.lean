import Beamline.Proofs.Lifecycle
import Beamline.Proofs.RunMeters

/-!
The counters of a run balance, whatever fails and however the lanes take turns: what they say of
events and errors is what the life of the modules tells.
-/

namespace Beamline.Run

open Bus Telemetry

variable {σ : Type} {simulation : Simulation σ}

/-! ## Single counts -/

namespace Round

variable (lane : LaneId) (round : Round) (rounds : List Round)

private theorem count_timed_meters : (round.meters lane).count .timed = 1 := by
  cases completed : round.completed <;> cases failure : round.failure? <;>
    simp [meters, completed, failure]

private theorem count_processed_meters (other : LaneId) :
    (round.meters lane).count (.processed other) =
      if lane = other ∧ round.completed then 1 else 0 := by
  cases completed : round.completed <;> cases failure : round.failure? <;>
    simp [meters, completed, failure, List.count_cons]

private theorem count_failed_meters (label : String × String) :
    (round.meters lane).count (.failed label) = round.failure?.toList.count label := by
  cases completed : round.completed <;> cases failure : round.failure? <;>
    simp [meters, completed, failure, List.count_cons]

theorem count_timed : (rounds.flatMap (Round.meters lane)).count .timed = rounds.length := by
  rw [List.count_flatMap]
  exact (sum_map_const fun round _ => round.count_timed_meters lane).trans (Nat.mul_one _)

theorem count_processed (other : LaneId) :
    (rounds.flatMap (Round.meters lane)).count (.processed other) =
      if lane = other then rounds.countP Round.completed else 0 := by
  rw [List.count_flatMap,
    List.map_congr_left fun round _ => round.count_processed_meters lane other, sum_indicator,
    ← List.countP_eq_length_filter]
  by_cases same : lane = other <;> simp [same]

theorem count_failed (label : String × String) :
    (rounds.flatMap (Round.meters lane)).count (.failed label) =
      (rounds.filterMap Round.failure?).count label := by
  rw [List.filterMap_eq_flatMap_toList, List.count_flatMap, List.count_flatMap]
  exact congrArg List.sum (List.map_congr_left fun round _ => round.count_failed_meters lane label)

end Round

theorem sum_lanes {rounds : List (List Round)} (read : List Round → Nat) :
    ((List.range rounds.length).map fun place => read ((rounds[place]?).getD [])).sum =
      (rounds.map read).sum := by
  refine congrArg List.sum (List.ext_getElem (by simp) fun place within _ => ?_)
  simp at within
  simp [within]

namespace Life

variable {life : Life}

section Calls

variable (calls : List StageCall)

private theorem count_timed_calls :
    ((calls.filterMap StageCall.failure?).map Meter.failed).count .timed = 0 :=
  List.count_eq_zero.mpr (by simp)

private theorem count_processed_calls (lane : LaneId) :
    ((calls.filterMap StageCall.failure?).map Meter.failed).count (.processed lane) = 0 :=
  List.count_eq_zero.mpr (by simp)

private theorem count_failed_calls (label : String × String) :
    ((calls.filterMap StageCall.failure?).map Meter.failed).count (.failed label) =
      (calls.filterMap StageCall.failure?).count label :=
  List.count_map_of_injective _ _ (fun _ _ => Meter.failed.inj) _

end Calls

theorem count_timed : life.meters.count .timed = (life.rounds.map List.length).sum := by
  simp only [meters, List.count_append, count_timed_calls, Nat.zero_add, Nat.add_zero]
  rw [← sum_lanes, eventMeters, List.count_flatMap]
  exact congrArg List.sum (List.map_congr_left fun place _ => Round.count_timed _ _)

theorem count_failed (label : String × String) :
    life.meters.count (.failed label) = life.failures.count label := by
  simp only [meters, failures, List.count_append, count_failed_calls]
  rw [List.count_flatMap, ← sum_lanes, eventMeters, List.count_flatMap]
  exact congrArg (_ + List.sum · + _ + _) (List.map_congr_left fun place _ =>
    Round.count_failed _ _ label)

theorem count_processed (few : life.rounds.length ≤ UInt16.size) (lane : LaneId) :
    life.meters.count (.processed lane) = (life.roundsOf lane).countP Round.completed := by
  simp only [meters, List.count_append, count_processed_calls, Nat.zero_add, Nat.add_zero]
  calc (eventMeters life.rounds).count (.processed lane)
      = ∑ place ∈ Finset.range life.rounds.length, if place = lane.index.toNat
          then ((life.rounds[place]?).getD []).countP Round.completed else 0 := by
        rw [eventMeters, List.count_flatMap]
        refine congrArg List.sum (List.map_congr_left fun place listed => ?_)
        have within := Nat.le_of_lt_succ (Nat.lt_of_lt_of_le (List.mem_range.mp listed) few)
        refine (Round.count_processed _ _ lane).trans ?_
        simp only [laneOf_eq_iff within]
    _ = (life.roundsOf lane).countP Round.completed := by
        rw [Finset.sum_ite_eq', roundsOf]
        by_cases within : lane.index.toNat < life.rounds.length
        · rw [if_pos (Finset.mem_range.mpr within)]
        · rw [if_neg (mt Finset.mem_range.mp within),
            List.getElem?_eq_none (Nat.le_of_not_lt within)]
          rfl

end Life

/-! ## Failed events -/

namespace Round

variable {rounds : List Round}

theorem completed_of_ok {round : Round} (succeeded : round.result = .ok ()) :
    round.completed = true := by
  simp [completed, succeeded]

theorem length_eq_completed (only : ∀ round ∈ rounds.dropLast, round.result = .ok ()) :
    rounds.length = rounds.countP completed + if anyFailed rounds then 1 else 0 := by
  rcases rounds.eq_nil_or_concat with rfl | ⟨past, last, rfl⟩
  · rfl
  · rw [List.concat_eq_append, List.dropLast_concat] at only
    have all : past.countP completed = past.length :=
      List.countP_eq_length.mpr fun round member => completed_of_ok (only round member)
    have none : anyFailed past = false :=
      List.any_eq_false.mpr fun round member => by simp [completed_of_ok (only round member)]
    rw [anyFailed] at none
    cases ended : last.completed <;> simp [anyFailed, all, none, ended]

/-- Without a fault, an event is charged to a module just if it does not come to its end. -/
theorem Charged.isSome_failure {round : Round} (charged : round.Charged)
    (sane : Sane round.result) : round.failure?.isSome = !round.completed := by
  rcases result : round.result with (reported | fault) | _
  · obtain ⟨_, _, _, _, _, failure⟩ := charged.failed reported result
    simp [Round.completed, result, failure]
  · exact absurd result (sane fault)
  · have complete := completed_of_ok result
    simp [complete, charged.completed complete]

theorem length_failures (only : ∀ round ∈ rounds.dropLast, round.result = .ok ())
    (charged : ∀ round ∈ rounds, round.Charged) (sane : ∀ round ∈ rounds, Sane round.result) :
    (rounds.filterMap failure?).length = if anyFailed rounds then 1 else 0 := by
  have failures : (rounds.filterMap failure?).length =
      rounds.countP fun round => ¬round.completed := by
    rw [List.length_filterMap_eq_countP]
    refine List.countP_congr fun round member => ?_
    simp [(charged round member).isSome_failure (sane round member)]
  have events := length_eq_completed only
  have parts := List.length_eq_countP_add_countP completed (l := rounds)
  omega

end Round

theorem Round.Of.sane {stations : List Station} {round : Round} (goes : round.Of stations)
    (calm : ∀ call ∈ round.calls, Sane call.result) : Sane round.result := by
  cases goes with
  | failed runs =>
    intro fault same
    obtain rfl := Except.error.inj same
    obtain ⟨call, member, faulty⟩ := runs.exists_fault
    exact calm call member fault faulty
  | unmet error runs => exact sane_error _
  | completed runs => exact sane_ok ()

/-- What is certain of the events of a lane: they are those of a loop. -/
def Round.Looped (rounds : List Round) : Prop :=
  ∃ plan id stations event ended, Rounds plan id stations event rounds ended

theorem Simulation.looped (turns : List Nat) (world : World) :
    let rounds := (simulation.life turns world).rounds
    (rounds = [] ∨ rounds.length = simulation.config.workers.toNat) ∧
      rounds.length ≤ UInt16.size ∧ ∀ its ∈ rounds, Round.Looped its := by
  rcases built : simulation.buildLanes simulation.config.workers.toNat 0 world with
    ⟨stop | lanes, start⟩
  · have none : simulation.life turns world = {} := by rw [life, built]
    simp [none]
  obtain ⟨length, _, few⟩ := ids_of_built built
  obtain ⟨before, ended, working, alike⟩ := (lived built turns).working
  rw [alike]
  by_cases none : before.rounds = []
  · simp [none]
  have loops := working.loops (working.begun none)
  refine ⟨.inr (loops.length_rounds.trans length), loops.length_rounds.trans_le few, ?_⟩
  intro its member
  obtain ⟨lane, _, last, _, goes⟩ := loops.of_mem member
  exact ⟨_, _, _, _, last, goes⟩

/-! ## The balance -/

section Lanes

variable {life : Life}

theorem sum_anyFailed (lanes : List (List Round)) :
    (lanes.map fun rounds => if Round.anyFailed rounds then 1 else 0).sum =
      lanes.countP Round.anyFailed := by
  rw [sum_indicator, List.countP_eq_length_filter]
  simp

private theorem Life.sum_completed
    (only : ∀ rounds ∈ life.rounds, ∀ round ∈ rounds.dropLast, round.result = .ok ()) :
    (life.rounds.map List.length).sum =
      (life.rounds.map (List.countP Round.completed)).sum + life.failedLanes := by
  rw [failedLanes, ← sum_anyFailed, ← List.sum_map_add]
  exact congrArg List.sum (List.map_congr_left fun rounds member =>
    Round.length_eq_completed (only rounds member))

private theorem Life.sum_roundsOf {workers : Nat} (few : life.rounds.length ≤ UInt16.size)
    (all : life.rounds = [] ∨ life.rounds.length = workers) :
    ∑ number ∈ Finset.range workers, (life.roundsOf (laneOf number)).countP Round.completed =
      (life.rounds.map (List.countP Round.completed)).sum := by
  rcases all with none | rfl
  · simp [roundsOf, none]
  · rw [← sum_lanes]
    refine congrArg List.sum (List.map_congr_left fun number listed => ?_)
    have within := Nat.le_of_lt_succ (Nat.lt_of_lt_of_le (List.mem_range.mp listed) few)
    rw [roundsOf, index_laneOf within]

theorem Life.length_failures
    (only : ∀ rounds ∈ life.rounds, ∀ round ∈ rounds.dropLast, round.result = .ok ())
    (charged : ∀ rounds ∈ life.rounds, ∀ round ∈ rounds, round.Charged)
    (sane : ∀ rounds ∈ life.rounds, ∀ round ∈ rounds, Sane round.result) :
    life.failures.length = life.setUps.countP StageCall.failed + life.failedLanes +
      life.finishes.countP StageCall.failed + life.tearDowns.countP StageCall.failed := by
  have events : (life.rounds.flatMap fun rounds => rounds.filterMap Round.failure?).length =
      life.failedLanes := by
    rw [failedLanes, ← sum_anyFailed, List.length_flatMap]
    exact congrArg List.sum (List.map_congr_left fun rounds member =>
      Round.length_failures (only rounds member) (charged rounds member) (sane rounds member))
  simp only [failures, List.length_append, List.length_filterMap_eq_countP, events]
  rfl

end Lanes

/-- How the counters of a process move in a run on so many lanes, by the life of the modules. -/
structure Balanced (workers : Nat) (life : Life) (before after : Metrics) : Prop where
  /-- Every event that begins is timed. -/
  timed : after.timed = before.timed + (life.rounds.map List.length).sum
  /-- Events that come to their end are counted for their lane. -/
  processed : ∀ lane, after.processed.count lane =
    before.processed.count lane + (life.roundsOf lane).countP Round.completed
  /-- All events but the failed one of a lane come to their end. -/
  events : after.timed + ∑ number ∈ Finset.range workers, before.processed.count (laneOf number) =
    before.timed + ∑ number ∈ Finset.range workers, after.processed.count (laneOf number) +
      life.failedLanes
  /-- Every failure is counted once under its module and kind. -/
  errors : ∀ label, after.moduleErrors.count label =
    before.moduleErrors.count label + life.failures.count label
  /-- A failed event is the failure of one module that ran in it. -/
  charged : ∀ rounds ∈ life.rounds, ∀ round ∈ rounds, round.Charged
  /-- Unless a module has a fault, the failures are those of calls before and after the events, and
  one for each lane with a failed event. -/
  failures : (∀ call ∈ life.calls, Sane call.result) → after.moduleErrors.total =
    before.moduleErrors.total + (life.setUps.countP StageCall.failed + life.failedLanes +
      life.finishes.countP StageCall.failed + life.tearDowns.countP StageCall.failed)

/-- Whatever fails and however the lanes take turns, the counters of a run balance. -/
theorem Simulation.run_balanced (turns : List Nat) (world : World) :
    Balanced simulation.config.workers.toNat (simulation.life turns world) world.metrics
      (simulation.run turns world).world.metrics := by
  obtain ⟨grown, charged⟩ := simulation.run_grown turns world
  obtain ⟨all, few, looped⟩ := simulation.looped turns world
  generalize simulation.life turns world = life at grown charged all few looped ⊢
  generalize (simulation.run turns world).world.metrics = after at grown ⊢
  have only : ∀ rounds ∈ life.rounds, ∀ round ∈ rounds.dropLast, round.result = .ok () := by
    intro rounds member
    obtain ⟨_, _, _, _, _, goes⟩ := looped rounds member
    exact goes.succeeded
  have timed : after.timed = world.metrics.timed + (life.rounds.map List.length).sum :=
    (grown .timed).trans (congrArg _ Life.count_timed)
  have processed (lane : LaneId) : after.processed.count lane =
      world.metrics.processed.count lane + (life.roundsOf lane).countP Round.completed :=
    (grown (.processed lane)).trans (congrArg _ (Life.count_processed few lane))
  have errors (label : String × String) : after.moduleErrors.count label =
      world.metrics.moduleErrors.count label + life.failures.count label :=
    (grown (.failed label)).trans (congrArg _ (Life.count_failed label))
  refine { timed, processed, events := ?_, errors, charged, failures := fun calm => ?_ }
  · rw [timed, Life.sum_completed only, Finset.sum_congr rfl fun number _ => processed _,
      Finset.sum_add_distrib, Life.sum_roundsOf few all]
    omega
  · rw [Counts.total_of_count errors, Life.length_failures only charged]
    intro rounds member round listed
    obtain ⟨_, _, _, _, _, goes⟩ := looped rounds member
    refine (goes.goes round listed).sane fun call called => calm call ?_
    have among : call ∈ life.runs :=
      List.mem_flatMap.mpr ⟨rounds, member, List.mem_flatMap.mpr ⟨round, listed, called⟩⟩
    simp [Life.calls, among]

end Beamline.Run
