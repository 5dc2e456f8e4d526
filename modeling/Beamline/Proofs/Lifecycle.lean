import Beamline.Proofs.AbortProtocol
import Beamline.Proofs.LifeStages
import Beamline.Proofs.TearDown

/-!
The lifecycle of modules in a run, whichever of them fail: every instance is set up at most once,
runs on the events of its lane, is finished at most once and torn down exactly once, and the run
reports what failed first.
-/

namespace Beamline.Run

variable {σ : Type} {simulation : Simulation σ} {lanes : List (Lane σ)}

/-! ## Runs, stage by stage -/

/-- The events of all lanes, each of which goes on for itself. -/
structure Loops (plan : Plan) (lanes : List (Lane σ)) (rounds : List (List Round))
    (ends : List (Except Stop Nat)) : Prop where
  length_rounds : rounds.length = lanes.length
  length_ends : ends.length = lanes.length
  goes : ∀ (place : Nat) (lane : Lane σ) (its : List Round) (ended : Except Stop Nat),
    lanes[place]? = some lane → rounds[place]? = some its → ends[place]? = some ended →
      Rounds plan lane.id lane.stations lane.id.index.toUInt64 its ended

/-- The life of the modules up to their tear-down, and how it ends. -/
inductive Working (simulation : Simulation σ) (lanes : List (Lane σ)) :
    Life → Except Stop Unit → Prop
  | unprepared {setUps : List StageCall} {stop : Stop}
      (setUp : InTurn .setUp none (stationsOf lanes) setUps (.error stop)) :
      Working simulation lanes { setUps } (.error stop)
  | stopped {setUps : List StageCall} {rounds : List (List Round)}
      {ends : List (Except Stop Nat)} {stop : Stop}
      (setUp : InTurn .setUp none (stationsOf lanes) setUps (.ok ()))
      (loops : Loops (simulation.plan lanes) lanes rounds ends)
      (stopped : LaneEnds.together ends = .error stop) :
      Working simulation lanes { setUps, rounds, ends } (.error stop)
  | finished {setUps finishes : List StageCall} {rounds : List (List Round)}
      {ends : List (Except Stop Nat)} {ended : Except Stop Unit}
      (setUp : InTurn .setUp none (stationsOf lanes) setUps (.ok ()))
      (loops : Loops (simulation.plan lanes) lanes rounds ends)
      (succeeded : LaneEnds.together ends = .ok ())
      (finish : InTurn .finish none (stationsOf lanes) finishes ended) :
      Working simulation lanes { setUps, rounds, ends, finishes } ended

private theorem Simulation.loops_of_shape (simulation : Simulation σ) {ready : List (Lane σ)}
    (same : ready.map Lane.shape = lanes.map Lane.shape) (turns : List Nat) (world : World) :
    let told := (runScheduled LaneOperation.perform (simulation.telling ready) turns world).1
    Loops (simulation.plan lanes) lanes (told.map fun ended => ended.2.rounds)
        (told.map fun ended => ended.1.1) ∧
      (told.map fun ended => ended.1.2).map Lane.shape = lanes.map Lane.shape := by
  intro told
  have count : ready.length = lanes.length := by simpa using congrArg List.length same
  have plan : simulation.plan ready = simulation.plan lanes := by
    simp only [Simulation.plan, count]
  have length : told.length = lanes.length :=
    ((runScheduled_length _ _ _ _).trans (List.length_map _)).trans count
  -- How the lane of a place goes on.
  have each (place : Nat) (loop : Process ((Except Stop Nat × Lane σ) × Chronicle σ))
      (found : (simulation.telling ready)[place]? = some loop) :
      loop.Yields fun ended => ∀ lane, lanes[place]? = some lane →
        Rounds (simulation.plan lanes) lane.id lane.stations lane.id.index.toUInt64
            ended.2.rounds ended.1.1 ∧ ended.1.2.shape = lane.shape := by
    rw [Simulation.telling, List.getElem?_map, Option.map_eq_some_iff] at found
    obtain ⟨other, present, rfl⟩ := found
    apply (other.yields_tellEvents (simulation.plan ready) _ 0 []).mono
    rintro ⟨⟨ended, later⟩, chronicle⟩ ⟨⟨rest, told, goes⟩, kept⟩ lane listed
    change chronicle.rounds = rest at told
    have alike : other.shape = lane.shape := by
      have alike := congrArg (·[place]?) same
      simpa [present, listed] using alike
    rw [plan, Lane.id_of_shape alike, Lane.stations_of_shape alike] at goes
    exact ⟨told ▸ goes, kept.trans alike⟩
  have told_each {place : Nat} {ended : (Except Stop Nat × Lane σ) × Chronicle σ}
      (found : told[place]? = some ended) :=
    runScheduled_respects each LaneOperation.perform turns world found
  refine ⟨⟨by simp [length], by simp [length], ?_⟩, ?_⟩
  · intro place lane its ended listed rounds ends
    rw [List.getElem?_map, Option.map_eq_some_iff] at rounds ends
    obtain ⟨one, found, rfl⟩ := rounds
    obtain ⟨_, again, rfl⟩ := ends
    obtain rfl := Option.some.inj (found.symm.trans again)
    exact (told_each found lane listed).1
  · refine List.ext_getElem (by simp [length]) fun place within _ => ?_
    have inside : place < told.length := by simpa using within
    have listed := List.getElem?_eq_getElem (length ▸ inside)
    simpa using (told_each (List.getElem?_eq_getElem inside) _ listed).2

/-- Every run works in one of these ways. -/
theorem Simulation.working (simulation : Simulation σ) (turns : List Nat) (lanes : List (Lane σ))
    (world : World) :
    let worked := simulation.tellWork turns lanes world
    Working simulation lanes worked.2 worked.1.1 ∧
      worked.1.2.1.map Lane.shape = lanes.map Lane.shape := by
  unfold Simulation.tellWork
  have setUp := (yields_tellStage .setUp Behaviour.setUp lanes).finish world
  generalize (tellStage .setUp Behaviour.setUp lanes).finish world = prepared at setUp ⊢
  obtain ⟨⟨⟨stop | _, ready⟩, setUps⟩, second⟩ := prepared
  · exact ⟨.unprepared setUp.1, setUp.2⟩
  · obtain ⟨setUp, same⟩ := setUp
    obtain ⟨loops, shapes⟩ := simulation.loops_of_shape same turns
      { second with aborting := false }
    dsimp only at loops shapes ⊢
    generalize runScheduled LaneOperation.perform (simulation.telling ready) turns
      { second with aborting := false } = ran at loops shapes ⊢
    obtain ⟨told, third⟩ := ran
    dsimp only
    rcases together : LaneEnds.together (told.map fun ended => ended.1.1) with stop | _
    · simp only [together]
      exact ⟨.stopped setUp loops together, shapes⟩
    · simp only [together]
      have finish := (yields_tellStage .finish Behaviour.finish
        (told.map fun ended => ended.1.2)).finish third
      rw [stationsOf_of_shape shapes] at finish
      exact ⟨.finished setUp loops together finish.1, finish.2.trans shapes⟩

/-- How a run ends whose stages end in a way: where none of them failed, only the messenger can still
be found inconsistent or not empty. -/
inductive Concludes : Except Stop Unit → Except Stop Summary → Prop
  | stopped (stop : Stop) : Concludes (.error stop) (.error stop)
  | completed (summary : Summary) : Concludes (.ok ()) (.ok summary)
  | inconsistent (error : Bus.BusError) : Concludes (.ok ()) (.error (.error (.bus error)))
  | leaked (count : Nat) : Concludes (.ok ()) (.error (.error (.leakedDelegates count)))

/-- The life of the modules in a run, and how the run ends. -/
inductive Lived (simulation : Simulation σ) (lanes : List (Lane σ)) :
    Life → Except Stop Summary → Prop
  /-- After a fault, no module is torn down. -/
  | faulty {life : Life} {fault : Fault}
      (working : Working simulation lanes life (.error (.fault fault))) :
      Lived simulation lanes life (.error (.fault fault))
  | tornDown {life : Life} {ended torn : Except Stop Unit} {tearDowns : List StageCall}
      {result : Except Stop Summary} (working : Working simulation lanes life ended)
      (sane : Sane ended) (tornDown : TornDown (stationsOf lanes) tearDowns torn)
      (concludes : Concludes (Stop.both ended torn) result) :
      Lived simulation lanes { life with tearDowns } result

theorem Simulation.concludes (simulation : Simulation σ) (modulesPerLane : Nat) (world : World) :
    Concludes (.ok ()) ((simulation.conclude modulesPerLane world).1.mapError .error) := by
  unfold Simulation.conclude
  dsimp only
  split
  · exact .inconsistent _
  · split
    · exact .completed _
    · exact .leaked _

/-- Every run whose lanes are built goes one of these ways. -/
theorem Simulation.lived {world start : World}
    (built : simulation.buildLanes simulation.config.workers.toNat 0 world = (.ok lanes, start))
    (turns : List Nat) :
    Lived simulation lanes (simulation.life turns world) (simulation.run turns world).result := by
  obtain ⟨working, shapes⟩ := simulation.working turns lanes start
  have same := simulation.tellWork_fst turns lanes start
  rcases told : simulation.tellWork turns lanes start with ⟨⟨ended, left, last⟩, life⟩
  rw [told] at working shapes same
  have tornDown := (yields_tellLaneTearDowns left).finish last
  rw [stationsOf_of_shape shapes] at tornDown
  have tearing := Process.finish_told (tellLaneTearDowns_map left) last
  simp only [Simulation.life, Simulation.run, built, told, ← same]
  rcases ended with (error | fault) | _
  · simp only [tearing]
    refine .tornDown working (sane_error error) tornDown ?_
    rcases Stop.both (.error (.error error)) ((tellLaneTearDowns left).finish last).1.1.1
      with stop | _
    · exact .stopped stop
    · exact simulation.concludes _ _
  · exact .faulty working
  · simp only [tearing]
    refine .tornDown working (sane_ok ()) tornDown ?_
    rcases Stop.both (.ok ()) ((tellLaneTearDowns left).finish last).1.1.1 with stop | _
    · exact .stopped stop
    · exact simulation.concludes _ _

/-! ## What can be read off -/

theorem Loops.of_mem {plan : Plan} {rounds : List (List Round)} {ends : List (Except Stop Nat)}
    (loops : Loops plan lanes rounds ends) {its : List Round} (member : its ∈ rounds) :
    ∃ lane ∈ lanes, ∃ ended ∈ ends,
      Rounds plan lane.id lane.stations lane.id.index.toUInt64 its ended := by
  obtain ⟨place, within, rfl⟩ := List.getElem_of_mem member
  have listed := List.getElem?_eq_getElem (loops.length_rounds ▸ within)
  have last := List.getElem?_eq_getElem
    ((loops.length_ends.trans loops.length_rounds.symm).symm ▸ within)
  exact ⟨_, List.mem_of_getElem? listed, _, List.mem_of_getElem? last,
    loops.goes place _ _ _ listed (List.getElem?_eq_getElem within) last⟩

/-- Once every lane comes to its end, none of their events failed. -/
theorem Loops.succeeded {plan : Plan} {rounds : List (List Round)}
    {ends : List (Except Stop Nat)} (loops : Loops plan lanes rounds ends)
    (succeeded : LaneEnds.together ends = .ok ()) :
    ∀ its ∈ rounds, ∀ round ∈ its, round.result = .ok () := by
  intro its among round member
  obtain ⟨lane, _, ended, last, goes⟩ := loops.of_mem among
  obtain ⟨processed, rfl⟩ := LaneEnds.together_ok succeeded last
  rcases result : round.result with stop | _
  · cases goes.ended_of_failed member result
  · rfl

/-- Once every lane comes to its end, all events are processed. -/
theorem Loops.covers {rounds : List (List Round)} {ends : List (Except Stop Nat)}
    (loops : Loops (simulation.plan lanes) lanes rounds ends)
    (numbered : lanes.map Lane.id = (List.range lanes.length).map laneOf)
    (few : lanes.length ≤ UInt16.size) (some : 0 < lanes.length)
    (succeeded : LaneEnds.together ends = .ok ()) {event : UInt64}
    (early : event < simulation.config.events) :
    ∃ its ∈ rounds, ∃ round ∈ its, round.event = event := by
  let place := event.toNat % lanes.length
  have within : place < lanes.length := Nat.mod_lt _ some
  have first : (laneOf place).index.toUInt64.toNat = place := by
    have small : UInt16.size = ConfigError.maxWorkers + 1 := rfl
    exact toNat_laneOf (by omega)
  have listed := List.getElem?_eq_getElem within
  have its := List.getElem?_eq_getElem (loops.length_rounds.symm ▸ within)
  have last := List.getElem?_eq_getElem (loops.length_ends.symm ▸ within)
  have goes := loops.goes place _ _ _ listed its last
  rw [Simulation.id_of_numbered numbered listed] at goes
  obtain ⟨processed, complete⟩ := LaneEnds.together_ok succeeded (List.mem_of_getElem? last)
  have upTo : (laneOf place).index.toUInt64 ≤ event := by
    rw [UInt64.le_iff_toNat_le, first]
    exact Nat.mod_le _ _
  obtain ⟨round, member, same⟩ := goes.covers complete upTo early (by
    rw [Simulation.toNat_stride few, first, Nat.mod_mod])
  exact ⟨_, List.mem_of_getElem? its, round, member, same⟩

section Calls

variable {calls : List StageCall} {stations : List Station} {stage : Stage}

theorem map_stage_filter (within : ∀ call ∈ calls, call.stage = stage)
    (kept : StageCall → Bool) : (calls.filter kept).map StageCall.stage =
      List.replicate (calls.filter kept).length stage := by
  refine List.eq_replicate_iff.mpr ⟨List.length_map _, fun other member => ?_⟩
  obtain ⟨call, filtered, rfl⟩ := List.mem_map.mp member
  exact within call (List.mem_filter.mp filtered).1

theorem length_filter_station (calls : List StageCall) (station : Station) :
    (calls.filter fun call => call.station = station).length =
      (calls.map StageCall.station).count station := by
  rw [← List.countP_eq_length_filter, List.count, List.countP_map]
  exact List.countP_congr fun call _ => by simp

theorem InTurn.length_filter_le {event : Option UInt64} {ended : Except Stop Unit}
    (inTurn : InTurn stage event stations calls ended) (apart : stations.Nodup)
    (station : Station) : (calls.filter fun call => call.station = station).length ≤ 1 := by
  rw [length_filter_station]
  exact List.nodup_iff_count_le_one.mp (apart.sublist inTurn.prefix_stations.sublist) station

end Calls

namespace Working

variable {life : Life} {ended : Except Stop Unit}

theorem setUps (working : Working simulation lanes life ended) :
    ∃ result, InTurn .setUp none (stationsOf lanes) life.setUps result := by
  cases working with
  | unprepared setUp => exact ⟨_, setUp⟩
  | stopped setUp loops stopped => exact ⟨_, setUp⟩
  | finished setUp loops succeeded finish => exact ⟨_, setUp⟩

/-- No event begins before every instance is set up. -/
theorem begun (working : Working simulation lanes life ended) (begun : life.rounds ≠ []) :
    InTurn .setUp none (stationsOf lanes) life.setUps (.ok ()) := by
  cases working with
  | unprepared setUp => exact absurd rfl begun
  | stopped setUp loops stopped => exact setUp
  | finished setUp loops succeeded finish => exact setUp

theorem loops (working : Working simulation lanes life ended)
    (prepared : InTurn .setUp none (stationsOf lanes) life.setUps (.ok ())) :
    Loops (simulation.plan lanes) lanes life.rounds life.ends := by
  cases working with
  | unprepared setUp => cases setUp.ended_eq.trans prepared.ended_eq.symm
  | stopped setUp loops stopped => exact loops
  | finished setUp loops succeeded finish => exact loops

/-- After events that succeed, every instance is finished. -/
theorem finishes (working : Working simulation lanes life ended) (some : life.rounds ≠ [])
    (succeeded : LaneEnds.together life.ends = .ok ()) :
    ∃ result, InTurn .finish none (stationsOf lanes) life.finishes result := by
  cases working with
  | unprepared setUp => exact absurd rfl some
  | stopped setUp loops stopped => cases stopped.symm.trans succeeded
  | finished setUp loops succeeded finish => exact ⟨_, finish⟩

/-- Before events begin and where they do not succeed, nothing is finished. -/
theorem finishing (working : Working simulation lanes life ended) (some : life.finishes ≠ []) :
    InTurn .setUp none (stationsOf lanes) life.setUps (.ok ()) ∧
      LaneEnds.together life.ends = .ok () ∧
      InTurn .finish none (stationsOf lanes) life.finishes ended := by
  cases working with
  | unprepared setUp => exact absurd rfl some
  | stopped setUp loops stopped => exact absurd rfl some
  | finished setUp loops succeeded finish => exact ⟨setUp, succeeded, finish⟩

/-- The first failure of the first stage that failed ends the work. -/
theorem ended_eq (working : Working simulation lanes life ended) :
    ended = endOf ((life.setUps.findSome? StageCall.stop?).or
      (life.eventStop?.or (life.finishes.findSome? StageCall.stop?))) := by
  cases working with
  | unprepared setUp =>
    have failed := endOf_eq_error.mp setUp.ended_eq.symm
    simp [failed, endOf]
  | stopped setUp loops stopped =>
    have succeeded := endOf_eq_ok.mp setUp.ended_eq.symm
    simp [succeeded, Life.eventStop?, stopped, endOf]
  | finished setUp loops succeeded finish =>
    have prepared := endOf_eq_ok.mp setUp.ended_eq.symm
    simpa [prepared, Life.eventStop?, succeeded] using finish.ended_eq

/-- The instances are called in the stages up to their tear-down in their order. -/
theorem stages (working : Working simulation lanes life ended)
    (apart : (stationsOf lanes).Nodup) (station : Station) :
    ∃ setUps ≤ 1, ∃ runs, ∃ finishes ≤ 1,
      ((life.setUps ++ life.runs ++ life.finishes).filter fun call =>
          call.station = station).map StageCall.stage =
        List.replicate setUps .setUp ++ List.replicate runs .run ++
          List.replicate finishes .finish := by
  obtain ⟨result, setUp⟩ := working.setUps
  have runs : ∀ call ∈ life.runs, call.stage = .run := by
    intro call member
    obtain ⟨its, among, member⟩ := List.mem_flatMap.mp member
    obtain ⟨round, listed, called⟩ := List.mem_flatMap.mp member
    obtain ⟨lane, _, ended, _, goes⟩ :=
      (working.loops (working.begun (List.ne_nil_of_mem among))).of_mem among
    obtain ⟨_, inTurn, _⟩ := (goes.goes round listed).inTurn
    exact (inTurn.within call called).stage
  have finishes : (∀ call ∈ life.finishes, call.stage = .finish) ∧
      (life.finishes.filter fun call => call.station = station).length ≤ 1 := by
    by_cases none : life.finishes = []
    · simp [none]
    · obtain ⟨_, _, finish⟩ := working.finishing none
      exact ⟨fun call member => (finish.within call member).stage,
        finish.length_filter_le apart station⟩
  refine ⟨_, setUp.length_filter_le apart station,
    (life.runs.filter fun call => call.station = station).length, _, finishes.2, ?_⟩
  rw [List.filter_append, List.filter_append, List.map_append, List.map_append,
    map_stage_filter (fun call member => (setUp.within call member).stage),
    map_stage_filter runs, map_stage_filter finishes.1]

end Working

/-! ## Faults -/

private theorem StageCall.result_of_fault {call : StageCall} {fault : Fault}
    (stopped : call.stop? = some (.fault fault)) : call.result = .error (.fault fault) := by
  unfold StageCall.stop? at stopped
  split at stopped
  · rename_i stop failed
    cases stop with
    | error error => cases stopped
    | fault other => rw [failed, Stop.fault.inj (Option.some.inj stopped)]
  · split at stopped <;> cases stopped

private theorem exists_of_findSome_fault {calls : List StageCall} {fault : Fault}
    (found : calls.findSome? StageCall.stop? = some (.fault fault)) :
    ∃ call ∈ calls, call.result = .error (.fault fault) := by
  obtain ⟨call, member, stopped⟩ := List.exists_of_findSome?_eq_some found
  exact ⟨call, member, call.result_of_fault stopped⟩

theorem InTurn.exists_fault {stage : Stage} {event : Option UInt64} {stations : List Station}
    {calls : List StageCall} {fault : Fault}
    (inTurn : InTurn stage event stations calls (.error (.fault fault))) :
    ∃ call ∈ calls, call.result = .error (.fault fault) :=
  exists_of_findSome_fault (endOf_eq_error.mp inTurn.ended_eq.symm)

theorem TornDown.exists_fault {stations : List Station} {calls : List StageCall}
    {ended : Except Stop Unit} {fault : Fault} (tornDown : TornDown stations calls ended)
    (faulty : ended = .error (.fault fault)) :
    ∃ call ∈ calls, call.result = .error (.fault fault) := by
  induction tornDown with
  | done => cases faulty
  | faulty within failed => exact ⟨_, List.mem_singleton_self _, failed.trans (by rw [← faulty])⟩
  | @next call rest later ended within sane further ih =>
    have below : ended = .error (.fault fault) := by
      rcases reason : endOf call.stop? with (error | other) | _
      · rw [reason] at faulty
        rcases ended with (_ | _) | _
        · cases faulty
        · exact faulty
        · cases faulty
      · exact absurd reason (sane other)
      · rwa [reason] at faulty
    obtain ⟨found, member, failed⟩ := ih below
    exact ⟨found, List.mem_cons_of_mem _ member, failed⟩

theorem Rounds.exists_fault {plan : Plan} {id : LaneId} {stations : List Station} {event : UInt64}
    {rounds : List Round} {ended : Except Stop Nat} {fault : Fault} (moving : 0 < plan.stride.toNat)
    (going : Rounds plan id stations event rounds ended) (faulty : ended = .error (.fault fault)) :
    (∃ round ∈ rounds, ∃ call ∈ round.calls, call.result = .error (.fault fault)) ∨
      plan.Overflows := by
  induction going with
  | complete late => cases faulty
  | aborted early => cases faulty
  | @failed round stop early goes failed =>
    left
    obtain rfl := Except.error.inj faulty
    cases goes with
    | failed runs =>
      obtain rfl := Except.error.inj failed
      exact ⟨_, List.mem_singleton_self _, runs.exists_fault⟩
    | unmet error runs => cases failed
    | completed runs => cases failed
  | overflow early goes succeeded turns => exact .inr (Plan.overflows_of_turns moving early turns)
  | next early goes succeeded onward further ih =>
    rcases ih faulty with ⟨round, member, called⟩ | overflows
    · exact .inl ⟨round, List.mem_cons_of_mem _ member, called⟩
    · exact .inr overflows

/-- The work has a fault if a module does, or if the events cannot be numbered. -/
theorem Working.exists_fault {life : Life} {fault : Fault}
    (working : Working simulation lanes life (.error (.fault fault)))
    (few : lanes.length ≤ UInt16.size) :
    (∃ call ∈ life.setUps ++ life.runs ++ life.finishes, call.result = .error (.fault fault)) ∨
      (simulation.plan lanes).Overflows := by
  cases working with
  | unprepared setUp =>
    obtain ⟨call, member, failed⟩ := setUp.exists_fault
    exact .inl ⟨call, by simp [member], failed⟩
  | stopped setUp loops stopped =>
    obtain ⟨place, within, ended⟩ := List.getElem_of_mem (LaneEnds.together_fault stopped)
    have inside : place < lanes.length := loops.length_ends ▸ within
    have its := List.getElem?_eq_getElem (loops.length_rounds.symm ▸ inside)
    have goes := loops.goes place _ _ _ (List.getElem?_eq_getElem inside) its
      (List.getElem?_eq_getElem within)
    have moving : 0 < (simulation.plan lanes).stride.toNat := by
      rw [Simulation.toNat_stride few]
      omega
    rcases goes.exists_fault moving ended with ⟨round, member, call, called, failed⟩ | overflows
    · refine .inl ⟨call, ?_, failed⟩
      have among := List.mem_flatMap.mpr ⟨_, List.mem_of_getElem? its,
        List.mem_flatMap.mpr ⟨round, member, called⟩⟩
      exact List.mem_append_left _ (List.mem_append_right _ among)
    · exact .inr overflows
  | finished setUp loops succeeded finish =>
    obtain ⟨call, member, failed⟩ := finish.exists_fault
    exact .inl ⟨call, by simp [member], failed⟩

/-! ## The lifecycle -/

namespace Lived

variable {life : Life} {result : Except Stop Summary}

theorem working (lived : Lived simulation lanes life result) : ∃ before ended,
    Working simulation lanes before ended ∧ life = { before with tearDowns := life.tearDowns } := by
  cases lived with
  | faulty working => exact ⟨_, _, working, by cases working <;> rfl⟩
  | tornDown working sane tornDown concludes => exact ⟨_, _, working, rfl⟩

/-- Without a fault, the stages and the tear-downs end as they did, the first failure first. -/
theorem sane (lived : Lived simulation lanes life result) (sane : Sane result) :
    life.tearDowns.map StageCall.station = stationsOf lanes ∧
      (∀ call ∈ life.tearDowns, call.stage = .tearDown) ∧
      Concludes (endOf life.stop?) result := by
  cases lived with
  | faulty working => exact absurd rfl (sane _)
  | @tornDown life ended torn tearDowns _ working unbroken tornDown concludes =>
    have both : Sane (Stop.both ended torn) := by
      rintro fault failed
      rw [failed] at concludes
      cases concludes
      exact sane fault rfl
    obtain ⟨all, rfl⟩ := tornDown.all_stations both.of_both.2
    refine ⟨all, tornDown.within, ?_⟩
    rw [working.ended_eq] at concludes both
    rw [both_eq both] at concludes
    simpa only [Life.stop?, Life.eventStop?, Option.or_assoc] using concludes

/-- A life without a failure has no fault. -/
theorem concluded (lived : Lived simulation lanes life result) (none : life.stop? = none) :
    Concludes (.ok ()) result := by
  simp only [Life.stop?, Option.or_eq_none_iff] at none
  obtain ⟨setUps, events, finishes, tearDowns⟩ := none
  cases lived with
  | faulty working =>
    have failed := endOf_eq_error.mp working.ended_eq.symm
    rw [setUps, events, finishes] at failed
    cases failed
  | @tornDown before ended torn calls _ working unbroken tornDown concludes =>
    have succeeded : ended = .ok () := by
      rw [working.ended_eq, endOf_eq_ok]
      simp only [Option.or_eq_none_iff]
      exact ⟨setUps, events, finishes⟩
    have sane : Sane torn := fun fault faulty => by
      obtain ⟨call, member, failed⟩ := tornDown.exists_fault faulty
      have passed := List.findSome?_eq_none_iff.mp tearDowns call member
      rw [StageCall.stop?, failed] at passed
      cases passed
    have torn : torn = .ok () := by
      rw [(tornDown.all_stations sane).2]
      exact congrArg endOf tearDowns
    rwa [succeeded, torn] at concludes

theorem exists_fault {fault : Fault}
    (lived : Lived simulation lanes life (.error (.fault fault)))
    (few : lanes.length ≤ UInt16.size) :
    (∃ call ∈ life.calls, call.result = .error (.fault fault)) ∨
      (simulation.plan lanes).Overflows := by
  generalize faulty : (.error (.fault fault) : Except Stop Summary) = result at lived
  cases lived with
  | faulty working =>
    cases faulty
    refine (working.exists_fault few).imp_left fun ⟨call, member, failed⟩ => ⟨call, ?_, failed⟩
    exact List.mem_append_left _ member
  | @tornDown before ended torn tearDowns _ working sane tornDown concludes =>
    subst faulty
    generalize last : Stop.both ended torn = both at concludes
    cases concludes
    have faulty : torn = .error (.fault fault) := by
      rcases ended with (error | other) | _
      · rcases torn with (_ | _) | _
        · cases last
        · exact last
        · cases last
      · exact absurd rfl (sane other)
      · exact last
    obtain ⟨call, member, failed⟩ := tornDown.exists_fault faulty
    exact .inl ⟨call, List.mem_append_right _ member, failed⟩

end Lived

namespace Simulation

end Simulation

namespace LifecycleExample

def fragile : Blueprint Unit where
  name := "Fragile"
  construct _ _ := return ({
    run := fun event => if event = 3 then Code.fail (.module "Fragile" .run "broke") else pure ()
    }, ())

/-- A module that fails when it is torn down. -/
def stuck : Blueprint Unit where
  name := "Stuck"
  construct _ _ := return ({
    run := fun _ => pure ()
    tearDown := Code.fail (.module "Stuck" .tearDown "does not let go") }, ())

def failing : Simulation Unit where
  config := { events := 5, workers := 2 }
  detectors := []
  blueprints := [fragile, stuck]

end LifecycleExample

end Beamline.Run
