import Beamline.Proofs.AcceptedConfig
import Beamline.Proofs.EventPartition
import Mathlib.Data.List.Sort

/-!
Where the numbers of events end. A lane numbers a further event after each one that it completes,
after its last one as well. A configuration is accepted with any number of events, so the further
number may be no word: then the run fails although none of its events does.
-/

namespace Beamline.Run

variable {σ : Type}

/-! ## The lanes for which the words end -/

/-- The numbers of the events of a lane, in order. -/
def numbersOf (total : UInt64) (lanes place : Nat) : List Nat :=
  (List.range total.toNat).filter fun number => number % lanes = place

theorem mem_numbersOf {total : UInt64} {lanes place number : Nat} :
    number ∈ numbersOf total lanes place ↔ number < total.toNat ∧ number % lanes = place := by
  rw [numbersOf, List.mem_filter, List.mem_range, decide_eq_true_iff]

namespace Plan

variable {plan : Plan} {place : Nat}

private theorem map_toNat_events (few : plan.stride.toNat ≤ ConfigError.maxWorkers)
    (within : place < plan.stride.toNat) :
    (plan.events (laneOf place)).map UInt64.toNat =
      numbersOf plan.total plan.stride.toNat place := by
  have increasing : ((plan.events (laneOf place)).map UInt64.toNat).Pairwise (· < ·) :=
    List.pairwise_map.mpr ((eventsFrom_increasing (Nat.zero_lt_of_lt within) _).imp
      UInt64.lt_iff_toNat_lt.mp)
  have ordered : (numbersOf plan.total plan.stride.toNat place).Pairwise (· < ·) :=
    List.pairwise_lt_range.filter _
  refine increasing.eq_of_mem_iff ordered fun number => ?_
  rw [mem_numbersOf, List.mem_map]
  constructor
  · rintro ⟨event, among, rfl⟩
    obtain ⟨early, remainder⟩ := (mem_events few within).mp among
    exact ⟨UInt64.lt_iff_toNat_lt.mp early, remainder⟩
  · rintro ⟨early, remainder⟩
    have same := toNat_ofNat_of_lt early
    refine ⟨UInt64.ofNat number, (mem_events few within).mpr ⟨?_, ?_⟩, same⟩
    · rwa [UInt64.lt_iff_toNat_lt, same]
    · rw [same, remainder]

/-- The words end for some lane, the one of the last event among them, if they do not count all
events and lanes. -/
theorem exists_spills_iff (moving : 0 < plan.stride.toNat) :
    (∃ place < plan.stride.toNat, Spills plan.total plan.stride.toNat place) ↔
      plan.Overflows := by
  constructor
  · rintro ⟨place, within, spills⟩
    rw [← toNat_ofNat_of_lt within] at spills
    exact overflows_of_spillsFrom moving spills
  · intro overflows
    have small := plan.stride.toNat_lt_size
    unfold Overflows at overflows
    -- The lane of the last event, which has the greatest number after its events.
    refine ⟨_, Nat.mod_lt (plan.total.toNat - 1) moving, ?_, fun word beyond same => ?_⟩
    · have least := Nat.mod_le (plan.total.toNat - 1) plan.stride.toNat
      omega
    · rw [UInt64.le_iff_toNat_le] at beyond
      rw [Nat.mod_mod] at same
      have far := add_le_of_mod_eq (by omega) same
      have last := word.toNat_lt_size
      omega

end Plan

/-! ## How far lanes come -/

/-- How far a lane of a run comes with its events, told by the end of its event loop and by what
happened in it. -/
structure Reach (total : UInt64) (lanes place : Nat) (ended : Except Stop Nat)
    (chronicle : Chronicle σ) : Prop where
  /-- It takes its events in their order. -/
  inOrder : (chronicle.results.map fun processed => processed.1.toNat) <+:
    numbersOf total lanes place
  /-- It processes all of them unless one fails or the flag is found raised. -/
  through : chronicle.Unstopped →
    (chronicle.results.map fun processed => processed.1.toNat) = numbersOf total lanes place
  /-- It ends right after them if there is a word for the number after the last one. -/
  completes : chronicle.Unstopped → ¬ Spills total lanes place →
    ended = .ok (numbersOf total lanes place).length
  /-- It fails right after them otherwise. -/
  spills : chronicle.Unstopped → Spills total lanes place → ended = .error (.fault .addition)
  overflows_iff : chronicle.Overflows lanes ↔ chronicle.Unstopped ∧ Spills total lanes place
  /-- The words end after no other event than the last one. -/
  last : ∀ event, (event, .ok ()) ∈ chronicle.results → UInt64.size ≤ event.toNat + lanes →
    ∀ number ∈ numbersOf total lanes place, number ≤ event.toNat

theorem Pursued.reach {plan : Plan} {place : Nat} {ended : Except Stop Nat}
    {chronicle : Chronicle σ} {signal : Signal}
    (pursued : Pursued plan (laneOf place).index.toUInt64 0 ended chronicle signal)
    (few : plan.stride.toNat ≤ ConfigError.maxWorkers) (within : place < plan.stride.toNat) :
    Reach plan.total plan.stride.toNat place ended chronicle := by
  have first : (laneOf place).index.toUInt64.toNat = place := toNat_laneOf (by omega)
  have numbers : (chronicle.results.map fun processed => processed.1.toNat) =
      (chronicle.results.map Prod.fst).map UInt64.toNat := by
    rw [List.map_map]
    rfl
  have events := Plan.map_toNat_events few within
  have length := congrArg List.length events
  rw [List.length_map] at length
  obtain ⟨inOrder, through, completes, spills, overflows_iff, _, _⟩ := pursued
  rw [Plan.SpillsFrom, first] at completes spills overflows_iff
  constructor
  · rw [numbers, ← events]
    exact inOrder.map _
  · intro unstopped
    rw [numbers, ← events]
    exact congrArg (List.map UInt64.toNat) (through unstopped)
  · intro unstopped stays
    rw [completes unstopped stays, ← length, Nat.zero_add]
    rfl
  · exact spills
  · exact overflows_iff
  · intro event member far number among
    obtain ⟨early, remainder⟩ := mem_numbersOf.mp among
    have mine := inOrder.subset (List.mem_map_of_mem (f := Prod.fst) member)
    have same := ((Plan.mem_events few within).mp mine).2
    by_contra later
    have further := add_le_of_mod_eq (Nat.not_le.mp later) (remainder.trans same.symm)
    have small := plan.total.toNat_lt_size
    omega

namespace Reach

variable {total : UInt64} {lanes place : Nat} {ended : Except Stop Nat} {chronicle : Chronicle σ}

/-- A lane that nothing stops completes its events or comes to the end of the words. -/
theorem ended_cases (reach : Reach total lanes place ended chronicle)
    (unstopped : chronicle.Unstopped) :
    (∃ processed, ended = .ok processed) ∨ ended = .error (.fault .addition) := by
  by_cases spills : Spills total lanes place
  · exact .inr (reach.spills unstopped spills)
  · exact .inl ⟨_, reach.completes unstopped spills⟩

theorem ended_iff (reach : Reach total lanes place ended chronicle)
    (unstopped : chronicle.Unstopped) :
    ended = .error (.fault .addition) ↔ Spills total lanes place := by
  refine ⟨fun fault => ?_, reach.spills unstopped⟩
  by_contra stays
  cases fault.symm.trans (reach.completes unstopped stays)

theorem mem_results (reach : Reach total lanes place ended chronicle)
    (unstopped : chronicle.Unstopped) {event : UInt64} (early : event < total)
    (remainder : event.toNat % lanes = place) : (event, .ok ()) ∈ chronicle.results := by
  have among := mem_numbersOf.mpr ⟨UInt64.lt_iff_toNat_lt.mp early, remainder⟩
  rw [← reach.through unstopped, List.mem_map] at among
  obtain ⟨⟨other, result⟩, member, same⟩ := among
  obtain rfl := UInt64.toNat_inj.mp same
  obtain rfl : result = .ok () := unstopped.fine _ member
  exact member

end Reach

/-! ## How far they come together -/

/-- How far the lanes of a run come with its events, told by the ends of their event loops, by what
happened in these, and by the end of them all. -/
structure Advance (total : UInt64) (lanes : Nat) (ends : List (Except Stop Nat))
    (chronicles : List (Chronicle σ)) (whole : Except Stop Unit) : Prop where
  count : ends.length = lanes ∧ chronicles.length = lanes
  lane : ∀ (place : Nat) (ended : Except Stop Nat) (chronicle : Chronicle σ),
    ends[place]? = some ended → chronicles[place]? = some chronicle →
      Reach total lanes place ended chronicle
  /-- The words end for no lane as long as they count all events and lanes. -/
  fits : total.toNat + lanes ≤ UInt64.size →
    ∀ chronicle ∈ chronicles, ¬ chronicle.Overflows lanes
  /-- Otherwise they end for some lane unless an event fails. -/
  overflows : UInt64.size < total.toNat + lanes → (∀ chronicle ∈ chronicles, chronicle.Fine) →
    ∃ chronicle ∈ chronicles, chronicle.Overflows lanes
  /-- That makes the run fail, and nothing else does where no event fails. -/
  whole : (∀ chronicle ∈ chronicles, chronicle.Fine) → whole =
    if UInt64.size < total.toNat + lanes then .error (.fault .addition) else .ok ()

/-- The event loops of all lanes, each of which came as far as a lane can. -/
structure Advanced (total : UInt64) (lanes : Nat) (loops : List (Ended σ)) : Prop where
  count : loops.length = lanes
  reach : ∀ place loop, loops[place]? = some loop → Reach total lanes place loop.1.1 loop.2
  spills_iff : (∃ place < lanes, Spills total lanes place) ↔ UInt64.size < total.toNat + lanes
  unstopped : (∀ loop ∈ loops, loop.2.Fine) → ∀ loop ∈ loops, loop.2.Unstopped

namespace Advanced

variable {total : UInt64} {lanes : Nat} {loops : List (Ended σ)}

theorem reach_of_mem (advanced : Advanced total lanes loops) {loop : Ended σ}
    (member : loop ∈ loops) : ∃ place < lanes, Reach total lanes place loop.1.1 loop.2 := by
  obtain ⟨place, found⟩ := List.mem_iff_getElem?.mp member
  have within := (List.getElem?_eq_some_iff.mp found).1
  exact ⟨place, advanced.count ▸ within, advanced.reach place loop found⟩

theorem exists_reach (advanced : Advanced total lanes loops) {place : Nat}
    (within : place < lanes) : ∃ loop ∈ loops, Reach total lanes place loop.1.1 loop.2 := by
  have found := List.getElem?_eq_getElem (advanced.count.symm ▸ within)
  exact ⟨_, List.mem_of_getElem? found, advanced.reach place _ found⟩

private theorem not_overflows (advanced : Advanced total lanes loops)
    (fits : total.toNat + lanes ≤ UInt64.size) {loop : Ended σ} (member : loop ∈ loops) :
    ¬ loop.2.Overflows lanes := by
  intro overflows
  obtain ⟨place, within, reach⟩ := advanced.reach_of_mem member
  have spills := (reach.overflows_iff.mp overflows).2
  exact Nat.not_lt.mpr fits (advanced.spills_iff.mp ⟨place, within, spills⟩)

private theorem exists_overflows (advanced : Advanced total lanes loops)
    (beyond : UInt64.size < total.toNat + lanes) (fine : ∀ loop ∈ loops, loop.2.Fine) :
    ∃ loop ∈ loops, loop.2.Overflows lanes := by
  obtain ⟨place, within, spills⟩ := advanced.spills_iff.mpr beyond
  obtain ⟨loop, member, reach⟩ := advanced.exists_reach within
  have unstopped := advanced.unstopped fine loop member
  exact ⟨loop, member, reach.overflows_iff.mpr ⟨unstopped, spills⟩⟩

theorem together_eq (advanced : Advanced total lanes loops)
    (fine : ∀ loop ∈ loops, loop.2.Fine) : Concerted.together loops =
      if UInt64.size < total.toNat + lanes then .error (.fault .addition) else .ok () := by
  have unstopped := advanced.unstopped fine
  have each : ∀ ended ∈ loops.map (fun loop => loop.1.1),
      (∃ processed, ended = .ok processed) ∨ ended = .error (.fault .addition) := by
    refine List.forall_mem_map.mpr fun loop member => ?_
    obtain ⟨place, _, reach⟩ := advanced.reach_of_mem member
    exact reach.ended_cases (unstopped loop member)
  have spilling : .error (.fault .addition) ∈ loops.map (fun loop => loop.1.1) ↔
      UInt64.size < total.toNat + lanes := by
    rw [← advanced.spills_iff, List.mem_map]
    constructor
    · rintro ⟨loop, member, ended⟩
      obtain ⟨place, within, reach⟩ := advanced.reach_of_mem member
      exact ⟨place, within, (reach.ended_iff (unstopped loop member)).mp ended⟩
    · rintro ⟨place, within, spills⟩
      obtain ⟨loop, member, reach⟩ := advanced.exists_reach within
      exact ⟨loop, member, (reach.ended_iff (unstopped loop member)).mpr spills⟩
  split
  · rename_i beyond
    exact LaneEnds.together_of_fault each (spilling.mpr beyond)
  · rename_i within
    refine LaneEnds.together_of_ok fun ended member => ?_
    rcases each ended member with completed | same
    · exact completed
    · exact absurd (spilling.mp (same ▸ member)) within

private theorem advance (advanced : Advanced total lanes loops) : Advance total lanes
    (loops.map fun loop => loop.1.1) (loops.map Prod.snd) (Concerted.together loops) where
  count := ⟨(List.length_map _).trans advanced.count, (List.length_map _).trans advanced.count⟩
  lane place ended chronicle last told := by
    rw [List.getElem?_map, Option.map_eq_some_iff] at last told
    obtain ⟨loop, found, rfl⟩ := last
    obtain ⟨same, present, rfl⟩ := told
    obtain rfl := Option.some.inj (found.symm.trans present)
    exact advanced.reach place loop found
  fits fits := List.forall_mem_map.mpr fun _ => advanced.not_overflows fits
  overflows beyond fine := by
    obtain ⟨loop, member, overflows⟩ :=
      advanced.exists_overflows beyond (List.forall_mem_map.mp fine)
    exact ⟨loop.2, List.mem_map_of_mem member, overflows⟩
  whole fine := advanced.together_eq (List.forall_mem_map.mp fine)

end Advanced

/-! ## By every schedule -/

namespace Simulation

variable {simulation : Simulation σ} {lanes : List (Lane σ)}

theorem advanced_ended (numbered : lanes.map Lane.id = (List.range lanes.length).map laneOf)
    (some : 0 < lanes.length) (few : lanes.length ≤ ConfigError.maxWorkers) (turns : List Nat)
    (world : World) :
    Advanced simulation.config.events lanes.length (simulation.ended turns lanes world) := by
  have small : lanes.length ≤ UInt16.size := Nat.le_succ_of_le few
  have stride : (simulation.plan lanes).stride.toNat = lanes.length := toNat_stride small
  obtain ⟨signals, _, _, pursued⟩ :=
    @pursued_ended _ simulation lanes numbered small some turns world
  constructor
  · exact length_ended turns world
  · intro place loop found
    have within : place < lanes.length :=
      length_ended turns world ▸ (List.getElem?_eq_some_iff.mp found).1
    rw [← stride]
    exact (pursued place loop found).reach (stride ▸ few) (stride ▸ within)
  · rw [← stride]
    exact Plan.exists_spills_iff (stride ▸ some)
  · intro fine loop member
    have unstopped := unstopped_of_fine numbered small some turns world
      (forall_chronicles.mpr fine)
    exact forall_chronicles.mp unstopped loop member

/-- By every schedule, the lanes of an accepted configuration process their events up to the last
one unless an event fails. The number after the last event of a lane is a word for every lane
exactly if the words count all events and lanes together; otherwise the run fails where it has no
other reason to. -/
theorem processEvents_advance (simulation : Simulation σ) {lanes ready : List (Lane σ)}
    {empty start world : World} (valid : simulation.config.validate = .ok ())
    (built : simulation.buildLanes simulation.config.workers.toNat 0 empty = (.ok lanes, start))
    (begun : (stageInTurn .setUp Behaviour.setUp lanes).finish start = ((.ok (), ready), world))
    (turns : List Nat) :
    Advance simulation.config.events simulation.config.workers.toNat
      ((runScheduled LaneOperation.perform (simulation.loops ready) turns
        { world with aborting := false }).1.map Prod.fst)
      (simulation.chronicles turns ready world)
      (simulation.processEvents turns ready world).1 := by
  obtain ⟨length, numbered, _⟩ := numbered_of_built built begun
  obtain ⟨working, few, _⟩ := validate_eq_ok.mp valid
  rw [← length] at working few ⊢
  rw [processEvents_fst, loops_of_telling, List.map_map]
  exact (advanced_ended numbered working few turns world).advance

end Simulation

theorem steady_bare (own : Nat) : Steady own fun lane : Lane σ => lane.modules = [] := by
  rintro ⟨id, modules⟩ rfl event seed
  have ran : (callInTurn .run (fun behaviour => behaviour.run event) ([] : List (Module σ))
      (some { event, stream := .ofEvent seed event })).Always own
        fun ended => ended.1 = .ok () ∧ ended.2.1 = [] :=
    ⟨rfl, rfl⟩
  have unmet : (firstUnmet ([] : List (Module σ))).Always own fun found => found = none := rfl
  refine (Lane.always_runEvent ran unmet).mono ?_
  rintro ended _ ⟨ok, same⟩
  exact ⟨ok, congrArg Lane.modules same⟩

namespace EventOverflowExample

/-- As many events as a word can say, for two lanes. -/
def config : Config := { events := 18446744073709551615, workers := 2 }

def simulation : Simulation Unit where
  config := config
  detectors := config.detectors.toOption.getD []

def lanes : List (Lane Unit) :=
  [{ id := laneOf 0, modules := [] }, { id := laneOf 1, modules := [] }]

theorem valid : simulation.config.validate = .ok () := rfl

theorem assembled : Simulation.ofConfig config = .ok simulation := rfl

theorem built : simulation.buildLanes simulation.config.workers.toNat 0 {} = (.ok lanes, {}) := rfl

theorem begun : (stageInTurn .setUp Behaviour.setUp lanes).finish {} = ((.ok (), lanes), {}) := rfl

theorem fine (turns : List Nat) :
    ∀ chronicle ∈ simulation.chronicles turns lanes {}, chronicle.Fine := by
  refine Steady.fine_chronicles steady_bare (fun lane listed => ?_) turns {}
  rcases List.mem_pair.mp listed with rfl | rfl <;> rfl

end EventOverflowExample

open EventOverflowExample in
/-- Two lanes of which the first one has the last event. -/
theorem advance_of_bare : simulation.config.validate = .ok () ∧
    Advance 18446744073709551615 2
      ((runScheduled LaneOperation.perform (simulation.loops lanes) [1, 0, 1]
        { ({} : World) with aborting := false }).1.map Prod.fst)
      (simulation.chronicles [1, 0, 1] lanes {})
      (simulation.processEvents [1, 0, 1] lanes {}).1 :=
  ⟨valid, simulation.processEvents_advance valid built begun [1, 0, 1]⟩

open EventOverflowExample in
/-- The configuration is accepted, but the first lane completes an event to which the number of
lanes cannot be added, and the run fails. -/
theorem lastEvent_overflows : config.validate = .ok () ∧
    Simulation.ofConfig config = .ok simulation ∧
    simulation.buildLanes config.workers.toNat 0 {} = (.ok lanes, {}) ∧
    (stageInTurn .setUp Behaviour.setUp lanes).finish {} = ((.ok (), lanes), {}) ∧
    (∃ chronicle, (simulation.chronicles [] lanes {})[0]? = some chronicle ∧
      (18446744073709551614, .ok ()) ∈ chronicle.results ∧
      UInt64.size ≤ (18446744073709551614 : UInt64).toNat + lanes.length) ∧
    (simulation.processEvents [] lanes {}).1 = .error (.fault .addition) := by
  have advanced : Advanced 18446744073709551615 2 (simulation.ended [] lanes {}) :=
    @Simulation.advanced_ended _ simulation lanes rfl (by decide) (by decide) [] {}
  have completed : ∀ loop ∈ simulation.ended [] lanes {}, loop.2.Fine :=
    Simulation.forall_chronicles.mp (fine [])
  have found := List.getElem?_eq_getElem (l := simulation.ended [] lanes {}) (i := 0)
    (advanced.count.symm ▸ by decide)
  have reach := advanced.reach 0 _ found
  have unstopped := advanced.unstopped completed _ (List.mem_of_getElem? found)
  refine ⟨valid, assembled, built, begun,
    ⟨_, Simulation.getElem?_chronicles found, ?_, by decide⟩, ?_⟩
  · exact reach.mem_results unstopped (by decide) (by decide)
  · rw [Simulation.processEvents_fst, advanced.together_eq completed]
    decide

end Beamline.Run
