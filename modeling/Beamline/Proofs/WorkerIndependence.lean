import Beamline.Proofs.CourseRun

/-!
Modules without a state cannot tell in how many lanes they run, as long as nothing reaches them before
the first event. What does reach them waits in every lane for its first event, and which events are
the first ones depends on the number of lanes.
-/

namespace Beamline.Run

open Bus

section Plans

variable {plan other : Plan} {members : List Member}

theorem Cell.map_emptied_of_empty {cells : List Cell}
    (empty : ∀ cell ∈ cells, cell.contents = []) : cells.map Cell.emptied = cells := by
  refine (List.map_congr_left fun cell member => ?_).trans (List.map_id cells)
  rw [Cell.emptied, ← empty cell member]
  rfl

/-- An event finds the same cells in both distributions if it is the first one of a lane in both or in
none, or if there is nothing to be found. -/
theorem Plan.opening_eq {prepared : List Cell} {event : UInt64}
    (same : (∀ cell ∈ prepared, cell.contents = []) ∨
      (event < plan.stride ↔ event < other.stride)) :
    plan.opening prepared event = other.opening prepared event := by
  unfold opening
  rcases same with empty | first
  · rw [Cell.map_emptied_of_empty empty, ite_self, ite_self]
  · rw [if_congr first rfl rfl]

/-- Whether a run succeeds does not depend on the number of lanes if setting up leaves nothing. -/
theorem Plan.Goes.of_empty (goes : plan.Goes members)
    (empty : ∀ cell ∈ preparedOf members, cell.contents = []) (moving : 0 < plan.stride.toNat)
    (total : other.total = plan.total) (seed : other.seed = plan.seed) : other.Goes members where
  setUp := goes.setUp
  events event early := by
    have succeeds := goes.events event (total ▸ early)
    unfold Plan.Succeeds at succeeds ⊢
    rwa [seed, Plan.opening_eq (.inl empty)]
  finish place within := by
    have first := goes.finish 0 moving
    rw [Cell.map_emptied_of_empty empty, ite_self] at first ⊢
    exact first

end Plans

/-- What modules without a state do in an event does not depend on the number of lanes, unless they
received something before the events begin and the event is the first one of a lane for one of the
numbers only. Nor does it depend on the number of lanes whether their run succeeds, if they received
nothing before. -/
theorem Simulation.ofParts_independent_of_workers (config : Config) (detectors : List Detector)
    (parts : List Part) (workers others : UInt64)
    (allowed : ∀ count ∈ [workers, others], 0 < count.toNat ∧
      count.toNat ≤ ConfigError.maxWorkers ∧ config.events.toNat + count.toNat ≤ UInt64.size)
    (turns again : List Nat) {world elsewhere : World} (new : world.bus.New)
    (blank : elsewhere.bus.New) :
    let first := Simulation.ofParts { config with workers } detectors parts
    let second := Simulation.ofParts { config with workers := others } detectors parts
    (first.Quiet world →
      ((first.run turns world).Succeeds ↔ (second.run again elsewhere).Succeeds)) ∧
    ((first.run turns world).Succeeds → (second.run again elsewhere).Succeeds →
      ∀ event, first.Quiet world ∨ (event < workers ↔ event < others) →
        (first.recorded turns world).2.sights event =
          (second.recorded again elsewhere).2.sights event) := by
  intro first second
  let members := membersOf parts detectors
  have working : 0 < workers.toNat ∧ _ := allowed workers (by simp)
  have operating : 0 < others.toNat ∧ _ := allowed others (by simp)
  have goes := @Simulation.succeeds_iff { config with workers } detectors parts world working new
    turns
  have again_goes := @Simulation.succeeds_iff { config with workers := others } detectors parts
    elsewhere operating blank again
  have quiet := @Simulation.quiet_iff { config with workers } detectors parts world working new
  change first.Quiet world ↔ _ at quiet
  change (first.run turns world).Succeeds ↔ _ at goes
  change (second.run again elsewhere).Succeeds ↔ _ at again_goes
  rw [quiet, goes, again_goes]
  refine ⟨fun empty => ⟨fun runs => ?_, fun runs => ?_⟩, fun runs repeats event same => ?_⟩
  · exact runs.of_empty (empty runs.setUp) working.1 rfl rfl
  · exact runs.of_empty (empty runs.setUp) operating.1 rfl rfl
  · have sights := @Simulation.sights_ofParts { config with workers } detectors parts world working
      new turns runs event
    have again_sights := @Simulation.sights_ofParts { config with workers := others } detectors parts
      elsewhere operating blank again repeats event
    refine sights.trans (Eq.trans ?_ again_sights.symm)
    have opening := @Plan.opening_eq (Config.plan { config with workers })
      (Config.plan { config with workers := others }) (preparedOf members) event
      (same.imp_left fun empty => empty runs.setUp)
    unfold Plan.sightsOf
    rw [opening]
    rfl

namespace WorkerIndependenceExample

def hit : Message where
  payload := .pixelHits [default]

/-- A module that dispatches a hit when it is set up. -/
def announcer : Part where
  name := "Announcer"
  setUp _ := .call (.dispatch hit none) fun _ => .done (.ok ())
  run _ _ := .done (.ok ())

/-- A module that dispatches a hit in every event. -/
def speaker : Part where
  name := "Speaker"
  run _ _ := .call (.dispatch hit none) fun _ => .done (.ok ())

/-- A module that looks for a hit in every event, and may need one. -/
def listener (required : Bool) : Part where
  name := "Listener"
  wants _ := [{
    intake := .slot .single .pixelHit
    flags := { required }
    suits := by cases required <;> rfl }]
  run _ _ := .call (.received 0) fun _ => .done (.ok ())

/-- A chain of one module and a listener, with two events. -/
def simulation (first : Part) (required : Bool) (workers : UInt64) : Simulation Unit :=
  .ofParts { events := 2, workers } [] [first, listener required]

theorem allowed : ∀ count ∈ ([1, 2] : List UInt64), 0 < count.toNat ∧
    count.toNat ≤ ConfigError.maxWorkers ∧ (2 : UInt64).toNat + count.toNat ≤ UInt64.size :=
  List.forall_mem_cons.mpr ⟨by decide, List.forall_mem_singleton.mpr (by decide)⟩

/-- Whether the chain succeeds in one lane or in two. -/
theorem succeeds_iff {first : Part} {required : Bool} {count : UInt64}
    (member : count ∈ ([1, 2] : List UInt64)) :
    ((simulation first required count).run [] {}).Succeeds ↔
      (Config.plan { events := 2, workers := count }).Goes
        (membersOf [first, listener required] []) :=
  @Simulation.succeeds_iff { events := 2, workers := count } [] [first, listener required] {}
    (allowed count member) .default []

end WorkerIndependenceExample

open WorkerIndependenceExample in
/-- A hit in every event, in one lane and in two. -/
theorem independent_of_two_workers :
    let first := simulation speaker true 1
    let second := simulation speaker true 2
    (∀ count ∈ ([1, 2] : List UInt64), 0 < count.toNat ∧ count.toNat ≤ ConfigError.maxWorkers ∧
        (2 : UInt64).toNat + count.toNat ≤ UInt64.size) ∧
      ({} : Bus).New ∧ first.Quiet {} ∧
      (first.run [] {}).Succeeds ∧ (second.run [1, 0] {}).Succeeds ∧
      ∀ event, (first.recorded [] {}).2.sights event = (second.recorded [1, 0] {}).2.sights event := by
  intro first second
  have quiet : first.Quiet {} :=
    (@Simulation.quiet_iff { events := 2, workers := 1 } [] [speaker, listener true] {}
      (allowed 1 (by simp)) .default).mpr fun _ => by decide
  have success : (first.run [] {}).Succeeds := (succeeds_iff (by simp)).mpr (by decide)
  obtain ⟨alike, same⟩ := @Simulation.ofParts_independent_of_workers { events := 2 } []
    [speaker, listener true] 1 2 allowed [] [1, 0] {} {} .default .default
  have repeats := (alike quiet).mp success
  exact ⟨allowed, .default, quiet, success, repeats,
    fun event => same success repeats event (.inl quiet)⟩

open WorkerIndependenceExample in
/-- A hit that is dispatched before the first event is there in the first event of every lane: a chain
that needs one in both of its events succeeds in two lanes, but not in one; and a chain that does not
need it finds it in the second event in two lanes, but not in one. -/
theorem announcement_depends_on_workers :
    (¬((simulation announcer true 1).run [] {}).Succeeds ∧
      ((simulation announcer true 2).run [] {}).Succeeds) ∧
    ((simulation announcer false 1).run [] {}).Succeeds ∧
    ((simulation announcer false 2).run [] {}).Succeeds ∧
    ((simulation announcer false 1).recorded [] {}).2.sights 1 = [.received "Listener" []] ∧
    ((simulation announcer false 2).recorded [] {}).2.sights 1 = [.received "Listener" [hit]] := by
  have one : (1 : UInt64) ∈ ([1, 2] : List UInt64) := by simp
  have two : (2 : UInt64) ∈ ([1, 2] : List UInt64) := by simp
  have alone : (Config.plan { events := 2, workers := 1 }).Goes
      (membersOf [announcer, listener false] []) := by decide
  have apart : (Config.plan { events := 2, workers := 2 }).Goes
      (membersOf [announcer, listener false] []) := by decide
  refine ⟨⟨(succeeds_iff one).not.mpr (by decide), (succeeds_iff two).mpr (by decide)⟩,
    (succeeds_iff one).mpr alone, (succeeds_iff two).mpr apart, ?_, ?_⟩
  · exact @Simulation.sights_ofParts { events := 2, workers := 1 } [] _ {} (allowed 1 one) .default []
      alone 1
  · exact @Simulation.sights_ofParts { events := 2, workers := 2 } [] _ {} (allowed 2 two) .default []
      apart 1

end Beamline.Run
