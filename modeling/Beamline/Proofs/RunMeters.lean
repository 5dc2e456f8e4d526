import Beamline.Proofs.LifeMeters

namespace Beamline.Run

open Bus Telemetry

variable {σ : Type} {simulation : Simulation σ} {lanes : List (Lane σ)}

/-! ## Built lanes -/

private theorem Blueprint.build_own {blueprint : Blueprint σ} {surroundings : Surroundings}
    {detector : Option Detector} {world later : World} {module : Module σ}
    (built : blueprint.build surroundings detector world = (.ok module, later)) :
    module.bindings.Own := by
  rcases named : world.newIdentity blueprint.name detector surroundings.lane blueprint.input
    blueprint.output with ⟨identity, begun⟩
  obtain ⟨_, ⟨_, own⟩, _⟩ := (adds_within (blueprint.construct surroundings detector ())
    { bindings := { identity } }).finish begun
  unfold Blueprint.build at built
  simp only [named] at built
  generalize Process.finish _ begun = ended at built own
  obtain ⟨⟨⟨stop | made, _⟩, scope⟩, last⟩ := ended
  · cases built
  · obtain ⟨same, _⟩ := Prod.mk.inj built
    rw [← Except.ok.inj same]
    exact own fun handle member => absurd member List.not_mem_nil

private theorem buildModules_own {surroundings : Surroundings}
    {instances : List (Blueprint σ × Option Detector)} {world later : World}
    {modules : List (Module σ)}
    (built : buildModules surroundings instances world = (.ok modules, later)) :
    ∀ module ∈ modules, module.bindings.Own := by
  induction instances generalizing world modules with
  | nil =>
    obtain rfl := Except.ok.inj (Prod.mk.inj built).1
    exact List.forall_mem_nil _
  | cons first rest ih =>
    obtain ⟨blueprint, detector⟩ := first
    unfold buildModules at built
    rcases made : blueprint.build surroundings detector world with ⟨stop | module, middle⟩
    · simp only [made] at built
      cases built
    · rcases more : buildModules surroundings rest middle with ⟨stop | others, last⟩
      · simp only [made, more] at built
        cases built
      · simp only [made, more] at built
        obtain ⟨same, rfl⟩ := Prod.mk.inj built
        rw [← Except.ok.inj same]
        exact List.forall_mem_cons.mpr ⟨Blueprint.build_own made, ih more⟩

private theorem Simulation.buildLanes_own {count number : Nat} {world later : World}
    (built : simulation.buildLanes count number world = (.ok lanes, later)) :
    ∀ lane ∈ lanes, lane.Own := by
  induction count generalizing number world lanes with
  | zero =>
    obtain rfl := Except.ok.inj (Prod.mk.inj built).1
    exact List.forall_mem_nil _
  | succ count ih =>
    obtain ⟨_, _, modules, others, middle, rfl, made, more⟩ := buildLanes_succ built
    exact List.forall_mem_cons.mpr ⟨buildModules_own made, ih more⟩

/-! ## What a run adds -/

/-- What the events of lanes add to the counts. -/
def eventMeters (rounds : List (List Round)) : List Meter :=
  (List.range rounds.length).flatMap fun place =>
    ((rounds[place]?).getD []).flatMap (Round.meters (laneOf place))

/-- What the life of the modules adds to the counts. -/
def Life.meters (life : Life) : List Meter :=
  (life.setUps.filterMap StageCall.failure?).map .failed ++ eventMeters life.rounds ++
    (life.finishes.filterMap StageCall.failure?).map .failed ++
    (life.tearDowns.filterMap StageCall.failure?).map .failed

namespace Simulation

private theorem telling_grown {ready : List (Lane σ)} (own : ∀ lane ∈ ready, lane.Own)
    (numbered : ready.map Lane.id = (List.range ready.length).map laneOf) (turns : List Nat)
    (world : World) :
    let ran := runScheduled LaneOperation.perform (simulation.telling ready) turns world
    let rounds := ran.1.map fun ended => ended.2.rounds
    Grown world.metrics (eventMeters rounds) ran.2.metrics ∧
      (∀ its ∈ rounds, ∀ round ∈ its, round.Charged) ∧
      ∀ lane ∈ ran.1.map fun ended => ended.1.2, lane.Own := by
  intro ran rounds
  have count : (simulation.telling ready).length = ready.length := List.length_map _
  have length : ran.1.length = ready.length := (runScheduled_length _ _ _ _).trans count
  obtain ⟨added, each, grown⟩ := @runScheduled_adds _ (simulation.telling ready)
    (fun place ended more => (more = ended.2.rounds.flatMap (Round.meters (laneOf place)) ∧
      ∀ round ∈ ended.2.rounds, round.Charged) ∧ ended.1.2.Own)
    (fun place loop found => by
      rw [telling, List.getElem?_map, Option.map_eq_some_iff] at found
      obtain ⟨lane, listed, rfl⟩ := found
      refine (lane.adds_tellEvents _ (own lane (List.mem_of_getElem? listed)) _ 0 []).mono
        fun ended more told => ?_
      obtain ⟨⟨rest, same, rfl, charged⟩, owned⟩ := told
      change ended.2.rounds = rest at same
      rw [same, ← id_of_numbered numbered listed]
      exact ⟨⟨rfl, charged⟩, owned⟩) turns world
  refine ⟨?_, fun its among => ?_, fun lane among => ?_⟩
  · have same : eventMeters rounds = (List.range ready.length).flatMap added := by
      rw [eventMeters, List.length_map, length]
      refine List.flatMap_congr fun place listed => ?_
      have within := List.mem_range.mp listed
      have found := List.getElem?_eq_getElem (length ▸ within)
      rw [List.getElem?_map, found, (each place _ found).1.1]
      rfl
    rw [same, ← count]
    exact grown
  · obtain ⟨ended, member, rfl⟩ := List.mem_map.mp among
    obtain ⟨place, found⟩ := List.mem_iff_getElem?.mp member
    exact (each place ended found).1.2
  · obtain ⟨ended, member, rfl⟩ := List.mem_map.mp among
    obtain ⟨place, found⟩ := List.mem_iff_getElem?.mp member
    exact (each place ended found).2

/-- The stages of a run up to the tear-downs add to the counts what they tell. -/
theorem tellWork_grown (own : ∀ lane ∈ lanes, lane.Own)
    (numbered : lanes.map Lane.id = (List.range lanes.length).map laneOf) (turns : List Nat)
    (world : World) :
    let worked := simulation.tellWork turns lanes world
    Grown world.metrics worked.2.meters worked.1.2.2.metrics ∧ worked.2.tearDowns = [] ∧
      ∀ its ∈ worked.2.rounds, ∀ round ∈ its, round.Charged := by
  obtain ⟨_, ⟨rfl, owned⟩, grown⟩ := (adds_tellStage .setUp Behaviour.setUp lanes).finish world
  have shapes := ((yields_tellStage .setUp Behaviour.setUp lanes).finish world).2
  unfold tellWork
  generalize (tellStage .setUp Behaviour.setUp lanes).finish world = prepared at *
  obtain ⟨⟨⟨stop | _, ready⟩, setUps⟩, second⟩ := prepared
  · refine ⟨?_, rfl, List.forall_mem_nil _⟩
    simpa [Life.meters, eventMeters] using grown
  have count : ready.length = lanes.length := by simpa using congrArg List.length shapes
  have ids : ready.map Lane.id = (List.range ready.length).map laneOf := by
    rw [count, ← numbered]
    simpa [Function.comp_def, Lane.shape] using congrArg (List.map Prod.fst) shapes
  obtain ⟨added, charged, _⟩ := @telling_grown _ simulation ready (owned own) ids turns
    { second with aborting := false }
  dsimp only at grown added charged ⊢
  generalize runScheduled LaneOperation.perform (simulation.telling ready) turns
    { second with aborting := false } = ran at added charged ⊢
  obtain ⟨told, third⟩ := ran
  have processed := grown.trans added
  dsimp only at processed charged ⊢
  cases LaneEnds.together (told.map fun ended => ended.1.1) with
  | error stop =>
    refine ⟨?_, rfl, charged⟩
    simpa [Life.meters] using processed
  | ok _ =>
    obtain ⟨_, ⟨rfl, _⟩, finished⟩ := (adds_tellStage .finish Behaviour.finish
      (told.map fun ended => ended.1.2)).finish third
    refine ⟨?_, rfl, charged⟩
    simpa [Life.meters] using processed.trans finished

theorem conclude_reading (modulesPerLane : Nat) (world : World) (meter : Meter) :
    (simulation.conclude modulesPerLane world).2.metrics.reading meter =
      world.metrics.reading meter := by
  unfold conclude
  dsimp only
  split
  · rfl
  · split
    · cases meter <;> rfl
    · rfl

theorem run_grown (turns : List Nat) (world : World) :
    let life := simulation.life turns world
    Grown world.metrics life.meters (simulation.run turns world).world.metrics ∧
      ∀ its ∈ life.rounds, ∀ round ∈ its, round.Charged := by
  have unchanged := simulation.buildLanes_metrics simulation.config.workers.toNat 0 world
  unfold life run
  rcases built : simulation.buildLanes simulation.config.workers.toNat 0 world with
    ⟨stop | lanes, start⟩
  · rw [built] at unchanged
    dsimp only at unchanged ⊢
    rw [unchanged]
    exact ⟨Grown.refl _, List.forall_mem_nil _⟩
  rw [built] at unchanged
  obtain ⟨_, numbered, _⟩ := ids_of_built built
  obtain ⟨grown, none, charged⟩ := @tellWork_grown _ simulation lanes (buildLanes_own built)
    numbered turns start
  have same := simulation.tellWork_fst turns lanes start
  dsimp only at unchanged grown none charged ⊢
  rw [unchanged] at grown
  rw [← same]
  generalize simulation.tellWork turns lanes start = worked at grown none charged ⊢
  obtain ⟨⟨ended, left, last⟩, life⟩ := worked
  dsimp only at grown none charged
  have tearing := Process.finish_told (tellLaneTearDowns_map left) last
  obtain ⟨_, rfl, more⟩ := (adds_tellLaneTearDowns left).finish last
  let torn := (tellLaneTearDowns left).finish last
  -- What the tear-downs tell comes last.
  have whole : Grown world.metrics { life with tearDowns := torn.1.2 : Life }.meters
      (dropLanes torn.1.1.2 torn.2).metrics := by
    rw [dropLanes_metrics]
    simpa [Life.meters, none] using grown.trans more
  rcases ended with (error | fault) | _
  case error.fault =>
    refine ⟨?_, charged⟩
    rw [dropLanes_metrics]
    exact grown
  all_goals
    refine ⟨?_, charged⟩
    simp only [tearing]
    split
    · exact whole
    · intro meter
      rw [conclude_reading]
      exact whole meter

end Simulation

end Beamline.Run
