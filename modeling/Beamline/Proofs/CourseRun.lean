import Beamline.Proofs.CourseBuild

namespace Beamline.Run

open Bus

/-- If only one lane noticed something in an event, that is what the event noticed. -/
theorem Record.sights_eq {lane : LaneId} {event : UInt64} {record : Record}
    (elsewhere : ∀ other ≠ lane, ∀ told ∈ record.seenBy other, told.1 ≠ event) :
    record.sights event = (record.seenBy lane).filterMap fun told =>
      if told.1 = event then some told.2 else none := by
  unfold sights
  unfold seenBy at elsewhere ⊢
  generalize record.filterMap Instant.sight? = noticed at elsewhere ⊢
  rw [List.filterMap_filterMap]
  apply List.filterMap_congr
  rintro ⟨other, number, sight⟩ member
  by_cases home : other = lane
  · simp [home]
  · have foreign := elsewhere other home (number, sight)
      (List.mem_filterMap.mpr ⟨(other, number, sight), member, by simp⟩)
    simp [home, foreign]

/-! ## What a run comes to -/

/-- What the modules of a lane do when they are set up. -/
def serveSetUp (members : List Member) : Option Unit × Course :=
  serveStage (fun member => member.1.setUp member.2) members (members.flatMap Member.cells)

def preparedOf (members : List Member) : List Cell :=
  (serveSetUp members).2.cells

/-- When a run succeeds. In the end a lane finds empty cells, or those that setting up left if it had
no events. -/
structure Plan.Goes (plan : Plan) (members : List Member) : Prop where
  setUp : (serveSetUp members).1 = some ()
  events : ∀ event < plan.total, plan.Succeeds members (preparedOf members) event
  finish : ∀ place < plan.stride.toNat,
    (serveStage (fun member => member.1.finish member.2) members
      (if place < plan.total.toNat then (preparedOf members).map Cell.emptied
        else preparedOf members)).1 = some ()

instance {members : List Member} {seed event : UInt64} {cells : List Cell} :
    Decidable (Run.Succeeds members seed event cells) :=
  inferInstanceAs (Decidable (_ ∧ _))

instance {plan : Plan} {members : List Member} : Decidable (plan.Goes members) :=
  -- To be found among the events of the run, not among all words.
  letI : Decidable (∀ event ∈ plan.allEvents,
      plan.Succeeds members (preparedOf members) event) :=
    @List.decidableBAll _ _
      (fun event => inferInstanceAs (Decidable (Run.Succeeds members plan.seed event _))) _
  decidable_of_iff ((serveSetUp members).1 = some () ∧
      (∀ event ∈ plan.allEvents, plan.Succeeds members (preparedOf members) event) ∧
      ∀ place < plan.stride.toNat, (serveStage (fun member => member.1.finish member.2) members
        (if place < plan.total.toNat then (preparedOf members).map Cell.emptied
          else preparedOf members)).1 = some ())
    ⟨fun ⟨setUp, events, finish⟩ =>
      ⟨setUp, fun event early => events event (Plan.mem_allEvents.mpr early), finish⟩,
    fun goes =>
      ⟨goes.setUp, fun event among => goes.events event (Plan.mem_allEvents.mp among), goes.finish⟩⟩

/-- The lanes of a run as they are built. -/
structure Assembled (live : List Handle) (members : List Member) (count : Nat)
    (lanes : List (Lane Unit)) : Prop where
  worked : 0 < count
  few : count ≤ ConfigError.maxWorkers
  length : lanes.length = count
  live_eq : handlesOf (lanes.flatMap Lane.modules) = live
  built : AllBuiltFrom live members 0 lanes
  releasing : Releasing (lanes.flatMap Lane.modules)

def ofLanes (count : Nat) (cells : List Cell) (place : Nat) : List Cell :=
  if place < count then cells else []

theorem Simulation.exists_assembled {simulation : Simulation Unit} {parts : List Part}
    (chained : simulation.blueprints = parts.map Part.blueprint) {world : World}
    (new : world.bus.New) {count : Nat} (worked : 0 < count) (few : count ≤ ConfigError.maxWorkers) :
    let members := membersOf parts simulation.detectors
    ∃ lanes live later, simulation.buildLanes count 0 world = (.ok lanes, later) ∧
      Assembled live members count lanes ∧
      Lays live (ofLanes count (members.flatMap Member.cells)) later := by
  intro members
  have lays : Lays [] (fun _ => []) world := ⟨new.separate, fun _ _ => .nil⟩
  obtain ⟨lanes, later, built, length, equips⟩ :=
    @Lays.buildLanes [] (fun _ => []) world 0 lays simulation parts chained count (by omega)
      fun _ _ _ => ⟨rfl, rfl⟩
  refine ⟨lanes, _, later, built,
    ⟨worked, few, length, rfl, equips.built, equips.releasing⟩, ?_⟩
  have laid := equips.lays
  simp only [length, Nat.zero_le, true_and, Nat.zero_add] at laid
  exact laid

namespace Assembled

variable {live : List Handle} {members : List Member} {count : Nat} {lanes : List (Lane Unit)}
  {world : World}

/-- A stage in which every lane finds the same cells. -/
theorem stageInTurn (assembled : Assembled live members count lanes) {cells : Nat → List Cell}
    (lays : Lays live cells world) (stage : Stage) {code : Behaviour Unit → Code Unit Unit}
    {react : Member → Reaction}
    (same : ∀ (member : Member) slots,
      code (member.1.behaviour member.2 slots) = (react member).code slots)
    {ended : Except Stop Unit × List (Lane Unit)} {after : World}
    (finished : (Run.stageInTurn stage code lanes).finish world = (ended, after)) :
    (ended.1 = .ok () ↔ ∀ place < count, (serveStage react members (cells place)).1 = some ()) ∧
      (ended.1 = .ok () → ended.2 = lanes ∧
        Lays live (fun place => if place < count then (serveStage react members (cells place)).2.cells
          else cells place) after) := by
  obtain ⟨succeeds, succeeded⟩ := lays.stageInTurn stage same assembled.built finished
  simp only [assembled.length, Nat.zero_le, true_and, Nat.zero_add, true_imp_iff] at succeeds succeeded
  exact ⟨⟨fun completed => (succeeded completed).2.1, succeeds⟩,
    fun completed => ⟨(succeeded completed).1, (succeeded completed).2.2⟩⟩

theorem setUp (assembled : Assembled live members count lanes)
    (lays : Lays live (ofLanes count (members.flatMap Member.cells)) world)
    {ended : Except Stop Unit × List (Lane Unit)} {after : World}
    (finished : (Run.stageInTurn .setUp Behaviour.setUp lanes).finish world = (ended, after)) :
    (ended.1 = .ok () ↔ (serveSetUp members).1 = some ()) ∧
      (ended.1 = .ok () → ended.2 = lanes ∧
        Lays live (ofLanes count (preparedOf members)) after) := by
  obtain ⟨succeeds, succeeded⟩ := assembled.stageInTurn lays .setUp (fun _ _ => rfl) finished
  have cells {place : Nat} (within : place < count) :
      ofLanes count (members.flatMap Member.cells) place = members.flatMap Member.cells :=
    if_pos within
  constructor
  · refine succeeds.trans ⟨fun all => ?_, fun first place within => ?_⟩
    · have first := all 0 assembled.worked
      rwa [cells assembled.worked] at first
    · rw [cells within]
      exact first
  · intro completed
    obtain ⟨unchanged, laid⟩ := succeeded completed
    refine ⟨unchanged, Eq.mp (congrArg (Lays live · after) (funext fun place => ?_)) laid⟩
    unfold ofLanes
    by_cases within : place < count
    · rw [if_pos within, if_pos within, if_pos within]
      rfl
    · rw [if_neg within, if_neg within, if_neg within]

theorem plan_eq (assembled : Assembled live members count lanes) (simulation : Simulation Unit)
    (counted : count = simulation.config.workers.toNat) :
    simulation.plan lanes = Config.plan simulation.config :=
  Simulation.plan_of_length (assembled.length.trans counted)

/-- The event loops of a run complete if all events succeed. -/
theorem loops (assembled : Assembled live members count lanes) {prepared : List Cell}
    (lays : Lays live (ofLanes count prepared) world) (simulation : Simulation Unit)
    (fits : (simulation.plan lanes).Fits) (turns : List Nat)
    {ended : List ((Except Stop Nat × Lane Unit) × Chronicle Unit)} {state : World × Record}
    (recorded : runScheduled LaneOperation.performRecorded (simulation.telling lanes) turns
      ({ world with aborting := false }, []) = (ended, state)) :
    let together := LaneEnds.together (ended.map fun told => told.1.1)
    let plan := simulation.plan lanes
    (together = .ok () ↔ ∀ event < plan.total, plan.Succeeds members prepared event) ∧
      (together = .ok () → ended.map (fun told => told.1.2) = lanes ∧
        Completed live members plan prepared count (ofLanes count prepared) state) := by
  intro together plan
  have few : lanes.length ≤ ConfigError.maxWorkers := assembled.length ▸ assembled.few
  obtain ⟨completes, completed⟩ := lays.telling simulation fits few assembled.built
    (fun place within => if_pos (assembled.length ▸ within)) turns recorded
  rw [assembled.length] at completed
  have all (success : together = .ok ()) : ∀ told ∈ ended, ∃ count, told.1.1 = .ok count :=
    fun told member => LaneEnds.together_ok success (List.mem_map_of_mem member)
  refine ⟨⟨fun success => (completed (all success)).2.succeeds, fun succeeds => ?_⟩,
    fun success => completed (all success)⟩
  apply LaneEnds.together_of_ok
  intro result member
  obtain ⟨told, among, rfl⟩ := List.mem_map.mp member
  exact completes succeeds told among

/-- The stages of a run from setting up to finishing. -/
theorem work (assembled : Assembled live members count lanes)
    (lays : Lays live (ofLanes count (members.flatMap Member.cells)) world)
    (simulation : Simulation Unit) (fits : (simulation.plan lanes).Fits) (turns : List Nat)
    {result : Except Stop Unit} {later : List (Lane Unit)} {after : World}
    (worked : simulation.work turns lanes world = (result, later, after)) :
    (result = .ok () ↔ (simulation.plan lanes).Goes members) ∧
      (result = .ok () → later = lanes ∧ after.bus.Separate live live) := by
  let plan := simulation.plan lanes
  unfold Simulation.work at worked
  rcases begun : (Run.stageInTurn .setUp Behaviour.setUp lanes).finish world with
    ⟨⟨first, ready⟩, start⟩
  obtain ⟨prepares, prepared⟩ := assembled.setUp lays begun
  simp only [begun] at worked
  rcases first with stop | _
  · obtain ⟨rfl, _⟩ := Prod.mk.inj worked
    refine ⟨⟨nofun, fun goes => ?_⟩, nofun⟩
    exact absurd (prepares.mpr goes.setUp) nofun
  obtain ⟨rfl, laid⟩ := prepared rfl
  rcases recorded : runScheduled LaneOperation.performRecorded (simulation.telling ready) turns
    ({ start with aborting := false }, []) with ⟨ended, state⟩
  obtain ⟨completes, completed⟩ := assembled.loops laid simulation fits turns recorded
  dsimp only at worked
  rw [Simulation.processEvents_of_recorded recorded] at worked
  rcases together : LaneEnds.together (ended.map fun told => told.1.1) with stop | _
  · rw [together] at worked completes
    obtain ⟨rfl, _⟩ := Prod.mk.inj worked
    refine ⟨⟨nofun, fun goes => ?_⟩, nofun⟩
    exact absurd (completes.mpr goes.events) nofun
  obtain ⟨unchanged, looped⟩ := completed together
  rw [together, unchanged] at worked
  rcases finishing : (Run.stageInTurn .finish Behaviour.finish ready).finish state.1 with
    ⟨⟨finished, last⟩, final⟩
  simp only [finishing] at worked
  obtain ⟨rfl, rfl, rfl⟩ : _ ∧ _ ∧ _ := by simpa only [Prod.mk.injEq] using worked
  obtain ⟨finishes, settled⟩ := assembled.stageInTurn looped.lays .finish (fun _ _ => rfl) finishing
  have few : ready.length ≤ ConfigError.maxWorkers := assembled.length ▸ assembled.few
  have stride : plan.stride.toNat = count :=
    (Simulation.toNat_stride (Nat.le_trans few (by decide))).trans assembled.length
  refine ⟨finishes.trans ⟨fun all => ?_, fun goes place within => ?_⟩, fun success =>
    ⟨(settled success).1, (settled success).2.separate⟩⟩
  · refine ⟨prepares.mp rfl, completes.mp together, fun place within => ?_⟩
    rw [stride] at within
    have done := all place within
    rwa [if_pos within] at done
  · rw [if_pos within]
    exact goes.finish place (stride.symm ▸ within)

/-- What an event notices in a run whose event loops complete. -/
theorem sights (assembled : Assembled live members count lanes) {prepared : List Cell}
    {plan : Plan} (fits : plan.Fits) (stride : plan.stride.toNat = count)
    {cells : Nat → List Cell} {state : World × Record}
    (completed : Completed live members plan prepared count cells state) (event : UInt64) :
    state.2.sights event =
      if event < plan.total then plan.sightsOf members prepared event else [] := by
  have worked : 0 < plan.stride.toNat := stride ▸ assembled.worked
  have few : plan.stride.toNat ≤ ConfigError.maxWorkers := stride ▸ assembled.few
  let own := event.toNat % plan.stride.toNat
  have within : own < plan.stride.toNat := Nat.mod_lt _ worked
  have small : own ≤ ConfigError.maxWorkers := Nat.le_trans (Nat.le_of_lt within) few
  have distinct : (plan.events (laneOf own)).Nodup := Plan.eventsFrom_nodup fits.positive _
  rw [@Record.sights_eq (laneOf own) event state.2 ?_, completed.seen own small,
    if_pos (stride ▸ within), filterMap_flatMap_key distinct]
  · simp only [Plan.mem_events few within, own, and_true]
  · -- In other lanes events have other remainders.
    rintro other different told member rfl
    have place : laneOf other.index.toNat = other := by simp [laneOf]
    have bounded : other.index.toNat ≤ ConfigError.maxWorkers := Nat.le_of_lt_succ other.index.toNat_lt
    rw [← place, completed.seen _ bounded] at member
    by_cases among : other.index.toNat < count
    · rw [if_pos among] at member
      obtain ⟨number, listed, noticed⟩ := List.mem_flatMap.mp member
      obtain ⟨sight, _, rfl⟩ := List.mem_map.mp noticed
      have remainder := ((Plan.mem_events few (stride.symm ▸ among)).mp listed).2
      exact different (place.symm.trans (congrArg laneOf remainder.symm))
    · rw [if_neg among] at member
      cases member

private theorem unsatisfied_iff (assembled : Assembled live members count lanes)
    {prepared : List Cell}
    (lays : Lays live (ofLanes count prepared) world) :
    (∀ handle ∈ world.bus.messenger.registry.handles,
        handle.isSatisfied world.bus.store = false) ↔
      ∀ cell ∈ prepared, cell.contents = [] := by
  have lists := Usage.Sound.lists lays.separate.sound
  have shown {place : Nat} (within : place < count) :
      Cell.AllShown world.bus.store (crewOf live place) prepared := by
    have few := assembled.few
    have cells := lays.shown place (by omega)
    rwa [ofLanes, if_pos within] at cells
  constructor
  · intro all cell member
    obtain ⟨handle, among, shows_⟩ := forall₂_of_mem_right (shown assembled.worked) member
    have listed := lists.mem_handles.mpr (List.mem_filter.mp among).1
    simpa [shows_.isSatisfied] using all handle listed
  · intro empty handle listed
    have known := lists.mem_handles.mp listed
    rw [← assembled.live_eq] at known
    obtain ⟨module, among, bound⟩ := mem_handlesOf.mp known
    obtain ⟨lane, present, member⟩ := List.mem_flatMap.mp among
    obtain ⟨place, found⟩ := List.getElem?_of_mem present
    have origin := assembled.built place lane found
    rw [Nat.zero_add] at origin
    have within : place < count := assembled.length ▸ (List.getElem?_eq_some_iff.mp found).1
    have crew : handle ∈ crewOf live place := by
      rw [origin.crew]
      exact mem_handlesOf.mpr ⟨module, member, bound⟩
    obtain ⟨here, same⟩ := List.getElem?_of_mem crew
    obtain ⟨cell, value, shows_⟩ := forall₂_getElem? (shown within) same
    rw [shows_.isSatisfied, empty cell (List.mem_of_getElem? value)]
    rfl

end Assembled

/-! ## Runs -/

def Outcome.Succeeds {σ : Type} (outcome : Outcome σ) : Prop :=
  ∃ summary, outcome.result = .ok summary

section Runs

variable {config : Config} {detectors : List Detector} {parts : List Part} {world : World}
  (allowed : 0 < config.workers.toNat ∧ config.workers.toNat ≤ ConfigError.maxWorkers ∧
    config.events.toNat + config.workers.toNat ≤ UInt64.size)

include allowed

theorem Config.fits_plan : (Config.plan config).Fits :=
  ⟨UInt64.lt_iff_toNat_lt.mpr allowed.1, allowed.2.2⟩

/-- A run succeeds if its modules do. -/
theorem Simulation.succeeds_iff (new : world.bus.New) (turns : List Nat) :
    ((Simulation.ofParts config detectors parts).run turns world).Succeeds ↔
      (Config.plan config).Goes (membersOf parts detectors) := by
  let simulation := Simulation.ofParts config detectors parts
  obtain ⟨lanes, live, start, built, assembled, lays⟩ :=
    @Simulation.exists_assembled simulation parts rfl world new simulation.config.workers.toNat
      allowed.1 allowed.2.1
  have plan := assembled.plan_eq simulation rfl
  rcases worked : simulation.work turns lanes start with ⟨result, later, after⟩
  obtain ⟨goes, succeeded⟩ :=
    assembled.work lays simulation (plan ▸ Config.fits_plan allowed) turns worked
  rw [plan] at goes
  change result = .ok () ↔ (Config.plan config).Goes (membersOf parts detectors) at goes
  rw [← goes]
  cases result with
  | error stop =>
    obtain ⟨other, ended⟩ := Simulation.run_of_stop built worked
    refine ⟨fun success => ?_, nofun⟩
    obtain ⟨summary, success⟩ := success
    exact absurd (ended.symm.trans success) nofun
  | ok _ =>
    refine ⟨fun _ => rfl, fun _ => ?_⟩
    obtain ⟨rfl, separate⟩ := succeeded rfl
    have sound : after.bus.Sound live (handlesOf (later.flatMap Lane.modules)) :=
      assembled.live_eq ▸ separate.sound
    obtain ⟨last, torn, removed⟩ := finish_tearDownLanes assembled.releasing sound
    obtain ⟨first, others, rfl⟩ := List.exists_cons_of_length_pos
      (assembled.length.symm ▸ assembled.worked)
    have ran := Simulation.run_of_work built worked torn
    rw [dropLanes_released, conclude_of_empty simulation _ removed.sound] at ran
    exact ⟨_, congrArg Outcome.result ran⟩

/-- Nothing is received before the first event if setting up leaves empty cells. -/
theorem Simulation.quiet_iff (new : world.bus.New) :
    (Simulation.ofParts config detectors parts).Quiet world ↔
      ((serveSetUp (membersOf parts detectors)).1 = some () →
        ∀ cell ∈ preparedOf (membersOf parts detectors), cell.contents = []) := by
  let simulation := Simulation.ofParts config detectors parts
  obtain ⟨lanes, live, built, building, assembled, lays⟩ :=
    @Simulation.exists_assembled simulation parts rfl world new simulation.config.workers.toNat
      allowed.1 allowed.2.1
  rcases begun : (stageInTurn .setUp Behaviour.setUp lanes).finish built with
    ⟨⟨first, ready⟩, start⟩
  obtain ⟨prepares, prepared⟩ := assembled.setUp lays begun
  have opening : simulation.start? world = match first with
      | .error _ => none
      | .ok () => some start := by
    rcases first with stop | _ <;> simp only [Simulation.start?, building, begun]
  change (∀ start ∈ simulation.start? world, _) ↔ _
  rw [opening]
  rcases first with stop | _
  · exact ⟨fun _ done => absurd (prepares.mpr done) nofun, fun _ => nofun⟩
  · obtain ⟨rfl, laid⟩ := prepared rfl
    have done := prepares.mp rfl
    have empty := assembled.unsatisfied_iff laid
    simp only [Option.mem_def, Option.some.injEq, forall_eq']
    exact empty.trans ⟨fun all _ => all, fun all => all done⟩

theorem Simulation.sights_ofParts (new : world.bus.New) (turns : List Nat)
    (goes : (Config.plan config).Goes (membersOf parts detectors)) (event : UInt64) :
    let members := membersOf parts detectors
    ((Simulation.ofParts config detectors parts).recorded turns world).2.sights event =
      if event < config.events then
        (Config.plan config).sightsOf members (preparedOf members) event
      else [] := by
  intro members
  let simulation := Simulation.ofParts config detectors parts
  obtain ⟨lanes, live, built, building, assembled, lays⟩ :=
    @Simulation.exists_assembled simulation parts rfl world new simulation.config.workers.toNat
      allowed.1 allowed.2.1
  have plan := assembled.plan_eq simulation rfl
  have fits := Config.fits_plan allowed
  rcases begun : (stageInTurn .setUp Behaviour.setUp lanes).finish built with
    ⟨⟨first, ready⟩, start⟩
  obtain ⟨prepares, prepared⟩ := assembled.setUp lays begun
  obtain rfl : first = .ok () := prepares.mpr goes.setUp
  obtain ⟨rfl, laid⟩ := prepared rfl
  rcases recorded : runScheduled LaneOperation.performRecorded (simulation.telling ready) turns
    ({ start with aborting := false }, []) with ⟨ended, state⟩
  obtain ⟨completes, completed⟩ := assembled.loops laid simulation (plan ▸ fits) turns recorded
  rw [plan] at completes completed
  obtain ⟨_, looped⟩ := completed (completes.mpr goes.events)
  have told : (simulation.recorded turns world).2 = state.2 := by
    simp only [Simulation.recorded, building, begun, recorded]
  rw [told]
  exact assembled.sights fits rfl looped event

end Runs

end Beamline.Run
