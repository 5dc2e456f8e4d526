import Beamline.Proofs.AcceptedConfig
import Beamline.Proofs.DemoBuild
import Beamline.Proofs.DemoRoom
import Beamline.Proofs.TearDown

namespace Beamline.Demo

open Bus Run

/-! ## Modules at rest -/

theorem logs_logFinished (message : String) (values : List (String × String)) :
    Code.Logs (logFinished message values) := by
  intro setting
  have named : (Code.ask (σ := Counters) .identity).Does setting setting.scope.bindings.identity
      setting := Code.does_ask rfl
  refine ⟨_, named.bind ((Code.does_ask rfl).bind (Code.does_pure _ ()))⟩

theorem logs_counters (message : String) (values : Counters → List (String × String)) :
    Code.Logs (do logFinished message (values (← get))) := by
  intro setting
  obtain ⟨lines, does⟩ := logs_logFinished message (values setting.state) setting
  exact ⟨lines, (Code.does_get setting).bind does⟩

section Plays

variable {tally : Nat} {lane : LaneId} {detectors : List Detector} {pipeline : Pipeline}
  {role : Role} {module : Module Counters}

private theorem Plays.logs_setUp (plays : Plays tally lane detectors pipeline role module) :
    module.behaviour.setUp.Logs := by
  cases plays <;> exact Code.logs_pure

private theorem Plays.logs_finish (plays : Plays tally lane detectors pipeline role module) :
    module.behaviour.finish.Logs := by
  cases plays with
  | generator => exact logs_counters _ _
  | transfer => exact Code.logs_pure
  | digitizer => exact logs_counters _ _
  | reader => exact logs_counters _ _
  | monitor =>
    intro setting
    have counts : (Code.ask (σ := Counters) (.counts tally)).Does setting
        (setting.world.bus.store.counts tally) setting := Code.does_ask rfl
    obtain ⟨lines, does⟩ := logs_logFinished "Monitoring finished"
      [("counts", Monitor.countsText (setting.world.bus.store.counts tally))] setting
    exact ⟨lines, counts.bind does⟩

theorem Plays.releases (plays : Plays tally lane detectors pipeline role module) :
    module.behaviour.tearDown = Code.release := by
  cases plays <;> rfl

theorem Plays.receiver (plays : Plays tally lane detectors pipeline role module) {handle : Handle}
    (bound : handle ∈ module.bindings.handles) :
    handle.delegate.receiver = module.bindings.identity := by
  cases plays with
  | generator => cases bound
  | transfer | digitizer | monitor => cases List.mem_singleton.mp bound; rfl
  | reader => rcases List.mem_pair.mp bound with rfl | rfl <;> rfl

theorem Plays.watched (plays : Plays tally lane detectors pipeline role module) :
    Watched tally module.bindings.handles := by
  intro handle bound
  cases plays with
  | generator => cases bound
  | transfer | digitizer => exact .inl ⟨_, by cases List.mem_singleton.mp bound; rfl⟩
  | reader => rcases List.mem_pair.mp bound with rfl | rfl <;> exact .inl ⟨_, rfl⟩
  | monitor state identity unnamed id number =>
    cases List.mem_singleton.mp bound
    exact .inr (unnamed.watches tally number)

end Plays

/-! ## Lanes that count -/

def counting (drawn : UInt64 → Event) (modules : List (Module Counters)) (numbers : List UInt64) :
    List (Module Counters) :=
  numbers.foldl (fun modules number => List.zipWith counted modules (drawn number).gains) modules

section Counting

variable {tally : Nat} {live : List Handle} {detectors : List Detector} {pipeline : Pipeline}
  {lane : LaneId} {modules : List (Module Counters)} {drawn : UInt64 → Event}

theorem Crewed.counting (crewed : Crewed tally live detectors pipeline lane modules)
    (covers : ∀ number, (drawn number).Covers detectors) (numbers : List UInt64) :
    Crewed tally live detectors pipeline lane (counting drawn modules numbers) ∧
      (Demo.counting drawn modules numbers).map Module.bindings = modules.map Module.bindings := by
  induction numbers generalizing modules with
  | nil => exact ⟨crewed, rfl⟩
  | cons number rest ih =>
    have enough := crewed.length_eq.trans (covers number).length_gains.symm
    obtain ⟨later, same⟩ := ih (crewed.counted enough)
    exact ⟨later, same.trans (bindings_counted enough)⟩

end Counting

/-! ## The lanes of a run -/

/-- Lanes with the modules of the chain. No other delegates are registered than theirs. -/
structure Staffed (tally : Nat) (live : List Handle) (detectors : List Detector)
    (pipeline : Pipeline) (lanes : List (Lane Counters)) : Prop where
  live_eq : live = handlesOf (lanes.flatMap Lane.modules)
  apart : (lanes.map Lane.id).Nodup
  crewed : ∀ lane ∈ lanes, Crewed tally live detectors pipeline lane.id lane.modules
  increasing : (lanes.flatMap Lane.modules).Pairwise fun module later =>
    module.bindings.identity.number < later.bindings.identity.number

theorem handlesOf_flatMap (lanes : List (Lane Counters)) :
    handlesOf (lanes.flatMap Lane.modules) = lanes.flatMap fun lane => handlesOf lane.modules :=
  List.flatMap_assoc

namespace Equipped

variable {tally : Nat} {detectors : List Detector} {pipeline : Pipeline} {world later : World}
  {count : Nat} {lanes : List (Lane Counters)}

theorem staffed
    (equipped : Equipped tally detectors pipeline [] world (List.range count) lanes later)
    (few : count ≤ ConfigError.maxWorkers) (apart : (detectors.map Detector.name).Nodup)
    (matrices : ∀ detector ∈ detectors, detector.Filled) :
    Staffed tally (handlesOf (lanes.flatMap Lane.modules)) detectors pipeline lanes := by
  have distinct : (lanes.map Lane.id).Nodup := by
    rw [equipped.ids]
    refine List.Nodup.map_on (fun one first other second same => ?_) List.nodup_range
    rw [List.mem_range] at first second
    exact laneOf_injective (by omega) (by omega) same
  have owned (lane : Lane Counters) (listed : lane ∈ lanes) :
      ∀ handle ∈ handlesOf lane.modules, handle.lane = lane.id := by
    intro handle among
    obtain ⟨module, member, bound⟩ := mem_handlesOf.mp among
    obtain ⟨role, _, plays⟩ := forall₂_of_mem_right (equipped.plays lane listed) member
    rw [Handle.lane, plays.receiver bound]
    exact plays.located.1
  exact {
    live_eq := rfl
    apart := distinct
    crewed := fun lane listed => {
      watched := by
        intro handle among
        obtain ⟨module, member, bound⟩ := mem_handlesOf.mp among
        obtain ⟨owner, listed, member⟩ := List.mem_flatMap.mp member
        obtain ⟨role, _, plays⟩ := forall₂_of_mem_right (equipped.plays owner listed) member
        exact plays.watched handle bound
      apart
      matrices
      own := by
        rw [handlesOf_flatMap]
        exact filter_flatMap_key distinct owned listed
      plays := equipped.plays lane listed }
    increasing := equipped.numbered.increasing }

end Equipped

/-- Before the first event every lane sees empty storage. -/
theorem Building.shows {tally : Nat} {live : List Handle} {world start : World}
    (building : Building tally live world) (same : start.bus = world.bus)
    (going : start.aborting = false) (lane : LaneId) :
    Shows tally live lane (.clear []) (start, []) where
  left := {
    sound := same ▸ building.sound
    going
    tallies := same ▸ building.tallies
    dispatched := by rw [same, building.stats]; rfl
    deliveries := by rw [same, building.stats]; rfl
    failed := by rw [same, building.stats]
    unreceived := by rw [same, building.stats]
    located := by simp [sendings]
    met := by simp }
  right := {
    held := fun _ _ _ slot _ => by rw [same, building.empty slot]; rfl
    calls := fun _ _ _ number _ => by rw [same, building.uncalled number]; rfl
    sent := rfl }

/-- The messages of events, each with its event. -/
def sentWith (drawn : UInt64 → Event) (numbers : List UInt64) : List (UInt64 × Message) :=
  numbers.flatMap fun number => (drawn number).messages.map fun message => (number, message)

def laneAfter (drawn : UInt64 → Event) (plan : Plan) (lane : Lane Counters) : Lane Counters :=
  { lane with modules := counting drawn lane.modules (plan.events lane.id) }

namespace Staffed

variable {tally : Nat} {live : List Handle} {detectors : List Detector} {pipeline : Pipeline}
  {lanes : List (Lane Counters)}

theorem releasing (staffed : Staffed tally live detectors pipeline lanes) :
    Releasing (lanes.flatMap Lane.modules) := by
  have role (module : Module Counters) (member : module ∈ lanes.flatMap Lane.modules) :
      ∃ lane role, Plays tally lane detectors pipeline role module := by
    obtain ⟨lane, listed, member⟩ := List.mem_flatMap.mp member
    obtain ⟨role, _, plays⟩ := (staffed.crewed lane listed).role_of_mem member
    exact ⟨lane.id, role, plays⟩
  exact {
    releases := fun module member => by
      obtain ⟨_, _, plays⟩ := role module member
      exact plays.releases
    receiver := fun module member handle bound => by
      obtain ⟨_, _, plays⟩ := role module member
      exact plays.receiver bound
    apart := staffed.increasing.imp Nat.ne_of_lt }

/-- Setting the modules up adds lines and nothing else. -/
theorem setUp (staffed : Staffed tally live detectors pipeline lanes) (world : World) : ∃ lines,
    (stageInTurn .setUp Behaviour.setUp lanes).finish world =
      ((.ok (), lanes), { world with lines }) :=
  finish_stageInTurn (fun lane listed module member => by
    obtain ⟨role, _, plays⟩ := (staffed.crewed lane listed).role_of_mem member
    exact plays.logs_setUp) world

/-- Finishing the modules adds lines and nothing else. -/
theorem finish (staffed : Staffed tally live detectors pipeline lanes) (world : World) : ∃ lines,
    (stageInTurn .finish Behaviour.finish lanes).finish world =
      ((.ok (), lanes), { world with lines }) :=
  finish_stageInTurn (fun lane listed module member => by
    obtain ⟨role, _, plays⟩ := (staffed.crewed lane listed).role_of_mem member
    exact plays.logs_finish) world

/-- Tearing the modules down removes all delegates. -/
theorem tearDown (staffed : Staffed tally live detectors pipeline lanes) {world : World}
    (sound : world.bus.Sound live live) : ∃ later,
      (tearDownLanes lanes).finish world = ((.ok (), lanes.map Lane.released), later) ∧
        Removed live [] world later :=
  finish_tearDownLanes staffed.releasing (staffed.live_eq ▸ sound)

theorem counted (staffed : Staffed tally live detectors pipeline lanes) {drawn : UInt64 → Event}
    (covers : ∀ number, (drawn number).Covers detectors) (plan : Plan) :
    Staffed tally live detectors pipeline (lanes.map (laneAfter drawn plan)) := by
  have same : ((lanes.map (laneAfter drawn plan)).flatMap Lane.modules).map Module.bindings =
      (lanes.flatMap Lane.modules).map Module.bindings := by
    rw [List.flatMap_map, List.map_flatMap, List.map_flatMap]
    apply List.flatMap_congr
    intro lane listed
    exact ((staffed.crewed lane listed).counting covers (plan.events lane.id)).2
  exact {
    live_eq := by
      rw [handlesOf_eq, same, ← handlesOf_eq]
      exact staffed.live_eq
    apart := by
      rw [List.map_map]
      exact staffed.apart
    crewed := by
      intro after listed
      obtain ⟨lane, among, rfl⟩ := List.mem_map.mp listed
      exact ((staffed.crewed lane among).counting covers (plan.events lane.id)).1
    increasing := by
      have numbers : ((lanes.flatMap Lane.modules).map Module.bindings).Pairwise
          fun bindings later => bindings.identity.number < later.identity.number :=
        List.pairwise_map.mpr staffed.increasing
      rw [← same, List.pairwise_map] at numbers
      exact numbers }

private theorem within_of_idle (staffed : Staffed tally live detectors pipeline lanes)
    {lane : Lane Counters} (listed : lane ∈ lanes)
    (idle : ∀ module ∈ lane.modules, module.state = {}) :
    List.Forall₂ (fun role module => Within 0 role module.state) (roles detectors)
      lane.modules := by
  have plays := (staffed.crewed lane listed).plays.flip
  have both := (List.forall₂_and_left lane.modules _).mpr ⟨idle, plays⟩
  refine (both.imp fun module role known => ?_).flip
  exact (known.1 ▸ within_fresh role : Within 0 role module.state)

section Loops

variable (staffed : Staffed tally live detectors pipeline lanes) {plan : Plan} (fits : plan.Fits)
  {observed : Observed} (shown : ∀ lane ∈ lanes, Shows tally live lane.id (.clear []) observed)
  (turns : List Nat)

include staffed fits shown

/-- By every schedule, each lane that has room for its events processes them as if it were alone. -/
theorem runScheduled_loops (room : ∀ lane ∈ lanes,
      HasRoom (.ofNumber detectors pipeline plan.seed) lane.modules (plan.events lane.id)) :
    let drawn := Event.ofNumber detectors pipeline plan.seed
    let ran := runScheduled LaneOperation.performNoted
      (lanes.map fun lane => lane.processEvents plan) turns observed
    ran.1 = (lanes.map fun lane =>
        (.ok (plan.events lane.id).length, laneAfter drawn plan lane)) ∧
      ∀ lane ∈ lanes,
        Shows tally live lane.id (.clear (sentWith drawn (plan.events lane.id))) ran.2 := by
  intro drawn ran
  refine runScheduled_of_parties staffed.apart (fun lane listed => ⟨_, ?_, shown lane listed⟩) turns
  have ended := (serves tally live detectors pipeline lane.id plan.seed).ends_runEvents rfl fits
    lane.id.index.toUInt64 (staffed.crewed lane listed) (room lane listed) 0 []
  rw [List.nil_append, Nat.zero_add] at ended
  exact ended

private theorem together_loops {crowded : Lane Counters} (among : crowded ∈ lanes)
    (overflows : ¬HasRoom (.ofNumber detectors pipeline plan.seed) crowded.modules
      (plan.events crowded.id)) :
    let ran := runScheduled LaneOperation.performNoted
      (lanes.map fun lane => lane.processEvents plan) turns observed
    LaneEnds.together (ran.1.map Prod.fst) = .error (.fault .addition) := by
  intro ran
  let room (lane : Lane Counters) : Prop :=
    HasRoom (.ofNumber detectors pipeline plan.seed) lane.modules (plan.events lane.id)
  have ends (lane : Lane Counters) : ∃ result after, lane ∈ lanes →
      Ends tally live lane.id (lane.processEvents plan) (.clear []) result after ∧
        ((∃ processed, result.1 = .ok processed) ∨ result.1 = .error (.fault .addition)) ∧
        (¬room lane → result.1 = .error (.fault .addition)) := by
    by_cases listed : lane ∈ lanes
    · have serving := serves tally live detectors pipeline lane.id plan.seed
      by_cases space : room lane
      · have ended := serving.ends_runEvents rfl fits lane.id.index.toUInt64
          (staffed.crewed lane listed) space 0 []
        exact ⟨_, _, fun _ => ⟨ended, .inl ⟨_, rfl⟩, fun crowded => absurd space crowded⟩⟩
      · obtain ⟨stopped, after, ended⟩ := serving.faults_runEvents rfl fits
          lane.id.index.toUInt64 (staffed.crewed lane listed) space 0 []
        exact ⟨_, after, fun _ => ⟨ended, .inr rfl, fun _ => rfl⟩⟩
    · exact ⟨(.ok 0, lane), .clear [], fun member => absurd member listed⟩
  choose result after ended using ends
  have results : ran.1 = lanes.map result := (runScheduled_of_parties staffed.apart
    (fun lane listed => ⟨_, (ended lane listed).1, shown lane listed⟩) turns).1
  rw [results, List.map_map]
  refine LaneEnds.together_of_fault (List.forall_mem_map.mpr fun lane listed =>
    (ended lane listed).2.1) (List.mem_map.mpr ⟨crowded, among, ?_⟩)
  exact (ended crowded among).2.2 overflows

end Loops

end Staffed

/-! ## Runs -/

/-- The events of a run of a configuration. -/
def eventsOf (config : Config) (detectors : List Detector) : UInt64 → Event :=
  .ofNumber detectors config.pipeline config.seed

theorem covers_eventsOf (config : Config) (detectors : List Detector) (number : UInt64) :
    (eventsOf config detectors number).Covers detectors :=
  Event.covers_draw detectors config.pipeline _

/-- In every lane, the charge of all deposits together is a word. -/
def InRange (config : Config) (detectors : List Detector) : Prop :=
  ∀ place < config.workers.toNat, (((Config.plan config).events (laneOf place)).map fun number =>
    (eventsOf config detectors number).depositedCharge).sum < UInt64.size

/-- If the charge of all events together is a word, then by any number of workers it is in range. -/
theorem inRange_of_sum {config : Config} {detectors : List Detector}
    (accepted : Accepted config detectors)
    (fits : ((Config.plan config).allEvents.map fun number =>
      (eventsOf config detectors number).depositedCharge).sum < UInt64.size) :
    InRange config detectors := by
  intro place within
  have among : ∀ event ∈ (Config.plan config).events (laneOf place),
      event ∈ (Config.plan config).allEvents := fun event listed =>
    Plan.mem_allEvents.mpr ((Plan.mem_events accepted.few within).mp listed).1
  obtain ⟨some, permuted, part⟩ :=
    List.subperm_of_subset (Plan.eventsFrom_nodup accepted.working _) among
  refine (permuted.map _).sum_eq.symm.trans_lt ?_
  exact ((part.map _).sum_le_sum fun _ _ => Nat.zero_le _).trans_lt fits

private theorem inRange_of_few {config : Config} {detectors : List Detector}
    (accepted : Accepted config detectors)
    (few : config.events.toNat * (detectors.length *
      (config.pipeline.depositsPerParticle.toNat * config.pipeline.particlesPerEvent.toNat)) ≤
        UInt32.size) : InRange config detectors := by
  let bound := detectors.length *
    (config.pipeline.depositsPerParticle.toNat * config.pipeline.particlesPerEvent.toNat)
  have each : ∀ number ∈ (Config.plan config).allEvents,
      (eventsOf config detectors number).depositedCharge ≤ bound * (UInt32.size - 1) :=
    fun number _ => Event.depositedCharge_le _
  have events : (Config.plan config).allEvents.length = config.events.toNat :=
    Plan.length_allEvents
  apply inRange_of_sum accepted
  calc ((Config.plan config).allEvents.map fun number =>
        (eventsOf config detectors number).depositedCharge).sum
    _ ≤ config.events.toNat * (bound * (UInt32.size - 1)) := events ▸ sum_map_le each
    _ ≤ UInt32.size * (UInt32.size - 1) := by
      rw [← Nat.mul_assoc]
      exact Nat.mul_le_mul_right _ few
    _ < UInt64.size := by decide

theorem inRange_of_ofConfig {config : Config} {simulation : Simulation Counters}
    (built : Simulation.ofConfig config = .ok simulation)
    (few : config.events.toNat * (config.planes.length *
      (config.pipeline.depositsPerParticle.toNat * config.pipeline.particlesPerEvent.toNat)) ≤
        UInt32.size) : InRange config simulation.detectors := by
  obtain ⟨detectors, rfl, accepted⟩ := accepted_of_ofConfig built
  exact inRange_of_few accepted (accepted.planes ▸ few)

/-- The lanes of a run when the first event begins. -/
structure Starts (tally : Nat) (config : Config) (detectors : List Detector)
    (lanes : List (Lane Counters)) (start : World) : Prop where
  fits : (Config.plan config).Fits
  ids : lanes.map Lane.id = (List.range config.workers.toNat).map laneOf
  idle : ∀ lane ∈ lanes, ∀ module ∈ lane.modules, module.state = {}
  staffed : Staffed tally (handlesOf (lanes.flatMap Lane.modules)) detectors config.pipeline lanes
  shown : ∀ lane ∈ lanes, Shows tally (handlesOf (lanes.flatMap Lane.modules)) lane.id
    (.clear []) (start, [])

section Starts

variable {config : Config} {detectors : List Detector} (accepted : Accepted config detectors)
  (fits : config.events.toNat + config.workers.toNat ≤ UInt64.size) (tally : Nat) (world : World)

include accepted fits

theorem exists_starts :
    let simulation : Simulation Counters := { config, detectors, blueprints := chain tally }
    ∃ lanes built prepared,
      simulation.buildLanes config.workers.toNat 0 { world with bus := {} } = (.ok lanes, built) ∧
      (stageInTurn .setUp Behaviour.setUp lanes).finish built = ((.ok (), lanes), prepared) ∧
      Starts tally config detectors lanes { prepared with aborting := false } ∧
      simulation.loops lanes = lanes.map fun lane => lane.processEvents (Config.plan config) := by
  intro simulation
  have few : 0 + simulation.config.workers.toNat ≤ ConfigError.maxWorkers + 1 := by
    rw [Nat.zero_add]
    exact Nat.le_succ_of_le accepted.few
  obtain ⟨lanes, built, building, equipped⟩ :=
    @Building.buildLanes tally [] _ (Building.start tally world) simulation rfl _ _ few
  rw [← List.range_eq_range'] at equipped
  have staffed := equipped.staffed accepted.few accepted.apart fun detector listed =>
    (accepted.checked detector listed).filled
  have length : lanes.length = config.workers.toNat := by
    simpa using congrArg List.length equipped.ids
  -- Until the first event nothing but lines is added to what was built.
  obtain ⟨lines, setUp⟩ := staffed.setUp built
  have clear (lane : LaneId) : Shows tally _ lane (.clear [])
      ({ built with lines, aborting := false }, []) :=
    @Building.shows tally _ built { built with lines, aborting := false } equipped.building rfl
      rfl lane
  rw [List.nil_append, ← handlesOf_flatMap] at clear
  refine ⟨lanes, built, _, building, setUp, ?_, ?_⟩
  · exact {
      fits := ⟨UInt64.lt_iff_toNat_lt.mpr accepted.working, fits⟩
      ids := equipped.ids
      idle := equipped.states
      staffed
      shown := fun lane _ => clear lane.id }
  · rw [Simulation.loops, Simulation.plan_of_length length]

end Starts

/-- The lanes have room for their events just if the charge of each lane is in range. -/
theorem Starts.room_iff {tally : Nat} {config : Config} {detectors : List Detector}
    {lanes : List (Lane Counters)} {start : World}
    (starts : Starts tally config detectors lanes start) :
    (∀ lane ∈ lanes, HasRoom (eventsOf config detectors) lane.modules
      ((Config.plan config).events lane.id)) ↔ InRange config detectors := by
  have each : ∀ lane ∈ lanes, (HasRoom (eventsOf config detectors) lane.modules
      ((Config.plan config).events lane.id) ↔ (((Config.plan config).events lane.id).map
        fun number => (eventsOf config detectors number).depositedCharge).sum < UInt64.size) := by
    intro lane listed
    have within := starts.staffed.within_of_idle listed (starts.idle lane listed)
    have room := hasRoom_iff (covers_eventsOf config detectors) within (by decide)
      ((Config.plan config).events lane.id)
    rw [Nat.zero_add] at room
    exact room
  rw [forall₂_congr each]
  let fits (id : LaneId) : Prop := (((Config.plan config).events id).map fun number =>
    (eventsOf config detectors number).depositedCharge).sum < UInt64.size
  have named : (∀ lane ∈ lanes, fits lane.id) ↔ ∀ id ∈ lanes.map Lane.id, fits id :=
    List.forall_mem_map.symm
  refine named.trans ?_
  rw [starts.ids, List.forall_mem_map]
  exact forall_congr' fun place => imp_congr_left List.mem_range

/-- A run of the chain that completed: the lanes as they were built, and what was observed until
all events were processed. -/
structure Completes (tally : Nat) (config : Config) (detectors : List Detector)
    (lanes : List (Lane Counters)) (observed : Observed) (outcome : Outcome Counters) : Prop where
  accepted : Accepted config detectors
  fits : (Config.plan config).Fits
  ids : lanes.map Lane.id = (List.range config.workers.toNat).map laneOf
  idle : ∀ lane ∈ lanes, ∀ module ∈ lane.modules, module.state = {}
  staffed : Staffed tally (handlesOf (lanes.flatMap Lane.modules)) detectors config.pipeline lanes
  room : ∀ lane ∈ lanes,
    HasRoom (eventsOf config detectors) lane.modules ((Config.plan config).events lane.id)
  shown : ∀ lane ∈ lanes, Shows tally (handlesOf (lanes.flatMap Lane.modules)) lane.id
    (.clear (sentWith (eventsOf config detectors) ((Config.plan config).events lane.id))) observed
  store : outcome.world.bus.store = observed.1.bus.store
  failed : outcome.world.bus.messenger.stats.failed = 0
  result : outcome.result = .ok {
    events := config.events
    lanes := config.workers
    modulesPerLane := 3 + 2 * detectors.length
    dispatched := observed.1.bus.messenger.stats.dispatched
    deliveries := observed.1.bus.messenger.stats.deliveries
    unreceived := observed.1.bus.messenger.stats.unreceived }
  lanes_eq : outcome.lanes =
    lanes.map fun lane =>
      (laneAfter (eventsOf config detectors) (Config.plan config) lane).released

section Runs

variable {config : Config} {detectors : List Detector} (accepted : Accepted config detectors)
  (fits : config.events.toNat + config.workers.toNat ≤ UInt64.size) (tally : Nat)
  (turns : List Nat) (world : World)

include accepted fits

/-- A run of the chain completes if every lane has room for its events. -/
theorem completes_of_accepted (range : InRange config detectors) :
    let simulation : Simulation Counters := { config, detectors, blueprints := chain tally }
    ∃ lanes observed,
      Completes tally config detectors lanes observed
        (simulation.run turns { world with bus := {} }) ∧
      simulation.notes turns { world with bus := {} } = observed.2 := by
  intro simulation
  obtain ⟨lanes, built, prepared, building, setUp, starts, planned⟩ :=
    exists_starts accepted fits tally world
  have staffed := starts.staffed
  cases lanes with
  | nil =>
    have count := congrArg List.length starts.ids
    rw [List.length_map, List.length_map, List.length_range] at count
    exact absurd count (Nat.ne_of_lt accepted.working)
  | cons first rest =>
    let drawn := eventsOf config detectors
    have room := starts.room_iff.mpr range
    obtain ⟨results, shown⟩ := staffed.runScheduled_loops starts.fits starts.shown turns room
    rw [← planned] at results shown
    generalize reached : runScheduled LaneOperation.performNoted (simulation.loops (first :: rest))
      turns _ = ran at results shown
    -- The modules keep their bindings, so the lanes are staffed as before when they are finished.
    have counted := staffed.counted (covers_eventsOf config detectors) (Config.plan config)
    have left : ran.1.map Prod.snd = (first :: rest).map (laneAfter drawn (Config.plan config)) := by
      rw [results, List.map_map]
      rfl
    rw [← left] at counted
    have orderly := (shown first List.mem_cons_self).1
    obtain ⟨last, finishing⟩ := counted.finish ran.2.1
    obtain ⟨later, tearing, removed⟩ :=
      @Staffed.tearDown _ _ _ _ _ counted { ran.2.1 with lines := last } orderly.sound
    have completed : ∀ result ∈ ran.1, ∃ count, result.1 = .ok count := by
      rw [results]
      exact List.forall_mem_map.mpr fun lane _ => ⟨_, rfl⟩
    obtain ⟨noted, outcome⟩ :=
      Simulation.run_of_stages building setUp reached completed finishing tearing
    have concluded := conclude_of_empty simulation first.modules.length removed.sound
    rw [dropLanes_released, concluded] at outcome
    have modules := (staffed.crewed first List.mem_cons_self).length_eq
    obtain ⟨messenger, rfl⟩ := removed.same
    obtain ⟨count, kept⟩ := removed.stats
    have stats : messenger.stats = { ran.2.1.bus.messenger.stats with removed := count } := kept
    refine ⟨first :: rest, ran.2, ?_, noted⟩
    rw [outcome]
    exact {
      accepted
      fits := starts.fits
      ids := starts.ids
      idle := starts.idle
      staffed
      room
      shown
      store := rfl
      failed := by
        simp only [stats]
        exact orderly.failed
      result := by
        rw [modules]
        simp only [stats]
        rfl
      lanes_eq := by
        simp only [left, List.map_map]
        rfl }

/-- A run of the chain meets a fault if some lane has no room for its events. -/
theorem fault_of_accepted (beyond : ¬InRange config detectors) :
    let simulation : Simulation Counters := { config, detectors, blueprints := chain tally }
    (simulation.run turns { world with bus := {} }).result = .error (.fault .addition) := by
  intro simulation
  obtain ⟨lanes, built, prepared, building, setUp, starts, planned⟩ :=
    exists_starts accepted fits tally world
  obtain ⟨crowded, among, overflows⟩ :
      ∃ lane ∈ lanes, ¬HasRoom (eventsOf config detectors) lane.modules
        ((Config.plan config).events lane.id) := by
    by_contra none
    push Not at none
    exact beyond (starts.room_iff.mp none)
  have faulty := starts.staffed.together_loops starts.fits starts.shown turns among overflows
  rw [← planned] at faulty
  exact Simulation.run_of_fault building setUp rfl faulty

end Runs

end Beamline.Demo
