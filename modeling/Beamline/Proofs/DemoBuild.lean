import Beamline.Proofs.DemoLane
import Beamline.Proofs.StageCode

namespace Beamline.Demo

open Bus Run

/-- What holds while lanes are built: nothing was dispatched, all storage is empty, and the numbers
of what was made are used up. -/
structure Building (tally : Nat) (live : List Handle) (world : World) : Prop where
  sound : world.bus.Sound live live
  empty : ∀ slot, world.bus.store.contents slot = []
  slots : ∀ handle ∈ live, ∀ slot, handle.place = .slot slot → slot.number < world.bus.store.next
  tallies : ∀ number, world.bus.store.tallyOf? number =
    if ∃ handle ∈ live, handle.place = .filter number then some (some tally) else none
  uncalled : ∀ number, (world.bus.store.filterState number).calls = []
  stats : world.bus.messenger.stats = { registered := live.length }

namespace Building

variable {tally : Nat} {live : List Handle} {world : World}

theorem start (tally : Nat) (world : World) : Building tally [] { world with bus := {} } where
  sound := (Usage.sound_fresh {}).bus
  empty slot := by simp [Store.contents]
  slots handle member := by cases member
  tallies number := by simp [Store.tallyOf?]
  uncalled number := by simp [Store.filterState]
  stats := rfl

/-- A slot that is made and bound. -/
theorem bindSlot (building : Building tally live world) (bindings : Bindings) (kind : SlotKind)
    (payload : PayloadType) (required : Bool) :
    let slot : Slot := { number := world.bus.store.next, kind, payload }
    let handle := Handle.ofSlot live.length bindings.identity slot { required }
    ∃ bus, bindings.bindSlot world.bus kind payload { required } =
        (.ok slot, { bindings with handles := bindings.handles ++ [handle] }, bus) ∧
      Building tally (live ++ [handle]) { world with bus } ∧
      bus.store.next = world.bus.store.next + 1 := by
  intro slot handle
  let bus : Bus := { world.bus with store := (world.bus.store.newSlot kind payload).2 }
  have sound : bus.Sound live live := building.sound.frame rfl rfl (Nat.le_succ _)
  have suitable : bus.messenger.refusal (.slot slot) { required } = none := by
    refine sound.refusal_eq_none ?_ fun bound same other member filled => ?_
    · cases kind <;> rfl
    · cases same
      exact Nat.lt_irrefl _ (building.slots other member slot filled)
  have made : bus.nextHandle bindings.identity (.slot slot) { required } = handle := by
    rw [nextHandle, sound.nextId_eq]
    rfl
  have bound : bindings.bindSlot world.bus kind payload { required } =
      (.ok slot, { bindings with handles := bindings.handles ++ [handle] },
        (bus.register bindings.identity (.slot slot) { required }).2) := by
    rw [← made]
    exact Bindings.bindSlot_of_suitable rfl suitable
  have registered := @sound.register _ _ _ bindings.identity _ _ suitable
  have result : bus.register bindings.identity (.slot slot) { required } = _ :=
    register_of_suitable suitable
  rw [made] at registered
  refine ⟨_, bound, ?_, ?_⟩
  · exact {
      sound := registered
      empty := by
        rw [result]
        exact building.empty
      slots := by
        intro other member storage place
        rw [result]
        rcases List.mem_append.mp member with old | new
        · exact Nat.lt_succ_of_lt (building.slots other old storage place)
        · cases List.mem_singleton.mp new
          cases place
          exact Nat.lt_succ_self _
      tallies := by
        intro number
        have same : (∃ other ∈ live ++ [handle], other.place = .filter number) ↔
            ∃ other ∈ live, other.place = .filter number := by
          simp [handle, or_and_right, exists_or]
        simp only [same, result]
        exact building.tallies number
      uncalled := by
        rw [result]
        exact building.uncalled
      stats := by
        rw [result]
        simp [bus, building.stats] }
  · rw [result]
    rfl

private theorem registerWatcher (building : Building tally live world) (bindings : Bindings) :
    let handle := watching tally live.length bindings.identity world.bus.store.next
    ∃ bus, bindings.register world.bus (.anyFilter (Monitor.watcher tally)) { ignoreName := true } =
        (.ok handle, { bindings with handles := bindings.handles ++ [handle] }, bus) ∧
      Building tally (live ++ [handle]) { world with bus } ∧
      bus.store.next = world.bus.store.next + 1 := by
  intro handle
  have suitable : world.bus.messenger.refusal (.anyFilter (Monitor.watcher tally))
      { ignoreName := true } = none :=
    building.sound.refusal_eq_none rfl fun _ bound => by cases bound
  have made : world.bus.nextHandle bindings.identity (.anyFilter (Monitor.watcher tally))
      { ignoreName := true } = handle := by
    rw [nextHandle, building.sound.nextId_eq]
    rfl
  have bound : bindings.register world.bus (.anyFilter (Monitor.watcher tally))
      { ignoreName := true } =
      (.ok handle, { bindings with handles := bindings.handles ++ [handle] },
        (world.bus.register bindings.identity (.anyFilter (Monitor.watcher tally))
          { ignoreName := true }).2) := by
    rw [← made]
    exact Bindings.register_of_suitable suitable
  have registered := @building.sound.register _ _ _ bindings.identity _ _ suitable
  have result : world.bus.register bindings.identity (.anyFilter (Monitor.watcher tally))
      { ignoreName := true } = _ := register_of_suitable suitable
  rw [made] at registered
  refine ⟨_, bound, ?_, ?_⟩
  · exact {
      sound := registered
      empty := by
        rw [result]
        exact building.empty
      slots := by
        intro other member storage place
        rw [result]
        rcases List.mem_append.mp member with old | new
        · exact Nat.lt_succ_of_lt (building.slots other old storage place)
        · cases List.mem_singleton.mp new
          cases place
      tallies := by
        intro number
        have new : handle.place = .filter world.bus.store.next := rfl
        have known := building.tallies number
        unfold Store.tallyOf? at known ⊢
        rw [result]
        simp only [install, Store.newFilter, Store.fresh, Std.HashMap.getElem?_insert, beq_iff_eq]
        by_cases same : world.bus.store.next = number
        · subst same
          rw [if_pos rfl, if_pos ⟨handle, by simp, new⟩]
          rfl
        · have others : (∃ other ∈ live ++ [handle], other.place = .filter number) ↔
              ∃ other ∈ live, other.place = .filter number := by
            simp [new, same, or_and_right, exists_or]
          rw [if_neg same, known]
          simp only [others]
      uncalled := by
        intro number
        have none := building.uncalled number
        unfold Store.filterState at none ⊢
        rw [result]
        simp only [install, Store.newFilter, Store.fresh, Std.HashMap.getD_insert]
        split
        · rfl
        · exact none
      stats := by
        rw [result]
        simp [building.stats] }
  · rw [result]
    rfl

/-- A number of the store is used up for an instance. -/
theorem newIdentity (building : Building tally live world) (name : String)
    (detector : Option Detector) (lane : LaneId) (input output : String) :
    Building tally live (world.newIdentity name detector lane input output).2 where
  sound := building.sound.frame rfl rfl (Nat.le_succ _)
  empty := building.empty
  slots handle member slot place := Nat.lt_succ_of_lt (building.slots handle member slot place)
  tallies := building.tallies
  uncalled := building.uncalled
  stats := building.stats

/-- Code that makes a slot and binds it. -/
theorem does_bindSlot {σ : Type} (building : Building tally live world) (state : σ)
    (bindings : Bindings) (kind : SlotKind) (payload : PayloadType) (required : Bool) :
    let slot : Slot := { number := world.bus.store.next, kind, payload }
    let handle := Handle.ofSlot live.length bindings.identity slot { required }
    ∃ later, (Code.bindSlot kind payload { required }).Does
        { state, scope := { bindings }, world } slot
        { state, scope := { bindings := { bindings with handles := bindings.handles ++ [handle] } },
          world := later } ∧
      Building tally (live ++ [handle]) later ∧
      later.bus.store.next = world.bus.store.next + 1 := by
  intro slot handle
  obtain ⟨bus, bound, built, onward⟩ := building.bindSlot bindings kind payload required
  have performed : (Request.bindSlot kind payload { required }).perform { bindings } world =
      ((.ok slot, { bindings := { bindings with handles := bindings.handles ++ [handle] } }),
        { world with bus }) := by
    simp only [Request.perform, bound]
    rfl
  have asked := @Code.does_ask σ _ { state, scope := { bindings }, world } _ _ _ performed
  exact ⟨_, asked.bind (Code.does_pure _ slot), built, onward⟩

private theorem does_registerWatcher {σ : Type} (building : Building tally live world) (state : σ)
    (bindings : Bindings) :
    let handle := watching tally live.length bindings.identity world.bus.store.next
    ∃ later, (Code.register (.anyFilter (Monitor.watcher tally)) { ignoreName := true }).Does
        { state, scope := { bindings }, world } handle
        { state, scope := { bindings := { bindings with handles := bindings.handles ++ [handle] } },
          world := later } ∧
      Building tally (live ++ [handle]) later ∧
      later.bus.store.next = world.bus.store.next + 1 := by
  intro handle
  obtain ⟨bus, bound, built, onward⟩ := building.registerWatcher bindings
  have performed : (Request.register (.anyFilter (Monitor.watcher tally))
      { ignoreName := true }).perform { bindings } world =
      ((.ok handle, { bindings := { bindings with handles := bindings.handles ++ [handle] } }),
        { world with bus }) := by
    simp only [Request.perform, bound]
    rfl
  have asked := @Code.does_ask σ _ { state, scope := { bindings }, world } _ _ _ performed
  exact ⟨_, asked.bind (Code.does_pure _ handle), built, onward⟩

end Building

/-! ## The modules of a lane -/

/-- What a module is built from, for its role. -/
def Role.instance_ (tally : Nat) : Role → Blueprint Counters × Option Detector
  | generator => (Generator.blueprint, none)
  | transfer detector => (Transfer.blueprint, some detector)
  | digitizer detector => (Digitizer.blueprint, some detector)
  | reader => (Reader.blueprint, none)
  | monitor => (Monitor.blueprint tally, none)

theorem instances_chain (tally : Nat) (detectors : List Detector) :
    Blueprint.instances (chain tally) detectors =
      (roles detectors).map (Role.instance_ tally) := by
  simp [Blueprint.instances, chain, roles, Role.instance_, Generator.blueprint, Transfer.blueprint,
    Digitizer.blueprint, Reader.blueprint, Monitor.blueprint, Function.comp_def]

/-- A module as it is built in its role. -/
structure Made (tally : Nat) (surroundings : Surroundings) (live : List Handle) (world : World)
    (role : Role) (module : Module Counters) (later : World) : Prop where
  plays : Plays tally surroundings.lane surroundings.detectors surroundings.pipeline role module
  state : module.state = {}
  number : module.bindings.identity.number = world.bus.store.next
  building : Building tally (live ++ module.bindings.handles) later
  onward : world.bus.store.next < later.bus.store.next

/-- The identity of an instance that is built next. -/
def nextIdentity (world : World) (name : String) (detector : Option Detector) (lane : LaneId) :
    Identity where
  number := world.bus.store.next
  name
  detector
  lane

theorem Building.build {tally : Nat} {live : List Handle} {world : World}
    (building : Building tally live world) (surroundings : Surroundings) (role : Role) :
    ∃ module later, (role.instance_ tally).1.build surroundings (role.instance_ tally).2 world =
        (.ok module, later) ∧ Made tally surroundings live world role module later := by
  cases role with
  | generator =>
    have named := building.newIdentity "DepositionGenerator" none surroundings.lane "" ""
    exact ⟨_, _, Blueprint.build_of_does rfl (Code.does_pure _ _), {
      plays := .generator {} _ ⟨rfl, rfl, rfl, rfl⟩
      state := rfl
      number := rfl
      building := by
        rw [List.append_nil]
        exact named
      onward := Nat.lt_succ_self _ }⟩
  | transfer detector =>
    let identity := nextIdentity world "ChargeTransfer" (some detector) surroundings.lane
    have named := building.newIdentity "ChargeTransfer" (some detector) surroundings.lane "" ""
    obtain ⟨later, bound, built, onward⟩ :=
      named.does_bindSlot () { identity } .multi .deposit false
    refine ⟨_, later, Blueprint.build_of_does rfl (bound.bind (Code.does_pure _ (_, _))), ?_⟩
    exact {
      plays := .transfer {} detector identity ⟨rfl, rfl, rfl, rfl⟩ _ _ rfl rfl
      state := rfl
      number := rfl
      building := built
      onward := by
        rw [onward]
        exact Nat.lt_succ_of_lt (Nat.lt_succ_self _) }
  | digitizer detector =>
    let identity := nextIdentity world "PixelDigitizer" (some detector) surroundings.lane
    have named := building.newIdentity "PixelDigitizer" (some detector) surroundings.lane "" ""
    obtain ⟨later, bound, built, onward⟩ :=
      named.does_bindSlot () { identity } .single .pixelCharge true
    refine ⟨_, later, Blueprint.build_of_does rfl (bound.bind (Code.does_pure _ (_, _))), ?_⟩
    exact {
      plays := .digitizer {} detector identity ⟨rfl, rfl, rfl, rfl⟩ _ _ rfl rfl
      state := rfl
      number := rfl
      building := built
      onward := by
        rw [onward]
        exact Nat.lt_succ_of_lt (Nat.lt_succ_self _) }
  | reader =>
    let identity := nextIdentity world "DepositReader" none surroundings.lane
    have named := building.newIdentity "DepositReader" none surroundings.lane "" ""
    obtain ⟨middle, first, half, begun⟩ := named.does_bindSlot () { identity } .multi .deposit false
    obtain ⟨later, second, built, onward⟩ :=
      half.does_bindSlot () { identity, handles := [_] } .multi .particle false
    rw [List.append_assoc] at built
    refine ⟨_, later, Blueprint.build_of_does rfl
      (first.bind (second.bind (Code.does_pure _ (_, _)))), ?_⟩
    exact {
      plays := .reader {} identity ⟨rfl, rfl, rfl, rfl⟩ _ _ _ _ rfl rfl rfl rfl
      state := rfl
      number := rfl
      building := built
      onward := by
        rw [onward, begun]
        exact Nat.lt_succ_of_lt (Nat.lt_succ_of_lt (Nat.lt_succ_self _)) }
  | monitor =>
    let identity := nextIdentity world "MessageMonitor" none surroundings.lane
    have named := building.newIdentity "MessageMonitor" none surroundings.lane "" ""
    obtain ⟨later, bound, built, onward⟩ := named.does_registerWatcher () { identity }
    refine ⟨_, later, Blueprint.build_of_does rfl (bound.bind (Code.does_pure _ (_, _))), ?_⟩
    exact {
      plays := .monitor {} identity ⟨rfl, rfl, rfl, rfl⟩ _ _
      state := rfl
      number := rfl
      building := built
      onward := by
        rw [onward]
        exact Nat.lt_succ_of_lt (Nat.lt_succ_self _) }

/-! ## The lanes -/

/-- Modules as they are built for a lane. -/
structure Manned (tally : Nat) (surroundings : Surroundings) (live : List Handle) (world : World)
    (played : List Role) (modules : List (Module Counters)) (later : World) : Prop where
  plays : List.Forall₂
    (Plays tally surroundings.lane surroundings.detectors surroundings.pipeline) played modules
  states : ∀ module ∈ modules, module.state = {}
  building : Building tally (live ++ handlesOf modules) later
  numbered : Numbered world.bus.store.next later.bus.store.next modules

theorem Building.buildModules {tally : Nat} {live : List Handle} {world : World}
    (building : Building tally live world) (surroundings : Surroundings) (played : List Role) :
    ∃ modules later,
      Run.buildModules surroundings (played.map (Role.instance_ tally)) world =
        (.ok modules, later) ∧
      Manned tally surroundings live world played modules later := by
  induction played generalizing live world with
  | nil =>
    refine ⟨[], world, rfl, .nil, by simp, ?_, .nil _⟩
    rw [handlesOf, List.flatMap_nil, List.append_nil]
    exact building
  | cons role rest ih =>
    obtain ⟨module, middle, made, first⟩ := building.build surroundings role
    obtain ⟨modules, later, others, manned⟩ := ih first.building
    refine ⟨module :: modules, later, ?_, ?_⟩
    · rw [List.map_cons, Run.buildModules, made]
      simp only [others]
    · exact {
        plays := .cons first.plays manned.plays
        states := by simpa using ⟨first.state, manned.states⟩
        building := by
          rw [handlesOf_cons, ← List.append_assoc]
          exact manned.building
        numbered := (Numbered.single first.number first.onward).append manned.numbered }

/-- Lanes as they are built. -/
structure Equipped (tally : Nat) (detectors : List Detector) (pipeline : Pipeline)
    (live : List Handle) (world : World) (numbers : List Nat) (lanes : List (Lane Counters))
    (later : World) : Prop where
  ids : lanes.map Lane.id = numbers.map laneOf
  plays : ∀ lane ∈ lanes, List.Forall₂ (Plays tally lane.id detectors pipeline) (roles detectors)
    lane.modules
  states : ∀ lane ∈ lanes, ∀ module ∈ lane.modules, module.state = {}
  building : Building tally (live ++ lanes.flatMap fun lane => handlesOf lane.modules) later
  numbered : Numbered world.bus.store.next later.bus.store.next (lanes.flatMap Lane.modules)

theorem Building.buildLanes {tally : Nat} {live : List Handle} {world : World}
    (building : Building tally live world) {simulation : Simulation Counters}
    (chained : simulation.blueprints = chain tally) {count number : Nat}
    (few : number + count ≤ ConfigError.maxWorkers + 1) : ∃ lanes later,
      simulation.buildLanes count number world = (.ok lanes, later) ∧
      Equipped tally simulation.detectors simulation.config.pipeline live world
        (List.range' number count) lanes later := by
  induction count generalizing live world number with
  | zero =>
    refine ⟨[], world, rfl, rfl, by simp, by simp, ?_, .nil _⟩
    rw [List.flatMap_nil, List.append_nil]
    exact building
  | succ count ih =>
    let surroundings : Surroundings := {
      lane := laneOf number
      detectors := simulation.detectors
      pipeline := simulation.config.pipeline }
    obtain ⟨modules, middle, built, manned⟩ :=
      building.buildModules surroundings (roles simulation.detectors)
    have fewer : number + 1 + count ≤ ConfigError.maxWorkers + 1 := by omega
    obtain ⟨lanes, later, others, equipped⟩ := ih manned.building fewer
    have first : simulation.buildLane number world =
        (.ok { id := laneOf number, modules }, middle) := by
      unfold Simulation.buildLane
      rw [if_neg (by omega), chained, instances_chain]
      have done : Run.buildModules surroundings _ world = _ := built
      simp only [surroundings, laneOf] at done
      simp only [done, laneOf]
    refine ⟨{ id := laneOf number, modules } :: lanes, later, ?_, ?_⟩
    · rw [Simulation.buildLanes, first]
      simp only [others]
    · exact {
        ids := by
          rw [List.range'_succ, List.map_cons, List.map_cons, equipped.ids]
        plays := by simpa using ⟨manned.plays, equipped.plays⟩
        states := by simpa using ⟨manned.states, equipped.states⟩
        building := by
          rw [List.flatMap_cons, ← List.append_assoc]
          exact equipped.building
        numbered := manned.numbered.append equipped.numbered }

end Beamline.Demo
