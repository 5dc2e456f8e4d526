import Beamline.Proofs.CourseLoops
import Beamline.Proofs.NothingLeft

namespace Beamline.Run

open Bus

section Crews

variable {live created : List Handle} {own other : Nat}

theorem crewOf_append_own (mine : ∀ handle ∈ created, handle.lane = laneOf own) :
    crewOf (live ++ created) own = crewOf live own ++ created := by
  rw [crewOf, List.filter_append]
  congr 1
  exact List.filter_eq_self.mpr fun handle member => decide_eq_true (mine handle member)

theorem crewOf_append_other (mine : ∀ handle ∈ created, handle.lane = laneOf own)
    (different : laneOf own ≠ laneOf other) : crewOf (live ++ created) other = crewOf live other := by
  have none : created.filter (fun handle => handle.lane = laneOf other) = [] := by
    refine List.filter_eq_nil_iff.mpr fun handle member => ?_
    rw [mine handle member]
    simpa using different
  rw [crewOf, List.filter_append, none, List.append_nil]
  rfl

end Crews

/-! ## Bindings -/

/-- Delegates that are added to a lane, with empty cells for what they serve. -/
structure Adds (live : List Handle) (cells : Nat → List Cell) (own : Nat) (identity : Identity)
    (wants : List Want) (created : List Handle) (before after : World) : Prop where
  lays : Lays (live ++ created) (Function.update cells own (cells own ++
    wants.map (Cell.new identity.input identity.detector))) after
  receiver : ∀ handle ∈ created, handle.delegate.receiver = identity
  slots : List.Forall₂ (fun (handle : Handle) want =>
    handle.delegate.binding.slot?.isSome = want.isSlot) created wants
  onward : before.bus.store.next ≤ after.bus.store.next

section Bind

variable {live : List Handle} {cells : Nat → List Cell} {world middle after : World} {own : Nat}
  {identity : Identity}

private theorem Lays.addsNothing (lays : Lays live cells world) (own : Nat) (identity : Identity) :
    Adds live cells own identity [] [] world world where
  lays := by
    rw [List.append_nil, List.map_nil, List.append_nil, Function.update_eq_self]
    exact lays
  receiver := by simp
  slots := .nil
  onward := Nat.le_refl _

theorem Adds.append {wants others : List Want} {created further : List Handle}
    (first : Adds live cells own identity wants created world middle)
    (second : Adds (live ++ created) (Function.update cells own (cells own ++
      wants.map (Cell.new identity.input identity.detector))) own identity others further middle
      after) :
    Adds live cells own identity (wants ++ others) (created ++ further) world after where
  lays := by
    have lays := second.lays
    rwa [Function.update_idem, Function.update_self, List.append_assoc, List.append_assoc,
      ← List.map_append] at lays
  receiver handle member := by
    rcases List.mem_append.mp member with old | new
    · exact first.receiver handle old
    · exact second.receiver handle new
  slots := List.rel_append first.slots second.slots
  onward := Nat.le_trans first.onward second.onward

/-- A delegate that is bound and shows an empty cell. -/
theorem Lays.adds (lays : Lays live cells world) (small : own ≤ ConfigError.maxWorkers)
    (lane : identity.lane = laneOf own) {handle : Handle} {bindings later : Bindings} {bus : Bus}
    (bound : Bound live live [handle] bindings later world.bus bus)
    (receiver : handle.delegate.receiver = identity) {want : Want}
    (shown : (Cell.new identity.input identity.detector want).Shown bus.store handle)
    (slot : handle.delegate.binding.slot?.isSome = want.isSlot)
    (onward : world.bus.store.next ≤ bus.store.next) :
    Adds live cells own identity [want] [handle] world { world with bus } where
  lays := by
    have mine : ∀ other ∈ [handle], other.lane = laneOf own := by
      intro other member
      rw [List.mem_singleton.mp member]
      exact (congrArg Identity.lane receiver).trans lane
    have kept (place : Nat) (few : place ≤ ConfigError.maxWorkers) :
        Cell.AllShown bus.store (crewOf live place) (cells place) :=
      (lays.shown place few).of_same fun other member =>
        bound.same other.place (lays.separate.used other (List.mem_filter.mp member).1)
    refine ⟨bound.separate, fun place few => ?_⟩
    by_cases same : place = own
    · subst same
      rw [crewOf_append_own mine, Function.update_self]
      exact List.rel_append (kept place few) (.cons shown .nil)
    · rw [crewOf_append_other mine fun equal => same (laneOf_injective few small equal.symm),
        Function.update_of_ne same]
      exact kept place few
  receiver := by simpa using receiver
  slots := .cons slot .nil
  onward := onward

/-- Code that makes a slot and binds it. -/
theorem Lays.bindSlot (lays : Lays live cells world) (small : own ≤ ConfigError.maxWorkers)
    (lane : identity.lane = laneOf own) (kind : SlotKind) (payload : PayloadType) {flags : Flags}
    (suits : flags.incompatibility (Intake.slot kind payload).kind = none) (handles : List Handle) :
    ∃ (handle : Handle) (slot : Slot) (later : World), (Code.bindSlot kind payload flags).Does
        { state := (), scope := { bindings := { identity, handles } }, world } slot
        { state := (), scope := { bindings := { identity, handles := handles ++ [handle] } },
          world := later } ∧
      handle.delegate.binding.slot? = some slot ∧
      Adds live cells own identity [{ intake := .slot kind payload, flags, suits }] [handle] world
        later := by
  let bindings : Bindings := { identity, handles }
  let slot : Slot := { number := world.bus.store.next, kind, payload }
  let made : Bus := { world.bus with store := (world.bus.store.newSlot kind payload).2 }
  let handle := made.nextHandle identity (.slot slot) flags
  have separate : made.Separate live live := lays.separate.newSlot kind payload
  have suitable : made.messenger.refusal (.slot slot) flags = none := by
    refine separate.sound.refusal_eq_none ?_ fun other same handle member place => ?_
    · cases kind <;> exact suits
    · obtain rfl := Option.some.inj same
      have used := lays.separate.used handle member
      rw [place] at used
      exact Nat.lt_irrefl _ used
  have bound := lays.separate.bound_bindSlot_of_suitable bindings kind payload suitable
  have answer : bindings.bindSlot world.bus kind payload flags = _ :=
    Bindings.bindSlot_of_suitable rfl suitable
  rw [answer] at bound
  have performed : (Request.bindSlot kind payload flags).perform { bindings } world =
      ((.ok slot, { bindings := { bindings with handles := handles ++ [handle] } }),
        { world with bus := (made.register identity (.slot slot) flags).2 }) := by
    simp only [Request.perform, answer]
    rfl
  have asked := @Code.does_ask Unit _ { state := (), scope := { bindings }, world } _ _ _ performed
  have onward : world.bus.store.next ≤ (made.register identity (.slot slot) flags).2.store.next := by
    rw [register_of_suitable suitable]
    exact Nat.le_succ _
  have empty := bound.empty handle (List.mem_singleton.mpr rfl)
  exact ⟨handle, slot, _, asked.bind (Code.does_pure _ slot), rfl, lays.adds small lane bound rfl
    ⟨rfl, rfl, rfl, .slot (List.sublist_nil.mp empty)⟩ rfl onward⟩

/-- Code that registers a filter. -/
theorem Lays.register (lays : Lays live cells world) (small : own ≤ ConfigError.maxWorkers)
    (lane : identity.lane = laneOf own) {binding : Binding Filter} (filter : binding.slot? = none)
    {want : Want} (other : want.isSlot = false)
    (suits : want.flags.incompatibility binding.kind = none)
    (serves : ∀ store : Store,
      (store.filterState world.bus.store.next).delivered = false →
        Intake.Serves store [] want.intake (install world.bus.store binding).1)
    (handles : List Handle) :
    ∃ (handle : Handle) (later : World), (Code.register binding want.flags).Does
        { state := (), scope := { bindings := { identity, handles } }, world } handle
        { state := (), scope := { bindings := { identity, handles := handles ++ [handle] } },
          world := later } ∧
      handle.delegate.binding.slot? = none ∧
      Adds live cells own identity [want] [handle] world later := by
  let bindings : Bindings := { identity, handles }
  let handle := world.bus.nextHandle identity binding want.flags
  have suitable : world.bus.messenger.refusal binding want.flags = none :=
    lays.separate.sound.refusal_eq_none suits (by simp [filter])
  have bound := lays.separate.bound_register_of_suitable bindings filter suitable
  have answer := @Bindings.register_of_suitable bindings world.bus want.flags binding suitable
  rw [answer] at bound
  have performed : (Request.register binding want.flags).perform { bindings } world =
      ((.ok handle, { bindings := { bindings with handles := handles ++ [handle] } }),
        { world with bus := (world.bus.register identity binding want.flags).2 }) := by
    simp only [Request.perform, answer]
    rfl
  have asked := @Code.does_ask Unit _ { state := (), scope := { bindings }, world } _ _ _ performed
  have place : handle.place = .filter world.bus.store.next := by
    cases binding with
    | slot slot => cases filter
    | _ => rfl
  have unslotted : handle.delegate.binding.slot? = none := by
    cases binding with
    | slot slot => cases filter
    | _ => rfl
  have empty := Place.Within.keeps_iff.mp (bound.empty handle (List.mem_singleton.mpr rfl))
  rw [place] at empty
  have onward : world.bus.store.next ≤
      (world.bus.register identity binding want.flags).2.store.next := by
    rw [register_of_suitable suitable]
    exact install_next_le _ _
  exact ⟨handle, _, asked.bind (Code.does_pure _ handle), unslotted, lays.adds small lane bound rfl
    ⟨rfl, rfl, rfl, serves _ empty⟩ (unslotted ▸ other.symm) onward⟩

/-- A module binds what it wants. -/
theorem Lays.bind (lays : Lays live cells world) (small : own ≤ ConfigError.maxWorkers)
    (lane : identity.lane = laneOf own) (want : Want) (handles : List Handle) :
    ∃ (handle : Handle) (later : World), want.bind.Does
        { state := (), scope := { bindings := { identity, handles } }, world }
        handle.delegate.binding.slot?
        { state := (), scope := { bindings := { identity, handles := handles ++ [handle] } },
          world := later } ∧
      Adds live cells own identity [want] [handle] world later := by
  obtain ⟨intake, flags, suits⟩ := want
  cases intake with
  | slot kind payload =>
    obtain ⟨handle, slot, later, does, bound, adds⟩ :=
      lays.bindSlot small lane kind payload suits handles
    refine ⟨handle, later, ?_, adds⟩
    rw [bound]
    exact does.bind (Code.does_pure _ (some slot))
  | filter payload accepts =>
    obtain ⟨handle, later, does, unslotted, adds⟩ := @Lays.register _ _ _ _ _ lays small lane
      (.filter payload { accepts := fun _ message _ => accepts message }) rfl
      { intake := .filter payload accepts, flags, suits } rfl suits
      (fun store bare => @Intake.Serves.filter store [] payload accepts _ bare) handles
    refine ⟨handle, later, ?_, adds⟩
    rw [unslotted]
    exact does.bind (Code.does_pure _ none)
  | anyFilter accepts =>
    obtain ⟨handle, later, does, unslotted, adds⟩ := @Lays.register _ _ _ _ _ lays small lane
      (.anyFilter { accepts := fun _ message name => accepts message (name.getD "") }) rfl
      { intake := .anyFilter accepts, flags, suits } rfl suits
      (fun store bare => @Intake.Serves.anyFilter store [] accepts _ bare) handles
    refine ⟨handle, later, ?_, adds⟩
    rw [unslotted]
    exact does.bind (Code.does_pure _ none)

/-- A module binds all that it wants. -/
theorem Lays.bindAll (lays : Lays live cells world) (small : own ≤ ConfigError.maxWorkers)
    (lane : identity.lane = laneOf own) (wants : List Want) (handles : List Handle) :
    ∃ (created : List Handle) (later : World), (Want.bindAll wants).Does
        { state := (), scope := { bindings := { identity, handles } }, world }
        (created.map fun handle => handle.delegate.binding.slot?)
        { state := (), scope := { bindings := { identity, handles := handles ++ created } },
          world := later } ∧
      Adds live cells own identity wants created world later := by
  induction wants generalizing live cells world handles with
  | nil =>
    refine ⟨[], world, ?_, lays.addsNothing own identity⟩
    rw [List.append_nil]
    exact Code.does_pure _ []
  | cons want rest ih =>
    obtain ⟨handle, middle, first, one⟩ := lays.bind small lane want handles
    obtain ⟨created, later, others, more⟩ := ih one.lays (handles ++ [handle])
    rw [List.append_assoc] at others
    exact ⟨handle :: created, later,
      first.bind (others.bind (Code.does_pure _ (handle.delegate.binding.slot? :: _))),
      one.append more⟩

end Bind

/-! ## Modules -/

theorem Member.Builds.releases {own : Nat} {member : Member} {module : Module Unit}
    (builds : member.Builds own module) : module.behaviour.tearDown = Code.release := by
  rw [builds.behaviour]
  rfl

/-- Modules that are built for a lane. -/
structure Crews (live : List Handle) (cells : Nat → List Cell) (own : Nat) (members : List Member)
    (before : World) (modules : List (Module Unit)) (after : World) : Prop where
  builds : List.Forall₂ (Member.Builds own) members modules
  receiver : ∀ module ∈ modules, ∀ handle ∈ module.bindings.handles,
    handle.delegate.receiver = module.bindings.identity
  lays : Lays (live ++ handlesOf modules)
    (Function.update cells own (cells own ++ members.flatMap Member.cells)) after
  numbered : Numbered before.bus.store.next after.bus.store.next modules

section Modules

variable {live : List Handle} {cells : Nat → List Cell} {world : World} {own : Nat}

theorem Crews.lane {members : List Member} {modules : List (Module Unit)} {after : World}
    (crews : Crews live cells own members world modules after) :
    ∀ handle ∈ handlesOf modules, handle.lane = laneOf own := by
  intro handle member
  obtain ⟨module, among, bound⟩ := mem_handlesOf.mp member
  obtain ⟨origin, _, builds⟩ := forall₂_of_mem_right crews.builds among
  exact (congrArg Identity.lane (crews.receiver module among handle bound)).trans builds.lane

/-- A number of the store is used up for a module. -/
theorem Lays.newIdentity (lays : Lays live cells world) (name : String)
    (detector : Option Detector) (lane : LaneId) (input output : String) :
    Lays live cells (world.newIdentity name detector lane input output).2 where
  separate := lays.separate.frame rfl rfl rfl rfl (Nat.le_succ _) fun slot filled =>
    Nat.lt_succ_of_lt (lays.separate.vacant slot filled)
  shown place few := (lays.shown place few).of_same fun handle _ => by
    cases handle.place <;> rfl

/-- A part is always built. -/
theorem Lays.build (lays : Lays live cells world) (small : own ≤ ConfigError.maxWorkers)
    {surroundings : Surroundings} (lane : surroundings.lane = laneOf own) (member : Member) :
    ∃ module later, member.1.blueprint.build surroundings member.2 world = (.ok module, later) ∧
      Crews live cells own [member] world [module] later := by
  obtain ⟨part, detector⟩ := member
  let identity : Identity := {
    number := world.bus.store.next
    name := part.name
    detector
    lane := surroundings.lane
    input := part.input
    output := part.output }
  have begun := lays.newIdentity part.name detector surroundings.lane part.input part.output
  obtain ⟨created, later, binding, adds⟩ :=
    @Lays.bindAll _ _ _ _ identity begun small lane (part.wants detector) []
  let slots := created.map fun handle => handle.delegate.binding.slot?
  let module : Module Unit := {
    bindings := { identity, handles := created }
    behaviour := part.behaviour detector slots
    state := () }
  have does : (part.blueprint.construct surroundings detector).Does _
      (part.behaviour detector slots, ()) _ := binding.bind (Code.does_pure _ (_, ()))
  refine ⟨module, later, Blueprint.build_of_does rfl does, ?_⟩
  have onward : world.bus.store.next < later.bus.store.next := adds.onward
  exact {
    builds := .cons ⟨lane, rfl, rfl, adds.slots, rfl⟩ .nil
    receiver := by simpa using adds.receiver
    lays := by
      rw [handlesOf_cons, handlesOf, List.flatMap_nil, List.append_nil, List.flatMap_cons,
        List.flatMap_nil, List.append_nil]
      exact adds.lays
    numbered := .single rfl onward }

theorem Crews.append {members others : List Member} {modules further : List (Module Unit)}
    {middle later : World} (first : Crews live cells own members world modules middle)
    (second : Crews (live ++ handlesOf modules)
      (Function.update cells own (cells own ++ members.flatMap Member.cells)) own others middle
      further later) :
    Crews live cells own (members ++ others) world (modules ++ further) later where
  builds := List.rel_append first.builds second.builds
  receiver := List.forall_mem_append.mpr ⟨first.receiver, second.receiver⟩
  lays := by
    have lays := second.lays
    rwa [Function.update_idem, Function.update_self, List.append_assoc, List.append_assoc,
      ← List.flatMap_append, ← handlesOf_append] at lays
  numbered := first.numbered.append second.numbered

theorem Lays.buildModules (lays : Lays live cells world) (small : own ≤ ConfigError.maxWorkers)
    {surroundings : Surroundings} (lane : surroundings.lane = laneOf own) (members : List Member) :
    ∃ modules later,
      Run.buildModules surroundings
          (members.map fun member => (member.1.blueprint, member.2)) world = (.ok modules, later) ∧
        Crews live cells own members world modules later := by
  induction members generalizing live cells world with
  | nil =>
    refine ⟨[], world, rfl, .nil, by simp, ?_, .nil _⟩
    rw [handlesOf, List.flatMap_nil, List.append_nil, List.flatMap_nil, List.append_nil,
      Function.update_eq_self]
    exact lays
  | cons member rest ih =>
    obtain ⟨module, middle, built, first⟩ := lays.build small lane member
    obtain ⟨modules, later, others, crews⟩ := ih first.lays
    refine ⟨module :: modules, later, ?_, first.append crews⟩
    rw [List.map_cons, Run.buildModules, built]
    simp only [others]

end Modules

/-! ## Lanes -/

def membersOf (parts : List Part) (detectors : List Detector) : List Member :=
  parts.flatMap fun part =>
    if part.perDetector then detectors.map fun detector => (part, some detector)
    else [(part, none)]

private theorem instances_blueprint (parts : List Part) (detectors : List Detector) :
    Blueprint.instances (parts.map Part.blueprint) detectors =
      (membersOf parts detectors).map fun member => (member.1.blueprint, member.2) := by
  rw [Blueprint.instances, membersOf, List.flatMap_map, List.map_flatMap]
  apply List.flatMap_congr
  intro part _
  cases shared : part.perDetector <;> simp [Part.blueprint, shared]

/-- Lanes that are built of the same modules, and are the last ones so far. -/
structure Equips (live : List Handle) (cells : Nat → List Cell) (members : List Member)
    (number : Nat) (before : World) (lanes : List (Lane Unit)) (after : World) : Prop where
  built : AllBuiltFrom (live ++ handlesOf (lanes.flatMap Lane.modules)) members number lanes
  receiver : ∀ module ∈ lanes.flatMap Lane.modules, ∀ handle ∈ module.bindings.handles,
    handle.delegate.receiver = module.bindings.identity
  lays : Lays (live ++ handlesOf (lanes.flatMap Lane.modules))
    (fun place => if number ≤ place ∧ place < number + lanes.length
      then members.flatMap Member.cells else cells place) after
  numbered : Numbered before.bus.store.next after.bus.store.next (lanes.flatMap Lane.modules)
  others : ∀ place < number,
    crewOf (live ++ handlesOf (lanes.flatMap Lane.modules)) place = crewOf live place

theorem Equips.releasing {live : List Handle} {cells : Nat → List Cell} {members : List Member}
    {number : Nat} {world later : World} {lanes : List (Lane Unit)}
    (equips : Equips live cells members number world lanes later) :
    Releasing (lanes.flatMap Lane.modules) where
  releases := by
    intro module member
    obtain ⟨lane, listed, among⟩ := List.mem_flatMap.mp member
    obtain ⟨place, found⟩ := List.getElem?_of_mem listed
    obtain ⟨origin, _, builds⟩ := forall₂_of_mem_right (equips.built place lane found).builds among
    exact builds.releases
  receiver := equips.receiver
  apart := equips.numbered.increasing.imp Nat.ne_of_lt

section Lanes

variable {live : List Handle} {cells : Nat → List Cell} {world : World} {number : Nat}

theorem Crews.lane_ne {members : List Member} {modules : List (Module Unit)} {middle : World}
    (crews : Crews live cells number members world modules middle)
    (small : number ≤ ConfigError.maxWorkers) {place : Nat} (few : place ≤ ConfigError.maxWorkers)
    (different : place ≠ number) : crewOf (live ++ handlesOf modules) place = crewOf live place :=
  crewOf_append_other crews.lane fun same => different (laneOf_injective few small same.symm)

/-- A lane and those after it. -/
theorem Crews.cons {members : List Member} {modules : List (Module Unit)} {middle later : World}
    {lanes : List (Lane Unit)} (crews : Crews live cells number members world modules middle)
    (small : number ≤ ConfigError.maxWorkers) (bare : crewOf live number = [])
    (empty : cells number = [])
    (equips : Equips (live ++ handlesOf modules)
      (Function.update cells number (cells number ++ members.flatMap Member.cells)) members
      (number + 1) middle lanes later) :
    Equips live cells members number world ({ id := laneOf number, modules } :: lanes) later := by
  let lane : Lane Unit := { id := laneOf number, modules }
  have all : live ++ handlesOf ((lane :: lanes).flatMap Lane.modules) =
      live ++ handlesOf modules ++ handlesOf (lanes.flatMap Lane.modules) := by
    rw [List.flatMap_cons, handlesOf_append, List.append_assoc]
  have crew : crewOf (live ++ handlesOf ((lane :: lanes).flatMap Lane.modules)) number =
      handlesOf modules := by
    rw [all, equips.others number (Nat.lt_succ_self _), crewOf_append_own crews.lane, bare,
      List.nil_append]
  refine ⟨?_, ?_, ?_, crews.numbered.append equips.numbered, ?_⟩
  · exact allBuiltFrom_cons.mpr ⟨⟨small, rfl, crews.builds, crew⟩, all ▸ equips.built⟩
  · rw [List.flatMap_cons, List.forall_mem_append]
    exact ⟨crews.receiver, equips.receiver⟩
  · rw [all]
    refine Eq.mp (congrArg (Lays _ · later) (funext fun place => ?_)) equips.lays
    rw [List.length_cons]
    by_cases here : place = number
    · subst here
      rw [if_neg (by omega), if_pos (by omega), Function.update_self, empty, List.nil_append]
    · rw [Function.update_of_ne here]
      by_cases within : number + 1 ≤ place ∧ place < number + 1 + lanes.length
      · rw [if_pos within, if_pos (by omega)]
      · rw [if_neg within, if_neg (by omega)]
  · intro place below
    rw [all, equips.others place (by omega)]
    exact crews.lane_ne small (by omega) (by omega)

/-- Lanes of parts are always built, as long as there are numbers for them. -/
theorem Lays.buildLanes (lays : Lays live cells world) {simulation : Simulation Unit}
    {parts : List Part} (chained : simulation.blueprints = parts.map Part.blueprint) {count : Nat}
    (few : number + count ≤ ConfigError.maxWorkers + 1)
    (unmanned : ∀ place ≤ ConfigError.maxWorkers, number ≤ place →
      crewOf live place = [] ∧ cells place = []) :
    ∃ lanes later, simulation.buildLanes count number world = (.ok lanes, later) ∧
      lanes.length = count ∧
      Equips live cells (membersOf parts simulation.detectors) number world lanes later := by
  induction count generalizing live cells world number with
  | zero =>
    refine ⟨[], world, rfl, rfl, ?_⟩
    have outside (place : Nat) : ¬(number ≤ place ∧ place < number + 0) := by omega
    refine ⟨nofun, by simp, ?_, .nil _, ?_⟩
    · simp only [List.length_nil, outside, if_false, List.flatMap_nil, handlesOf, List.append_nil]
      exact lays
    · intro place _
      rw [List.flatMap_nil, handlesOf, List.flatMap_nil, List.append_nil]
  | succ count ih =>
    let members := membersOf parts simulation.detectors
    let surroundings : Surroundings := {
      lane := laneOf number
      detectors := simulation.detectors
      pipeline := simulation.config.pipeline }
    have small : number ≤ ConfigError.maxWorkers := by omega
    obtain ⟨modules, middle, made, crews⟩ :=
      @Lays.buildModules live cells world number lays small surroundings rfl members
    have vacant : ∀ place ≤ ConfigError.maxWorkers, number + 1 ≤ place →
        crewOf (live ++ handlesOf modules) place = [] ∧
          Function.update cells number (cells number ++ members.flatMap Member.cells) place = [] := by
      intro place few above
      rw [crews.lane_ne small few (by omega), Function.update_of_ne (by omega)]
      exact unmanned place few (by omega)
    obtain ⟨lanes, later, others, length, equips⟩ := ih crews.lays (by omega) vacant
    have first : simulation.buildLane number world =
        (.ok { id := laneOf number, modules }, middle) := by
      unfold Simulation.buildLane
      rw [if_neg (by omega), chained, instances_blueprint]
      have done : Run.buildModules surroundings _ world = _ := made
      simp only [surroundings, members, laneOf] at done
      simp only [done, laneOf]
    refine ⟨{ id := laneOf number, modules } :: lanes, later, ?_, congrArg (· + 1) length, ?_⟩
    · rw [Simulation.buildLanes, first]
      simp only [others]
    · obtain ⟨bare, empty⟩ := unmanned number small (Nat.le_refl _)
      exact crews.cons small bare empty equips

end Lanes

end Beamline.Run
