import Beamline.Proofs.LoopEnds
import Beamline.Proofs.RegistryBijection
import Beamline.Proofs.StageCode

namespace Beamline.Bus

namespace Sound

variable {bus : Bus} {returned rest : List Handle}

theorem remove_first {handle : Handle} (sound : bus.Sound returned (handle :: rest)) :
    ∃ messenger, bus.remove handle = (.ok (), { bus with messenger }) ∧
      ({ bus with messenger } : Bus).Sound returned rest ∧
      messenger.stats =
        { bus.messenger.stats with removed := bus.messenger.stats.removed + 1 } := by
  have left := (Usage.Sound.remove sound handle).bus
  obtain ⟨success, _⟩ := sound.lists.erase List.mem_cons_self rfl
  have others : (handle :: rest).filter (fun other => other.id != handle.id) = rest := by
    obtain ⟨above, _⟩ := List.pairwise_cons.mp sound.lists.ordered
    rw [List.filter_cons_of_neg (by simp), List.filter_eq_self]
    intro other member
    simpa using Nat.ne_of_gt (above other member)
  rw [others] at left
  rcases erased : bus.messenger.registry.erase handle with ⟨fault, registry⟩
  change (bus.messenger.registry.erase handle).1 = none at success
  rw [erased] at success
  subst success
  have removed : bus.remove handle = (.ok (), { bus with messenger := { bus.messenger with
      registry
      stats := { bus.messenger.stats with removed := bus.messenger.stats.removed + 1 } } }) := by
    simp only [Bus.remove, Messenger.remove, erased]
  change (bus.remove handle).2.Sound returned rest at left
  rw [removed] at left
  exact ⟨_, removed, left, rfl⟩

/-- Delegates that are removed together. -/
theorem removeAll {handles : List Handle} (sound : bus.Sound returned (handles ++ rest)) :
    ∃ messenger, Bindings.removeAll bus handles = (none, { bus with messenger }) ∧
      ({ bus with messenger } : Bus).Sound returned rest ∧
      messenger.stats = { bus.messenger.stats with
        removed := bus.messenger.stats.removed + handles.length } := by
  induction handles generalizing bus with
  | nil => exact ⟨bus.messenger, rfl, sound, rfl⟩
  | cons handle others ih =>
    obtain ⟨middle, removed, left, counted⟩ := sound.remove_first
    obtain ⟨messenger, gone, empty, total⟩ := ih left
    refine ⟨messenger, ?_, empty, ?_⟩
    · simp only [Bindings.removeAll, removed, gone]
    · rw [total, List.length_cons, Nat.add_comm others.length 1, ← Nat.add_assoc]
      simp only [counted]

end Sound

theorem Sound.delegatesOf_eq_nil {bus : Bus} {returned live : List Handle}
    (sound : bus.Sound returned live) {identity : Identity}
    (others : ∀ handle ∈ live, handle.delegate.receiver.number ≠ identity.number) :
    bus.messenger.delegatesOf identity = [] := by
  have none : bus.messenger.registry.handles.filter
      (fun handle => handle.delegate.receiver.same identity) = [] := by
    apply List.filter_eq_nil_iff.mpr
    intro handle member
    have listed := (Registry.Lists.mem_handles sound.lists).mp member
    simpa [Identity.same] using others handle listed
  simp [Messenger.delegatesOf, Registry.delegatesOf, none, inOrder]

end Beamline.Bus

namespace Beamline.Run

open Bus

/-- A world from which delegates were removed while nothing else happened. -/
structure Removed (returned rest : List Handle) (before after : World) : Prop where
  same : ∃ messenger, after = { before with bus.messenger := messenger }
  sound : after.bus.Sound returned rest
  stats : ∃ removed, after.bus.messenger.stats = { before.bus.messenger.stats with removed }

theorem Removed.trans {returned rest remaining : List Handle} {before middle after : World}
    (first : Removed returned rest before middle)
    (second : Removed returned remaining middle after) :
    Removed returned remaining before after := by
  obtain ⟨_, rfl⟩ := first.same
  obtain ⟨messenger, rfl⟩ := second.same
  obtain ⟨_, counted⟩ := first.stats
  obtain ⟨removed, total⟩ := second.stats
  refine ⟨⟨messenger, rfl⟩, second.sound, removed, ?_⟩
  rw [total, counted]

variable {σ : Type}

def Module.released (module : Module σ) : Module σ :=
  { module with bindings.handles := [] }

/-- Modules with numbers of their own that release their bindings in the end. -/
structure Releasing (modules : List (Module σ)) : Prop where
  releases : ∀ module ∈ modules, module.behaviour.tearDown = Code.release
  receiver : ∀ module ∈ modules, ∀ handle ∈ module.bindings.handles,
    handle.delegate.receiver = module.bindings.identity
  apart : modules.Pairwise fun module later =>
    module.bindings.identity.number ≠ later.bindings.identity.number

section TearDown

variable {returned rest : List Handle} {world : World}

private theorem finish_tearDown {module : Module σ}
    (releases : module.behaviour.tearDown = Code.release)
    (sound : world.bus.Sound returned (module.bindings.handles ++ rest))
    (others : ∀ handle ∈ rest,
      handle.delegate.receiver.number ≠ module.bindings.identity.number) :
    ∃ later, module.tearDown.finish world = ((.ok (), module.released), later) ∧
      Removed returned rest world later := by
  obtain ⟨messenger, gone, left, counted⟩ := sound.removeAll
  have performed : Request.perform .release { bindings := module.bindings } world =
      ((.ok (), { bindings := { module.bindings with handles := [] } }),
        { world with bus.messenger := messenger }) := by
    simp only [Request.perform, Bindings.release, gone]
  have asked := @Code.does_ask σ _
    { state := module.state, scope := { bindings := module.bindings }, world } _ _ _ performed
  have releasing : Code.Does (Code.release : Code σ Unit)
      { state := module.state, scope := { bindings := module.bindings }, world } ()
      { state := module.state, scope := { bindings := { module.bindings with handles := [] } },
        world := { world with bus.messenger := messenger } } :=
    asked.bind (Code.does_pure _ ())
  have called : (module.call module.behaviour.tearDown none).finish world =
      ((.ok (), module.released, none), { world with bus.messenger := messenger }) := by
    rw [releases]
    exact releasing.call
  refine ⟨{ world with bus.messenger := messenger }, ?_, ⟨messenger, rfl⟩, left, _, counted⟩
  have none : ((messenger.delegatesOf module.released.identity).length : Nat) = 0 :=
    congrArg List.length (left.delegatesOf_eq_nil others)
  have asked : (Process.ask (.delegatesOf module.released.identity)).finish
      { world with bus.messenger := messenger } =
        ((0 : Nat), { world with bus.messenger := messenger }) :=
    congrArg (fun left : Nat => (left, _)) none
  exact (Process.finish_bind called).trans (Process.finish_bind asked)

private theorem finish_tearDownModules {modules : List (Module σ)} (releasing : Releasing modules)
    (sound : world.bus.Sound returned (handlesOf modules ++ rest))
    (others : ∀ module ∈ modules, ∀ handle ∈ rest,
      handle.delegate.receiver.number ≠ module.bindings.identity.number) :
    ∃ later, (tearDownModules modules).finish world =
        ((.ok (), modules.map Module.released), later) ∧
      Removed returned rest world later := by
  induction modules generalizing world with
  | nil => exact ⟨world, rfl, ⟨world.bus.messenger, rfl⟩, sound, _, rfl⟩
  | cons module later ih =>
    obtain ⟨above, apart⟩ := List.pairwise_cons.mp releasing.apart
    rw [handlesOf_cons, List.append_assoc] at sound
    have foreign : ∀ handle ∈ handlesOf later ++ rest,
        handle.delegate.receiver.number ≠ module.bindings.identity.number := by
      intro handle member
      rcases List.mem_append.mp member with bound | outside
      · obtain ⟨owner, among, bound⟩ := mem_handlesOf.mp bound
        rw [releasing.receiver owner (List.mem_cons_of_mem _ among) handle bound]
        exact (above owner among).symm
      · exact others module List.mem_cons_self handle outside
    obtain ⟨middle, first, removed⟩ :=
      finish_tearDown (releasing.releases module List.mem_cons_self) sound foreign
    have remaining : Releasing later := {
      releases := fun other member => releasing.releases other (List.mem_cons_of_mem _ member)
      receiver := fun other member => releasing.receiver other (List.mem_cons_of_mem _ member)
      apart }
    obtain ⟨last, further, gone⟩ := ih remaining removed.sound
      fun other member => others other (List.mem_cons_of_mem _ member)
    exact ⟨last, (Process.finish_bind first).trans (Process.finish_bind further),
      removed.trans gone⟩

def Lane.released (lane : Lane σ) : Lane σ :=
  { lane with modules := lane.modules.map Module.released }

theorem finish_tearDownLanes {lanes : List (Lane σ)}
    (releasing : Releasing (lanes.flatMap Lane.modules))
    (sound : world.bus.Sound returned (handlesOf (lanes.flatMap Lane.modules))) :
    ∃ later, (tearDownLanes lanes).finish world = ((.ok (), lanes.map Lane.released), later) ∧
      Removed returned [] world later := by
  induction lanes generalizing world with
  | nil => exact ⟨world, rfl, ⟨world.bus.messenger, rfl⟩, sound, _, rfl⟩
  | cons lane rest ih =>
    rw [List.flatMap_cons] at releasing sound
    rw [handlesOf_append] at sound
    obtain ⟨releases, receiver, apart⟩ := releasing
    obtain ⟨first, others, across⟩ := List.pairwise_append.mp apart
    have foreign : ∀ module ∈ lane.modules, ∀ handle ∈ handlesOf (rest.flatMap Lane.modules),
        handle.delegate.receiver.number ≠ module.bindings.identity.number := by
      intro module member handle bound
      obtain ⟨owner, among, bound⟩ := mem_handlesOf.mp bound
      rw [receiver owner (List.mem_append_right _ among) handle bound]
      exact (across module member owner among).symm
    obtain ⟨middle, torn, removed⟩ := finish_tearDownModules {
      releases := fun module member => releases module (List.mem_append_left _ member)
      receiver := fun module member => receiver module (List.mem_append_left _ member)
      apart := first } sound foreign
    obtain ⟨later, further, gone⟩ := ih {
      releases := fun module member => releases module (List.mem_append_right _ member)
      receiver := fun module member => receiver module (List.mem_append_right _ member)
      apart := others } removed.sound
    exact ⟨later, (Process.finish_bind torn).trans (Process.finish_bind further),
      removed.trans gone⟩

theorem dropLanes_released (lanes : List (Lane σ)) (world : World) :
    dropLanes (lanes.map Lane.released) world = world := by
  have dropped (modules : List (Module σ)) : (modules.map Module.released).foldl
      (fun world module => module.drop world) world = world := by
    induction modules with
    | nil => rfl
    | cons module rest ih => exact ih
  induction lanes with
  | nil => rfl
  | cons lane rest ih =>
    refine Eq.trans ?_ ih
    exact congrArg (dropLanes (rest.map Lane.released)) (dropped lane.modules)

theorem conclude_of_empty (simulation : Simulation σ) (modulesPerLane : Nat)
    (sound : world.bus.Sound returned []) :
    let stats := world.bus.messenger.stats
    simulation.conclude modulesPerLane world = (.ok {
      events := simulation.config.events
      lanes := simulation.config.workers
      modulesPerLane
      dispatched := stats.dispatched
      deliveries := stats.deliveries
      unreceived := stats.unreceived }, { world with metrics := world.metrics.publish stats }) := by
  have lists := Usage.Sound.lists sound
  have verified : world.bus.messenger.verify = .ok () := by
    unfold Messenger.verify
    rw [lists.bijective.inconsistency_eq_none]
  have empty : world.bus.messenger.isEmpty = true := by
    simp [Messenger.isEmpty, Messenger.delegateCount, lists.size_index]
  simp only [Simulation.conclude, verified, empty, if_true]

end TearDown

/-! ## Runs in which every stage succeeds -/

theorem extends_performNoted :
    Extends (S := LaneOperations) LaneOperation.performNoted LaneOperation.perform
      (Prod.fst : Observed → World) :=
  fun _ _ => ⟨rfl, rfl⟩

theorem Simulation.run_of_work {simulation : Simulation σ} {turns : List Nat}
    {world built last later : World} {first : Lane σ} {lanes finished released : List (Lane σ)}
    (building : simulation.buildLanes simulation.config.workers.toNat 0 world =
      (.ok (first :: lanes), built))
    (worked : simulation.work turns (first :: lanes) built = (.ok (), finished, last))
    (tearing : (tearDownLanes finished).finish last = ((.ok (), released), later)) :
    simulation.run turns world =
      let (result, world) :=
        simulation.conclude first.modules.length (dropLanes released later)
      { result := result.mapError .error, world, lanes := released } := by
  simp only [run, building, worked, tearing, Stop.both]

theorem Simulation.run_of_stop {simulation : Simulation σ} {turns : List Nat}
    {world built last : World} {lanes stopped : List (Lane σ)} {stop : Stop}
    (building : simulation.buildLanes simulation.config.workers.toNat 0 world = (.ok lanes, built))
    (worked : simulation.work turns lanes built = (.error stop, stopped, last)) :
    ∃ stop, (simulation.run turns world).result = .error stop := by
  simp only [run, building, worked]
  cases stop with
  | fault fault => exact ⟨_, rfl⟩
  | error error =>
    rcases torn : (tearDownLanes stopped).finish last with
      ⟨⟨(error | fault) | _, released⟩, later⟩ <;> simp [torn, Stop.both]

theorem Simulation.bus_conclude (simulation : Simulation σ) (modulesPerLane : Nat) (world : World) :
    (simulation.conclude modulesPerLane world).2.bus = world.bus := by
  simp only [conclude]
  split
  · rfl
  · split <;> rfl

/-- Wherever a run stops, its lanes are dropped last, and torn down before unless there was a fault. -/
theorem Simulation.bus_run (simulation : Simulation σ) {turns : List Nat}
    {world built last later : World} {lanes left released : List (Lane σ)}
    {result tornDown : Except Stop Unit}
    (building : simulation.buildLanes simulation.config.workers.toNat 0 world = (.ok lanes, built))
    (worked : simulation.work turns lanes built = (result, left, last))
    (tearing : (tearDownLanes left).finish last = ((tornDown, released), later)) :
    (simulation.run turns world).world.bus = (dropLanes left last).bus ∨
      (simulation.run turns world).world.bus = (dropLanes released later).bus := by
  simp only [run, building, worked]
  cases faulty : result with
  | error stop =>
    cases stop with
    | fault fault => exact .inl rfl
    | error error =>
      right
      simp only [tearing]
      split
      · rfl
      · exact simulation.bus_conclude _ _
  | ok _ =>
    right
    simp only [tearing]
    split
    · rfl
    · exact simulation.bus_conclude _ _

theorem Simulation.processEvents_of_noted {simulation : Simulation σ} {turns : List Nat}
    {lanes : List (Lane σ)} {prepared : World} {results : List (Except Stop Nat × Lane σ)}
    {observed : Observed}
    (ran : runScheduled LaneOperation.performNoted (simulation.loops lanes) turns
      ({ prepared with aborting := false }, []) = (results, observed)) :
    simulation.processEvents turns lanes prepared =
      (LaneEnds.together (results.map Prod.fst), results.map Prod.snd, observed.1) := by
  obtain ⟨same, ended⟩ := runScheduled_of_extends extends_performNoted (simulation.loops lanes)
    turns ({ prepared with aborting := false }, [])
  rw [ran] at same ended
  simp only [processEvents, ← same, ← ended]

theorem Simulation.run_of_stages {simulation : Simulation σ} {turns : List Nat}
    {world built prepared last later : World} {first : Lane σ}
    {lanes finished released : List (Lane σ)} {results : List (Except Stop Nat × Lane σ)}
    {observed : Observed}
    (building : simulation.buildLanes simulation.config.workers.toNat 0 world =
      (.ok (first :: lanes), built))
    (setUp : (stageInTurn .setUp Behaviour.setUp (first :: lanes)).finish built =
      ((.ok (), first :: lanes), prepared))
    (ran : runScheduled LaneOperation.performNoted (simulation.loops (first :: lanes)) turns
      ({ prepared with aborting := false }, []) = (results, observed))
    (completed : ∀ result ∈ results, ∃ count, result.1 = .ok count)
    (finishing : (stageInTurn .finish Behaviour.finish (results.map Prod.snd)).finish observed.1 =
      ((.ok (), finished), last))
    (tearing : (tearDownLanes finished).finish last = ((.ok (), released), later)) :
    simulation.notes turns world = observed.2 ∧
      simulation.run turns world =
        let (result, world) :=
          simulation.conclude first.modules.length (dropLanes released later)
        { result := result.mapError .error, world, lanes := released } := by
  have together : LaneEnds.together (results.map Prod.fst) = .ok () :=
    LaneEnds.together_of_ok (by simpa using completed)
  have processed := simulation.processEvents_of_noted ran
  have worked : simulation.work turns (first :: lanes) built = (.ok (), finished, last) := by
    simp only [work, setUp, processed, together, finishing]
  constructor
  · simp only [notes, building, setUp, ran]
  · exact run_of_work building worked tearing

theorem Simulation.run_of_fault {simulation : Simulation σ} {turns : List Nat}
    {world built prepared : World} {lanes : List (Lane σ)}
    {results : List (Except Stop Nat × Lane σ)} {observed : Observed} {fault : Fault}
    (building : simulation.buildLanes simulation.config.workers.toNat 0 world = (.ok lanes, built))
    (setUp : (stageInTurn .setUp Behaviour.setUp lanes).finish built = ((.ok (), lanes), prepared))
    (ran : runScheduled LaneOperation.performNoted (simulation.loops lanes) turns
      ({ prepared with aborting := false }, []) = (results, observed))
    (faulty : LaneEnds.together (results.map Prod.fst) = .error (.fault fault)) :
    (simulation.run turns world).result = .error (.fault fault) := by
  have processed := simulation.processEvents_of_noted ran
  simp only [run, building, work, setUp, processed, faulty]

end Beamline.Run
