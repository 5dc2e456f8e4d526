import Beamline.Proofs.DemoBuild
import Beamline.Proofs.MetricsFrame
import Beamline.Proofs.TearDown
import Beamline.Proofs.Turns

/-!
When the totals of a messenger reach the counters of the process. Nothing but the last step of a run
publishes them, so they are there if the run succeeds and missing otherwise.
-/

namespace Beamline.Telemetry

/-- What the totals of the bus were raised by from one state of the counters to another: what a
messenger counted. -/
structure Metrics.Raised (before : Metrics) (stats : Bus.Stats) (after : Metrics) : Prop where
  dispatched : after.dispatched = before.dispatched + stats.dispatched
  deliveries : after.deliveries = before.deliveries + stats.deliveries
  failed : after.failed = before.failed + stats.failed
  unreceived : after.unreceived = before.unreceived + stats.unreceived

abbrev Metrics.Unraised (before after : Metrics) : Prop :=
  before.Raised {} after

namespace Metrics

variable {before after : Metrics}

private theorem unraised_refl (metrics : Metrics) : metrics.Unraised metrics := ⟨rfl, rfl, rfl, rfl⟩

theorem Unraised.publish (unraised : before.Unraised after) (stats : Bus.Stats) :
    before.Raised stats (after.publish stats) where
  dispatched := congrArg (· + stats.dispatched) unraised.dispatched
  deliveries := congrArg (· + stats.deliveries) unraised.deliveries
  failed := congrArg (· + stats.failed) unraised.failed
  unreceived := congrArg (· + stats.unreceived) unraised.unreceived

/-- Unchanged totals were raised by what a messenger counted just if it counted nothing. -/
theorem Unraised.raised_iff (unraised : before.Unraised after) {stats : Bus.Stats} :
    before.Raised stats after ↔ stats.dispatched = 0 ∧ stats.deliveries = 0 ∧ stats.failed = 0 ∧
      stats.unreceived = 0 := by
  obtain ⟨dispatched, deliveries, failed, unreceived⟩ := unraised
  constructor
  · intro raised
    obtain ⟨further, more, others, rest⟩ := raised
    simp only at *
    omega
  · intro nothing
    constructor <;> simp only at * <;> omega

end Metrics

end Beamline.Telemetry

namespace Beamline.Run

open Bus Telemetry

variable {σ α : Type}

/-! ## What leaves the totals of the bus alone -/

section Unraised

variable {before : Metrics} {world : World}

theorem LaneOperation.perform_unraised (operation : LaneOperation)
    (unraised : before.Unraised world.metrics) :
    before.Unraised (operation.perform world).2.metrics := by
  cases operation with
  | request scope wanted =>
    have same : (wanted.perform scope world).2.metrics = world.metrics := by simp
    exact same ▸ unraised
  | _ => exact ⟨unraised.1, unraised.2, unraised.3, unraised.4⟩

theorem Process.finish_unraised (process : Process α) (unraised : before.Unraised world.metrics) :
    before.Unraised (process.finish world).2.metrics := by
  induction process generalizing world with
  | done result => exact unraised
  | call operation next ih => exact ih _ (LaneOperation.perform_unraised operation unraised)

private theorem runScheduled_unraised (processes : List (Process α)) (turns : List Nat)
    (unraised : before.Unraised world.metrics) :
    before.Unraised (runScheduled LaneOperation.perform processes turns world).2.metrics :=
  @runScheduled_keeps LaneOperations World α LaneOperation.perform
    (fun _ world => before.Unraised world.metrics)
    (fun _ _ operation _ _ _ unraised => LaneOperation.perform_unraised operation unraised) turns
    processes world unraised

namespace Simulation

variable (simulation : Simulation σ) (turns : List Nat) (lanes : List (Lane σ))

private theorem processEvents_unraised (unraised : before.Unraised world.metrics) :
    before.Unraised (simulation.processEvents turns lanes world).2.2.metrics :=
  @runScheduled_unraised _ before { world with aborting := false } _ turns unraised

private theorem work_unraised (unraised : before.Unraised world.metrics) :
    before.Unraised (simulation.work turns lanes world).2.2.metrics := by
  have setUp := Process.finish_unraised (stageInTurn .setUp Behaviour.setUp lanes) unraised
  unfold work
  generalize (stageInTurn .setUp Behaviour.setUp lanes).finish world = prepared at setUp ⊢
  obtain ⟨⟨stop | _, ready⟩, second⟩ := prepared
  · exact setUp
  have processed := simulation.processEvents_unraised turns ready setUp
  dsimp only at processed ⊢
  generalize simulation.processEvents turns ready second = ran at processed ⊢
  obtain ⟨stop | _, left, third⟩ := ran
  · exact processed
  · exact Process.finish_unraised _ processed

end Simulation

end Unraised

/-! ## What a run publishes -/

/-- What becomes of the totals of the bus, by the way a run ends. -/
def Totalled (before : Metrics) : Except Stop Summary → World → Prop
  | .ok _, after => before.Raised after.bus.messenger.stats after.metrics
  | .error _, after => before.Unraised after.metrics

namespace Simulation

variable (simulation : Simulation σ) {before : Metrics} {world : World}

theorem conclude_totalled (modulesPerLane : Nat) (unraised : before.Unraised world.metrics) :
    let concluded := simulation.conclude modulesPerLane world
    Totalled before (concluded.1.mapError .error) concluded.2 := by
  unfold conclude
  dsimp only
  split
  · exact unraised
  · split
    · exact unraised.publish world.bus.messenger.stats
    · exact unraised

theorem run_totalled (turns : List Nat) (world : World) :
    let outcome := simulation.run turns world
    Totalled world.metrics outcome.result outcome.world := by
  have unraised : world.metrics.Unraised
      (simulation.buildLanes simulation.config.workers.toNat 0 world).2.metrics := by
    rw [buildLanes_metrics]
    exact Metrics.unraised_refl _
  unfold run
  generalize simulation.buildLanes simulation.config.workers.toNat 0 world = built at unraised ⊢
  obtain ⟨stop | lanes, built⟩ := built
  · exact unraised
  have worked := simulation.work_unraised turns lanes unraised
  dsimp only at worked ⊢
  generalize simulation.work turns lanes built = ended at worked ⊢
  obtain ⟨ended, left, last⟩ := ended
  have dropped {lanes : List (Lane σ)} {later : World}
      (unraised : world.metrics.Unraised later.metrics) :
      world.metrics.Unraised (dropLanes lanes later).metrics := by
    rw [dropLanes_metrics]
    exact unraised
  have torn := Process.finish_unraised (tearDownLanes left) worked
  rcases ended with (error | fault) | _
  · dsimp only
    split
    · exact dropped torn
    · exact simulation.conclude_totalled _ (dropped torn)
  · exact dropped worked
  · dsimp only
    split
    · exact dropped torn
    · exact simulation.conclude_totalled _ (dropped torn)

/-- A run that succeeds publishes what its messenger counted. Any other run publishes nothing, also
where its messenger counted something, such as the dispatch with which the run failed. -/
theorem totals_published_by_success (turns : List Nat) (world : World) :
    let outcome := simulation.run turns world
    let stats := outcome.world.bus.messenger.stats
    (∀ summary, outcome.result = .ok summary →
        world.metrics.Raised stats outcome.world.metrics) ∧
      (∀ stop, outcome.result = .error stop → world.metrics.Unraised outcome.world.metrics) ∧
      (world.metrics.Raised stats outcome.world.metrics ↔
        (∃ summary, outcome.result = .ok summary) ∨ stats.dispatched = 0 ∧
          stats.deliveries = 0 ∧ stats.failed = 0 ∧ stats.unreceived = 0) := by
  have totalled := simulation.run_totalled turns world
  generalize simulation.run turns world = outcome at totalled ⊢
  obtain ⟨stop | summary, after, lanes⟩ := outcome
  · have unraised : world.metrics.Unraised after.metrics := totalled
    refine ⟨fun _ same => ?_, fun _ _ => unraised, ?_⟩
    · cases same
    · simpa using unraised.raised_iff
  · have raised : world.metrics.Raised after.bus.messenger.stats after.metrics := totalled
    refine ⟨fun _ _ => raised, fun _ same => ?_, ?_⟩
    · cases same
    · simpa using raised

end Simulation

namespace PublicationExample

def hit : Message where
  payload := .pixelHits [default]

/-- A module that dispatches two hits to itself, but has room for one. -/
def twice : Blueprint Unit where
  name := "Twice"
  construct _ _ := do
    let _ ← Code.bindSlot .single .pixelHit {}
    return ({ run := fun _ => do
      let _ ← Code.dispatch hit
      let _ ← Code.dispatch hit }, ())

def failing : Simulation Unit where
  config := { events := 1, workers := 1 }
  detectors := []
  blueprints := [twice]

def identity : Identity where
  number := 0
  name := "Twice"
  lane := ⟨0⟩

def slot : Slot where
  number := 1
  kind := .single
  payload := .pixelHit

def handle : Handle :=
  .ofSlot 0 identity slot {}

def module : Module Unit where
  bindings := { identity, handles := [handle] }
  behaviour := {
    run := fun _ => do
      let _ ← Code.dispatch hit
      let _ ← Code.dispatch hit }
  state := ()

/-- The first hit fills the slot, and the second one finds it filled. -/
theorem dispatches {bus : Bus} (sound : bus.Sound [handle] [handle])
    (empty : bus.store.contents slot = []) (stats : bus.messenger.stats = { registered := 1 }) :
    let first := bus.dispatch identity hit ""
    let second := first.2.dispatch identity hit ""
    (∃ report, first.1 = .ok report) ∧ second.1 = .error (handle.refused "") ∧
      second.2.Sound [handle] [handle] ∧ second.2.messenger.stats.failed = 1 := by
  have reached {bus : Bus} (sound : bus.Sound [handle] [handle]) :
      bus.messenger.candidates identity hit "" = [handle] := by
    rw [Messenger.candidates, (Usage.Sound.lists sound).candidates_eq]
    simp [handle, Handle.ofSlot, Delegate.IsTyped, Delegate.Wants, Binding.payload, identity, slot,
      hit, Message.type, Payload.type]
  have single : slot.kind = .single := rfl
  have delivered (store : Store) : deliver store hit "" [handle] =
      (store.put slot hit false).elim (.error (handle.refused ""), store)
        fun store => (.ok 1, store) := by
    have processed : handle.process store hit "" =
        (store.put slot hit false).elim (.error (handle.refused ""), store)
          fun store => (.ok true, store) := by
      simp only [Handle.process, handle, Handle.ofSlot]
      cases store.put slot hit false <;> rfl
    rw [deliver, processed]
    cases store.put slot hit false <;> rfl
  have first := @dispatch_of_ok bus identity hit "" 1 (bus.store.setContents slot [hit]) (by
    rw [reached sound, delivered]
    simp [Store.put, single, Store.isFilled, empty])
  have kept : (bus.dispatch identity hit "").2.Sound [handle] [handle] := by
    rw [first]
    exact sound.frame rfl rfl (Nat.le_refl _)
  have second := @dispatch_of_error (bus.dispatch identity hit "").2 identity hit ""
    (handle.refused "") (bus.dispatch identity hit "").2.store (by
      rw [reached kept, delivered, first]
      simp [Store.put, single, Store.isFilled])
  dsimp only
  rw [second]
  refine ⟨⟨_, congrArg Prod.fst first⟩, rfl, kept.frame rfl rfl (Nat.le_refl _), ?_⟩
  rw [first]
  simp [stats]

def lane : Lane Unit where
  id := ⟨0⟩
  modules := [module]

theorem builds : ∃ built, failing.buildLanes 1 0 {} = (.ok [lane], built) ∧
    built.bus.Sound [handle] [handle] ∧ built.bus.store.contents slot = [] ∧
      built.bus.messenger.stats = { registered := 1 } := by
  have started := (Demo.Building.start 0 {}).newIdentity "Twice" none ⟨0⟩ "" ""
  obtain ⟨built, does, building, _⟩ :=
    started.does_bindSlot () { identity } .single .pixelHit false
  let surroundings : Surroundings := {
    lane := ⟨0⟩, detectors := [], pipeline := failing.config.pipeline }
  have constructed : (twice.construct surroundings none).Does
      { state := (), scope := { bindings := { identity } }, world := { bus.store.next := 1 } }
      (module.behaviour, ())
      { state := (), scope := { bindings := module.bindings }, world := built } :=
    Code.Does.bind does (Code.does_pure _ (module.behaviour, ()))
  have made : twice.build surroundings none {} = (.ok module, built) :=
    @Blueprint.build_of_does _ twice surroundings none {} _ built identity rfl _ _ _ constructed
  refine ⟨built, ?_, building.sound, building.empty slot, building.stats⟩
  have modules : buildModules surroundings
      (Blueprint.instances failing.blueprints failing.detectors) {} = (.ok [module], built) := by
    change buildModules surroundings [(twice, none)] {} = _
    simp only [buildModules, made]
  have first : failing.buildLane 0 {} = (.ok lane, built) := by
    unfold Simulation.buildLane
    rw [if_neg (by decide)]
    dsimp only
    generalize first : buildModules _ _ ({} : World) = begun
    obtain rfl : begun = (.ok [module], built) := first.symm.trans modules
    rfl
  simp only [Simulation.buildLanes, first]

/-- A call in which the second dispatch fails. -/
theorem calls {world : World} {context : Option EventContext}
    (sound : world.bus.Sound [handle] [handle]) (empty : world.bus.store.contents slot = [])
    (stats : world.bus.messenger.stats = { registered := 1 }) (event : UInt64) :
    ∃ bus, (module.call (module.behaviour.run event) context).finish world =
        ((.error (.error (.bus (handle.refused ""))), module, context), { world with bus }) ∧
      bus.Sound [handle] [handle] ∧ bus.messenger.stats.failed = 1 := by
  obtain ⟨⟨report, accepted⟩, refused, kept, failed⟩ := dispatches sound empty stats
  let scope : Scope := { bindings := module.bindings, context }
  let middle : World := { world with bus := (world.bus.dispatch identity hit "").2 }
  refine ⟨(middle.bus.dispatch identity hit "").2, ?_, kept, failed⟩
  have first : (Process.request (.dispatch hit none) scope).finish world =
      ((.ok report, scope), middle) :=
    congrArg (fun result => ((result, scope), middle)) accepted
  have second : (Process.request (.dispatch hit none) scope).finish middle =
      ((.error (handle.refused ""), scope),
        { world with bus := (middle.bus.dispatch identity hit "").2 }) :=
    congrArg (fun result => ((result, scope), _)) refused
  have ran : Process.finish (Program.within Process.request
      (module.behaviour.run event module.state) scope) world =
        (((.error (.error (.bus (handle.refused ""))), ()), scope),
          { world with bus := (middle.bus.dispatch identity hit "").2 }) :=
    (Process.finish_bind first).trans (Process.finish_bind second)
  exact Process.finish_bind ran

theorem works {built : World} (sound : built.bus.Sound [handle] [handle])
    (empty : built.bus.store.contents slot = [])
    (stats : built.bus.messenger.stats = { registered := 1 }) :
    ∃ error last, failing.work [] [lane] built = (.error (.error error), [lane], last) ∧
      last.bus.Sound [handle] [handle] ∧ last.bus.messenger.stats.failed = 1 := by
  obtain ⟨bus, called, kept, failed⟩ := @calls { built with aborting := false }
    (some { event := 0, stream := .ofEvent failing.config.seed 0 }) sound empty stats 0
  let plan : Plan := { total := 1, stride := 1, seed := failing.config.seed }
  obtain ⟨error, after, event, same⟩ : ∃ error after,
      (lane.runEvent 0 plan.seed).finish { built with aborting := false } =
        ((.error (.error error), lane), after) ∧ after.bus = bus :=
    ⟨_, _, Process.finish_bind (Process.finish_bind called), rfl⟩
  have loop : (lane.processEvents plan).finish { built with aborting := false } =
      ((.error (.error error), lane), { after with aborting := true }) := by
    rw [Lane.processEvents, Lane.runEvents, if_pos (by decide)]
    exact Process.finish_bind event
  have ran : runScheduled LaneOperation.perform (failing.loops [lane]) []
      { built with aborting := false } =
        ([(.error (.error error), lane)], { after with aborting := true }) :=
    congrArg (fun ended => ([ended.1], ended.2)) loop
  have together : LaneEnds.together [.error (.error error)] = .error (.error error) := by
    cases error <;> rfl
  have processed : failing.processEvents [] [lane] built =
      (.error (.error error), [lane], { after with aborting := true }) := by
    simp only [Simulation.processEvents, ran, List.map, together]
  have setUp : (stageInTurn .setUp Behaviour.setUp [lane]).finish built =
      ((.ok (), [lane]), built) := rfl
  refine ⟨error, { after with aborting := true }, ?_, same ▸ kept, same ▸ failed⟩
  simp only [Simulation.work, setUp, processed]

end PublicationExample

open PublicationExample in
/-- A run that fails with a dispatch: the messenger counts it, the process does not. -/
theorem failed_dispatch_not_published :
    let outcome := failing.run [] {}
    (∃ lanes start, failing.buildLanes failing.config.workers.toNat 0 {} = (.ok lanes, start)) ∧
      (∃ stop, outcome.result = .error stop) ∧
      outcome.world.bus.messenger.stats.failed = 1 ∧
      outcome.world.metrics.failed = ({} : World).metrics.failed := by
  obtain ⟨built, building, sound, empty, stats⟩ := builds
  obtain ⟨error, last, worked, kept, failed⟩ := works sound empty stats
  have releasing : Releasing ([lane].flatMap Lane.modules) := {
    releases := by simp [lane, module]
    receiver := by simp [lane, module, handle, Handle.ofSlot]
    apart := by simp [lane] }
  obtain ⟨later, torn, removed⟩ := finish_tearDownLanes releasing kept
  have ended : failing.run [] {} = {
      result := .error (.error error), world := later, lanes := [lane.released] } := by
    have none := dropLanes_released [lane] later
    simp only [List.map_cons, List.map_nil] at none torn
    have configured : failing.config.workers.toNat = 1 := rfl
    simp only [Simulation.run, configured, building, worked, torn, Stop.both, none]
  have totalled := failing.run_totalled [] {}
  dsimp only at totalled ⊢
  rw [ended] at totalled ⊢
  refine ⟨⟨_, _, building⟩, ⟨.error error, rfl⟩, ?_, totalled.failed⟩
  -- The tear-down of the lane dispatches nothing.
  obtain ⟨_, counted⟩ := removed.stats
  rw [counted]
  exact failed

end Beamline.Run
