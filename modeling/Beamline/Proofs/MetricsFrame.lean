import Beamline.Proofs.StageCode

namespace Beamline.Run

open Bus

variable {σ α : Type}

@[simp]
theorem Request.perform_metrics (request : Request) (scope : Scope) (world : World) :
    (request.perform scope world).2.metrics = world.metrics := by
  cases request <;> rfl

theorem metrics_within (program : Program Requests α) (scope : Scope) (world : World) :
    (Process.finish (program.within Process.request scope) world).2.metrics = world.metrics := by
  induction program generalizing scope world with
  | done result => rfl
  | call request next ih => exact (ih _ _ _).trans (request.perform_metrics scope world)

theorem Lane.drop_metrics (lane : Lane σ) (world : World) :
    (lane.drop world).metrics = world.metrics := by
  obtain ⟨id, modules⟩ := lane
  unfold Lane.drop
  induction modules generalizing world with
  | nil => rfl
  | cons module rest ih => exact ih (module.drop world)

theorem dropLanes_metrics (lanes : List (Lane σ)) (world : World) :
    (dropLanes lanes world).metrics = world.metrics := by
  unfold dropLanes
  induction lanes generalizing world with
  | nil => rfl
  | cons lane rest ih => exact (ih (lane.drop world)).trans (lane.drop_metrics world)

private theorem Blueprint.build_metrics (blueprint : Blueprint σ) (surroundings : Surroundings)
    (detector : Option Detector) (world : World) :
    (blueprint.build surroundings detector world).2.metrics = world.metrics := by
  rcases named : world.newIdentity blueprint.name detector surroundings.lane blueprint.input
    blueprint.output with ⟨identity, begun⟩
  have same : begun.metrics = world.metrics := (congrArg (fun made => made.2.metrics) named).symm
  let program : Program Requests (Except Stop (Behaviour σ × σ) × Unit) :=
    blueprint.construct surroundings detector ()
  have constructed := metrics_within program { bindings := { identity } } begun
  unfold Blueprint.build
  simp only [named]
  generalize Process.finish (program.within Process.request { bindings := { identity } }) begun =
    ended at constructed ⊢
  obtain ⟨⟨⟨_ | made, _⟩, scope⟩, later⟩ := ended <;> exact constructed.trans same

private theorem buildModules_metrics (surroundings : Surroundings)
    (instances : List (Blueprint σ × Option Detector)) (world : World) :
    (buildModules surroundings instances world).2.metrics = world.metrics := by
  induction instances generalizing world with
  | nil => rfl
  | cons first rest ih =>
    obtain ⟨blueprint, detector⟩ := first
    have built := blueprint.build_metrics surroundings detector world
    unfold buildModules
    generalize blueprint.build surroundings detector world = made at built ⊢
    obtain ⟨stop | module, middle⟩ := made
    · exact built
    · have others := ih middle
      dsimp only at built ⊢
      generalize buildModules surroundings rest middle = more at others ⊢
      obtain ⟨stop | modules, later⟩ := more <;> exact others.trans built

theorem Simulation.buildLanes_metrics (simulation : Simulation σ) (count number : Nat)
    (world : World) : (simulation.buildLanes count number world).2.metrics = world.metrics := by
  induction count generalizing number world with
  | zero => rfl
  | succ count ih =>
    unfold buildLanes buildLane
    by_cases many : ConfigError.maxWorkers < number
    · simp only [if_pos many]
    · simp only [if_neg many]
      have built := buildModules_metrics {
        lane := ⟨UInt16.ofNat number⟩, detectors := simulation.detectors
        pipeline := simulation.config.pipeline }
        (Blueprint.instances simulation.blueprints simulation.detectors) world
      generalize buildModules _ _ world = made at built ⊢
      obtain ⟨stop | modules, middle⟩ := made
      · exact built
      · have others := ih (number + 1) middle
        dsimp only at built ⊢
        generalize simulation.buildLanes count (number + 1) middle = more at others ⊢
        obtain ⟨stop | lanes, later⟩ := more
        · exact ((Lane.drop_metrics _ later).trans others).trans built
        · exact others.trans built

end Beamline.Run
