import Beamline.Proofs.Chronicles
import Beamline.Run.Lifecycle

namespace Beamline.Run

variable {σ : Type}

/-- A process with something to tell, brought to its end. -/
theorem Process.finish_told {α γ : Type} {told : Process (α × γ)} {plain : Process α}
    (same : Program.map Prod.fst told = plain) (world : World) :
    plain.finish world = ((told.finish world).1.1, (told.finish world).2) := by
  subst same
  exact Program.run_map Prod.fst told world

section Told

variable (stage : Stage) (code : Behaviour σ → Code σ Unit)

private theorem tellTearDown_map (module : Module σ) :
    Program.map Prod.fst module.tellTearDown = module.tearDown := by
  refine (Program.map_bind _ _ _).trans (Program.bind_congr ?_)
  rintro ⟨stop | _, module, context⟩
  · rfl
  · refine (Program.map_bind _ _ _).trans (Program.bind_congr fun (left : Nat) => ?_)
    by_cases none : left = 0
    · simp only [if_pos none]
      rfl
    · simp only [if_neg none]
      rfl

private theorem tellTearDowns_map (lane : LaneId) (place : Nat) (modules : List (Module σ)) :
    Program.map Prod.fst (tellTearDowns lane place modules) = tearDownModules modules := by
  induction modules generalizing place with
  | nil => rfl
  | cons module rest ih =>
    refine Program.told_bind (tellTearDown_map module) ?_
    rintro ⟨⟨(error | fault) | _, module⟩, returned, left⟩
    · refine (Program.map_bind _ _ _).trans (Program.bind_congr fun _ => ?_)
      exact Program.told_bind (ih (place + 1)) fun _ => rfl
    · rfl
    · exact Program.told_bind (ih (place + 1)) fun _ => rfl

theorem tellStage_map (lanes : List (Lane σ)) :
    Program.map Prod.fst (tellStage stage code lanes) = stageInTurn stage code lanes := by
  induction lanes with
  | nil => rfl
  | cons lane rest ih =>
    refine Program.told_bind (tellInTurn_map stage code none lane.id 0 lane.modules none) ?_
    rintro ⟨⟨stop | _, modules, context⟩, calls⟩
    · rfl
    · exact Program.told_bind ih fun _ => rfl

theorem tellLaneTearDowns_map (lanes : List (Lane σ)) :
    Program.map Prod.fst (tellLaneTearDowns lanes) = tearDownLanes lanes := by
  induction lanes with
  | nil => rfl
  | cons lane rest ih =>
    refine Program.told_bind (tellTearDowns_map lane.id 0 lane.modules) ?_
    rintro ⟨⟨(error | fault) | _, modules⟩, calls⟩
    · exact Program.told_bind ih fun _ => rfl
    · rfl
    · exact Program.told_bind ih fun _ => rfl

end Told

namespace Simulation

variable (simulation : Simulation σ) (turns : List Nat) (lanes : List (Lane σ)) (world : World)

theorem tellWork_fst : (simulation.tellWork turns lanes world).1 =
    simulation.work turns lanes world := by
  unfold tellWork work processEvents
  rw [Process.finish_told (tellStage_map .setUp Behaviour.setUp lanes)]
  rcases (tellStage .setUp Behaviour.setUp lanes).finish world with
    ⟨⟨⟨stop | _, ready⟩, setUps⟩, second⟩
  · rfl
  dsimp only
  rw [loops_of_telling]
  generalize runScheduled LaneOperation.perform (simulation.telling ready) turns
    { second with aborting := false } = ran
  obtain ⟨told, third⟩ := ran
  have results : (told.map Prod.fst).map Prod.fst = told.map fun ended => ended.1.1 :=
    List.map_map ..
  have lanes : (told.map Prod.fst).map Prod.snd = told.map fun ended => ended.1.2 :=
    List.map_map ..
  simp only [results, lanes]
  cases LaneEnds.together (told.map fun ended => ended.1.1) with
  | error stop => rfl
  | ok _ =>
    dsimp only
    rw [Process.finish_told (tellStage_map .finish Behaviour.finish _)]

end Simulation

end Beamline.Run
