import Beamline.Proofs.Bindings
import Beamline.Proofs.LaneEvents

namespace Beamline.Run

open Bus

theorem Program.run_bind {S : Signature} {σ α β : Type}
    (handler : (operation : S.Operation) → σ → S.Answer operation × σ) (program : Program S α)
    (next : α → Program S β) (state : σ) : (program.bind next).run handler state =
      (next (program.run handler state).1).run handler (program.run handler state).2 := by
  induction program generalizing state with
  | done result => rfl
  | call operation rest ih => exact ih _ _

theorem Process.finish_bind {α β : Type} {process : Process α} {next : α → Process β}
    {world later : World} {value : α} (first : process.finish world = (value, later)) :
    Process.finish (process.bind next) world = (next value).finish later := by
  have split : Process.finish (process.bind next) world =
      (next (process.finish world).1).finish (process.finish world).2 :=
    Program.run_bind _ process next world
  rw [split, first]

/-- What code of a module works on. -/
structure Setting (σ : Type) where
  state : σ
  scope : Scope
  world : World

/-- Code that completes with a value if nothing interrupts it. -/
def Code.Does {σ α : Type} (code : Code σ α) (before : Setting σ) (value : α)
    (after : Setting σ) : Prop :=
  let program : Program Requests (Except Stop α × σ) := code before.state
  let process : Process ((Except Stop α × σ) × Scope) :=
    program.within Process.request before.scope
  process.finish before.world = (((.ok value, after.state), after.scope), after.world)

namespace Code

variable {σ α β : Type} {before middle after : Setting σ}

theorem does_pure (setting : Setting σ) (value : α) :
    Does (pure value : Code σ α) setting value setting := rfl

theorem Does.bind {code : Code σ α} {next : α → Code σ β} {value : α} {result : β}
    (first : code.Does before value middle) (second : (next value).Does middle result after) :
    (code >>= next).Does before result after := by
  unfold Does at *
  simp only [Code.bind_apply, Program.within_bind]
  exact (Process.finish_bind first).trans second

theorem does_get (setting : Setting σ) : Does (get : Code σ σ) setting setting.state setting := rfl

theorem does_ask {request : Request} {setting : Setting σ} {answer : request.Answer}
    {scope : Scope} {world : World}
    (performed : request.perform setting.scope setting.world = ((answer, scope), world)) :
    (ask request).Does setting answer { setting with scope, world } := by
  have asked : (Process.request request setting.scope).finish setting.world =
      ((answer, scope), world) := performed
  exact Process.finish_bind asked

end Code

/-! ## Building -/

section Build

variable {σ : Type} {blueprint : Blueprint σ} {surroundings : Surroundings}
  {detector : Option Detector} {world middle later : World}

theorem Blueprint.build_of_does {identity : Identity}
    (named : world.newIdentity blueprint.name detector surroundings.lane blueprint.input
      blueprint.output = (identity, middle)) {behaviour : Behaviour σ} {state : σ} {scope : Scope}
    (constructed : (blueprint.construct surroundings detector).Does
      { state := (), scope := { bindings := { identity } }, world := middle } (behaviour, state)
      { state := (), scope, world := later }) :
    blueprint.build surroundings detector world =
      (.ok { bindings := scope.bindings, behaviour, state }, later) := by
  unfold Code.Does at constructed
  unfold build
  simp only [named, constructed]

/-- Modules that got numbers of a range, in order. -/
structure Numbered (first next : Nat) (modules : List (Module σ)) : Prop where
  onward : first ≤ next
  within : ∀ module ∈ modules,
    first ≤ module.bindings.identity.number ∧ module.bindings.identity.number < next
  increasing : modules.Pairwise fun module later =>
    module.bindings.identity.number < later.bindings.identity.number

namespace Numbered

variable {first last next : Nat} {modules others : List (Module σ)}

theorem nil (first : Nat) : Numbered first first ([] : List (Module σ)) :=
  ⟨Nat.le_refl _, by simp, .nil⟩

theorem single {module : Module σ} (number : module.bindings.identity.number = first)
    (onward : first < next) : Numbered first next [module] where
  onward := Nat.le_of_lt onward
  within := by simpa [number] using onward
  increasing := List.pairwise_singleton _ _

theorem append (earlier : Numbered first last modules) (later : Numbered last next others) :
    Numbered first next (modules ++ others) where
  onward := Nat.le_trans earlier.onward later.onward
  within module member := by
    have forwards := earlier.onward
    have further := later.onward
    rcases List.mem_append.mp member with old | new
    · have known := earlier.within module old
      omega
    · have known := later.within module new
      omega
  increasing := List.pairwise_append.mpr ⟨earlier.increasing, later.increasing,
    fun module old other new =>
      Nat.lt_of_lt_of_le (earlier.within module old).2 (later.within other new).1⟩

end Numbered

end Build

/-! ## Stages that only log -/

/-- A module's code as its lane calls it. -/
theorem Code.Does.call {σ α : Type} {code : Code σ α} {module : Module σ}
    {context : Option EventContext} {world : World} {value : α} {after : Setting σ}
    (does : code.Does
      { state := module.state, scope := { bindings := module.bindings, context }, world }
      value after) :
    (module.call code context).finish world =
      ((.ok value, { module with state := after.state, bindings := after.scope.bindings },
        after.scope.context), after.world) :=
  Process.finish_bind does

def Code.Logs {σ : Type} (code : Code σ Unit) : Prop :=
  ∀ setting : Setting σ, ∃ lines,
    code.Does setting () { setting with world := { setting.world with lines } }

theorem Code.logs_pure {σ : Type} : (pure () : Code σ Unit).Logs := fun setting =>
  ⟨setting.world.lines, rfl⟩

section Stages

variable {σ : Type} {stage : Stage} {code : Behaviour σ → Code σ Unit}

private theorem finish_callInTurn {modules : List (Module σ)}
    (logs : ∀ module ∈ modules, (code module.behaviour).Logs) (world : World) : ∃ lines,
      (callInTurn stage code modules none).finish world =
        ((.ok (), modules, none), { world with lines }) := by
  induction modules generalizing world with
  | nil => exact ⟨world.lines, rfl⟩
  | cons module rest ih =>
    obtain ⟨lines, does⟩ := logs module List.mem_cons_self {
      state := module.state, scope := { bindings := module.bindings }, world }
    obtain ⟨last, others⟩ := ih (fun other member => logs other (List.mem_cons_of_mem _ member))
      { world with lines }
    exact ⟨last, (Process.finish_bind does.call).trans (Process.finish_bind others)⟩

theorem finish_stageInTurn {lanes : List (Lane σ)}
    (logs : ∀ lane ∈ lanes, ∀ module ∈ lane.modules, (code module.behaviour).Logs)
    (world : World) : ∃ lines, (stageInTurn stage code lanes).finish world =
      ((.ok (), lanes), { world with lines }) := by
  induction lanes generalizing world with
  | nil => exact ⟨world.lines, rfl⟩
  | cons lane rest ih =>
    obtain ⟨lines, called⟩ := finish_callInTurn (logs lane List.mem_cons_self) world
    obtain ⟨last, others⟩ := ih (fun other member => logs other (List.mem_cons_of_mem _ member))
      { world with lines }
    exact ⟨last, (Process.finish_bind called).trans (Process.finish_bind others)⟩

end Stages

end Beamline.Run
