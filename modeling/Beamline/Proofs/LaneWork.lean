import Beamline.Proofs.AbortFlag
import Beamline.Proofs.EventShares

namespace Beamline.Run

variable {σ : Type}

/-! ## Operations on behalf of modules -/

namespace Program

variable {S : Signature} {α : Type}

theorem respects_any (program : Program S α) :
    program.Respects (fun _ => True) fun _ => True := by
  induction program with
  | done result => trivial
  | call operation next ih => exact ⟨trivial, ih⟩

theorem Respects.allow {permitted wider : S.Operation → Prop} {good : α → Prop}
    (allowed : ∀ operation, permitted operation → wider operation) {program : Program S α}
    (respects : program.Respects permitted good) : program.Respects wider good := by
  induction program with
  | done result => exact respects
  | call operation next ih =>
    exact ⟨allowed operation respects.1, fun answer => ih answer (respects.2 answer)⟩

theorem Respects.run {σ : Type} {permitted : S.Operation → Prop} {good : α → Prop}
    {program : Program S α} (respects : program.Respects permitted good)
    (handler : (operation : S.Operation) → σ → S.Answer operation × σ) (state : σ) :
    good (program.run handler state).1 := by
  induction program generalizing state with
  | done result => exact respects
  | call operation next ih => exact ih _ (respects.2 _) _

/-- A process of a lane, whatever the operations do. -/
theorem Respects.finish {permitted : LaneOperation → Prop} {good : α → Prop}
    {process : Process α}
    (respects : Respects (S := LaneOperations) permitted good process) (world : World) :
    good (process.finish world).1 :=
  Respects.run respects LaneOperation.perform world

end Program

/-- By every schedule, programs come to the ends that they come to whatever is answered. -/
theorem runScheduled_respects {S : Signature} {τ α : Type} {permitted : S.Operation → Prop}
    {good : Nat → α → Prop} {programs : List (Program S α)}
    (each : ∀ place (program : Program S α), programs[place]? = some program →
      program.Respects permitted (good place))
    (handler : (operation : S.Operation) → τ → S.Answer operation × τ) (turns : List Nat)
    (state : τ) {place : Nat} {result : α}
    (found : (runScheduled handler programs turns state).1[place]? = some result) :
    good place result := by
  have ensures (place : Nat) (program : Program S α) (found : programs[place]? = some program) :
      program.Ensures handler (fun (_ : Nat → Unit) _ => True) place
        (fun result _ => good place result) () :=
    ((each place program found).ensures (fun _ _ _ _ _ => trivial) ()).mono
      fun _ _ ended => ended.1
  obtain ⟨_, _, ends, _⟩ :=
    @runScheduled_ensures _ _ _ _ _ _ _ _ (fun _ => ()) state trivial ensures turns
  exact ends place result found

/-- An operation that a lane asks for on behalf of a module. -/
inductive LaneOperation.OfModule : LaneOperation → Prop
  | request (scope : Scope) (wanted : Request) : OfModule (.request scope wanted)
  | countError (name kind : String) : OfModule (.countError name kind)

theorem LaneOperation.OfModule.leavesFlag {operation : LaneOperation}
    (ofModule : operation.OfModule) : operation.LeavesFlag := by
  rintro rfl
  cases ofModule

/-- A process that does nothing but what modules ask for. -/
abbrev Process.OfModules {α : Type} (process : Process α) : Prop :=
  Program.Respects (S := LaneOperations) LaneOperation.OfModule (fun _ => True) process

section OfModules

variable {stage : Stage} {code : Behaviour σ → Code σ Unit}

theorem ofModules_ask {operation : LaneOperation} (ofModule : operation.OfModule) :
    (Process.ask operation).OfModules :=
  Program.respects_ask (S := LaneOperations) ofModule

private theorem Module.ofModules_call {α : Type} (module : Module σ) (code : Code σ α)
    (context : Option EventContext) : (module.call code context).OfModules := by
  have inside := @Program.Respects.within _ LaneOperations _ _ _ LaneOperation.OfModule _ _
    Process.request (fun wanted scope _ => Run.ofModules_ask (.request scope wanted))
    (Program.respects_any (code module.state)) { bindings := module.bindings, context }
  exact inside.bind fun _ _ => trivial

theorem Module.ofModules_ask (module : Module σ) (request : Request) :
    (module.ask request).OfModules :=
  (Run.ofModules_ask (.request { bindings := module.bindings } request)).bind fun _ _ => trivial

theorem Module.ofModules_recordError (module : Module σ) (stage : Stage) (error : RunError) :
    (module.recordError stage error).OfModules :=
  (Run.ofModules_ask (.countError module.identity.uniqueName error.kind)).bind fun _ _ => trivial

private theorem Module.ofModules_recordStop (module : Module σ) (stage : Stage) (stop : Stop) :
    (module.recordStop stage stop).OfModules := by
  cases stop with
  | error error => exact (module.ofModules_recordError stage error).bind fun _ _ => trivial
  | fault fault => trivial

theorem ofModules_callInTurn (modules : List (Module σ)) (context : Option EventContext) :
    (callInTurn stage code modules context).OfModules := by
  induction modules generalizing context with
  | nil => trivial
  | cons module rest ih =>
    apply (module.ofModules_call (code module.behaviour) context).bind
    rintro ⟨stop | _, called, context⟩ _
    · exact (called.ofModules_recordStop stage stop).bind fun _ _ => trivial
    · exact (ih context).bind fun _ _ => trivial

theorem ofModules_firstUnmet (modules : List (Module σ)) : (firstUnmet modules).OfModules := by
  induction modules with
  | nil => trivial
  | cons module rest ih =>
    apply (module.ofModules_ask .unmetRequirements).bind
    rintro (_ | ⟨error, others⟩) _
    · exact ih
    · trivial

theorem ofModules_resetModules (modules : List (Module σ)) :
    (resetModules modules).OfModules := by
  induction modules with
  | nil => trivial
  | cons module rest ih => exact (module.ofModules_ask .resetAll).bind fun _ _ => ih

end OfModules

/-! ## Lanes and their numbers -/

namespace Simulation

variable {simulation : Simulation σ} {lanes : List (Lane σ)}

theorem id_of_numbered (numbered : lanes.map Lane.id = (List.range lanes.length).map laneOf)
    {place : Nat} {lane : Lane σ} (found : lanes[place]? = some lane) : lane.id = laneOf place := by
  obtain ⟨within, rfl⟩ := List.getElem?_eq_some_iff.mp found
  have same := congrArg (·[place]?) numbered
  simpa [within] using same

theorem buildLanes_succ {number count : Nat} {world later : World}
    (built : simulation.buildLanes (count + 1) number world = (.ok lanes, later)) :
    number ≤ ConfigError.maxWorkers ∧ ∃ surroundings modules others middle,
      lanes = { id := laneOf number, modules } :: others ∧
      buildModules surroundings
        (Blueprint.instances simulation.blueprints simulation.detectors) world =
          (.ok modules, middle) ∧
      simulation.buildLanes count (number + 1) middle = (.ok others, later) := by
  unfold buildLanes buildLane at built
  by_cases many : ConfigError.maxWorkers < number
  · simp only [if_pos many] at built
    exact nomatch built
  · simp only [if_neg many] at built
    generalize made : buildModules _ _ world = first at built
    rcases first with ⟨stop | modules, middle⟩
    · exact nomatch built
    · dsimp only at built
      rcases more : simulation.buildLanes count (number + 1) middle with ⟨stop | others, last⟩
      · simp only [more] at built
        exact nomatch built
      · simp only [more] at built
        obtain ⟨first, rfl⟩ := Prod.mk.inj built
        exact ⟨Nat.le_of_not_lt many, _, modules, others, middle, (Except.ok.inj first).symm,
          made, more⟩

private theorem buildLanes_numbered {number count : Nat} {world later : World}
    (built : simulation.buildLanes count number world = (.ok lanes, later)) :
    lanes.map Lane.id = (List.range' number count).map laneOf ∧
      ∀ place < count, number + place ≤ ConfigError.maxWorkers := by
  induction count generalizing number world lanes with
  | zero =>
    obtain rfl := Except.ok.inj (Prod.mk.inj built).1
    exact ⟨rfl, nofun⟩
  | succ count ih =>
    obtain ⟨small, _, modules, others, middle, rfl, _, more⟩ := buildLanes_succ built
    obtain ⟨same, few⟩ := ih more
    refine ⟨congrArg (laneOf number :: ·) same, fun place within => ?_⟩
    cases place with
    | zero => exact small
    | succ place =>
      have bound := few place (Nat.lt_of_succ_lt_succ within)
      omega

theorem id_stageInTurn (stage : Stage) (code : Behaviour σ → Code σ Unit) (lanes : List (Lane σ)) :
    Program.Respects (S := LaneOperations) (fun _ => True)
      (fun ended : Except Stop Unit × List (Lane σ) => ended.2.map Lane.id = lanes.map Lane.id)
      (stageInTurn stage code lanes) := by
  induction lanes with
  | nil => exact rfl
  | cons lane rest ih =>
    apply (Program.respects_any (callInTurn stage code lane.modules none)).bind
    rintro ⟨stop | _, modules, context⟩ _
    · exact rfl
    · exact ih.bind fun ended same => congrArg (lane.id :: ·) same

theorem ids_of_built {count : Nat} {empty start : World}
    (built : simulation.buildLanes count 0 empty = (.ok lanes, start)) :
    lanes.length = count ∧ lanes.map Lane.id = (List.range lanes.length).map laneOf ∧
      lanes.length ≤ UInt16.size := by
  obtain ⟨same, few⟩ := buildLanes_numbered built
  have length : lanes.length = count := by simpa using congrArg List.length same
  subst length
  refine ⟨rfl, by rw [same, List.range_eq_range'], ?_⟩
  have last := few (lanes.length - 1)
  simp only [ConfigError.maxWorkers, UInt16.size] at *
  omega

theorem numbered_of_built {count : Nat} {ready : List (Lane σ)} {empty start world : World}
    (built : simulation.buildLanes count 0 empty = (.ok lanes, start))
    (begun : (stageInTurn .setUp Behaviour.setUp lanes).finish start = ((.ok (), ready), world)) :
    ready.length = count ∧ ready.map Lane.id = (List.range ready.length).map laneOf ∧
      ready.length ≤ UInt16.size := by
  obtain ⟨length, same, few⟩ := ids_of_built built
  have kept : ready.map Lane.id = lanes.map Lane.id := by
    have kept := (id_stageInTurn .setUp Behaviour.setUp lanes).finish start
    rwa [begun] at kept
  have alike : ready.length = lanes.length := by simpa using congrArg List.length kept
  rw [alike]
  exact ⟨length, kept.trans same, few⟩

end Simulation

end Beamline.Run
