import Beamline.Proofs.ProgramLogic
import Beamline.Proofs.ModuleCode
import Beamline.Run.Record

/-!
A loop that keeps a chronicle is the loop that does not, with something to tell at its end.
-/

namespace Beamline.Run

namespace Program

variable {S : Signature} {σ α β : Type}
  {handler : (operation : S.Operation) → σ → S.Answer operation × σ}

def map (change : α → β) (program : Program S α) : Program S β :=
  program.bind fun result => .done (change result)

theorem map_bind {γ : Type} (change : β → γ) (program : Program S α) (next : α → Program S β) :
    (program.bind next).map change = program.bind fun value => (next value).map change :=
  bind_assoc _ _ _

theorem bind_congr {program : Program S α} {next other : α → Program S β}
    (same : ∀ value, next value = other value) : program.bind next = program.bind other :=
  congrArg program.bind (funext same)

private theorem step_map (change : α → β) (program : Program S α) (state : σ) :
    (program.map change).step handler state =
      ((program.step handler state).1.map change, (program.step handler state).2) := by
  cases program <;> rfl

theorem run_map (change : α → β) (program : Program S α) (state : σ) :
    (program.map change).run handler state =
      (change (program.run handler state).1, (program.run handler state).2) := by
  induction program generalizing state with
  | done result => rfl
  | call operation next ih => exact ih _ _

/-- Where a program with something to tell goes on like one without, the whole does. -/
theorem told_bind {γ δ : Type} {told : Program S (α × γ)}
    {plain : Program S α} {next : α × γ → Program S (β × δ)} {other : α → Program S β}
    (first : told.map Prod.fst = plain)
    (same : ∀ ended, (next ended).map Prod.fst = other ended.1) :
    (told.bind next).map Prod.fst = plain.bind other := by
  rw [← first, map_bind, map, bind_assoc]
  exact bind_congr same

theorem Ensures.of_map {V : Type} {fits : (Nat → V) → σ → Prop} {own : Nat} {good : β → V → Prop}
    {change : α → β} {program : Program S α} {view : V}
    (ensures : (program.map change).Ensures handler fits own good view) :
    program.Ensures handler fits own (fun result => good (change result)) view := by
  induction program generalizing view with
  | done result => exact ensures
  | call operation next ih =>
    intro views state fit seen
    obtain ⟨after, kept, rest⟩ := ensures views state fit seen
    exact ⟨after, kept, ih _ rest⟩

end Program

section Map

variable {S : Signature} {σ α β : Type}
  {handler : (operation : S.Operation) → σ → S.Answer operation × σ} (change : α → β)

private theorem takeTurn_map (programs : List (Program S α)) (turn : Nat) (state : σ) :
    takeTurn handler (programs.map (Program.map change)) turn state =
      ((takeTurn handler programs turn state).1.map (Program.map change),
        (takeTurn handler programs turn state).2) := by
  simp only [takeTurn, List.getElem?_map]
  cases programs[turn]? with
  | none => rfl
  | some program => simp only [Option.map_some, Program.step_map, List.map_set]

private theorem interleave_map (programs : List (Program S α)) (turns : List Nat) (state : σ) :
    interleave handler (programs.map (Program.map change)) turns state =
      ((interleave handler programs turns state).1.map (Program.map change),
        (interleave handler programs turns state).2) := by
  induction turns generalizing programs state with
  | nil => rfl
  | cons turn rest ih => simp only [interleave, takeTurn_map, ih]

private theorem finishAll_map (programs : List (Program S α)) (state : σ) :
    finishAll handler (programs.map (Program.map change)) state =
      ((finishAll handler programs state).1.map change, (finishAll handler programs state).2) := by
  induction programs generalizing state with
  | nil => rfl
  | cons program rest ih => simp only [List.map_cons, finishAll, Program.run_map, ih]

theorem runScheduled_map (programs : List (Program S α)) (turns : List Nat) (state : σ) :
    runScheduled handler (programs.map (Program.map change)) turns state =
      ((runScheduled handler programs turns state).1.map change,
        (runScheduled handler programs turns state).2) := by
  simp only [runScheduled, interleave_map, finishAll_map]

end Map

variable {σ : Type}

section Told

variable (stage : Stage) (code : Behaviour σ → Code σ Unit)

theorem tellInTurn_map (event : Option UInt64) (lane : LaneId) (place : Nat)
    (modules : List (Module σ)) (context : Option EventContext) :
    Program.map Prod.fst (tellInTurn stage code event lane place modules context) =
      callInTurn stage code modules context := by
  induction modules generalizing place context with
  | nil => rfl
  | cons module rest ih =>
    refine (Program.map_bind _ _ _).trans (Program.bind_congr ?_)
    rintro ⟨stop | _, module, context⟩
    · exact (Program.map_bind _ _ _).trans (Program.bind_congr fun _ => rfl)
    · exact Program.told_bind (ih (place + 1) context) fun _ => rfl

end Told

theorem Lane.tellEvent_map (lane : Lane σ) (event seed : UInt64) :
    Program.map Prod.fst (lane.tellEvent event seed) = lane.runEvent event seed := by
  refine Program.told_bind (tellInTurn_map _ _ _ _ _ _ _) ?_
  rintro ⟨⟨stop | _, modules, context⟩, calls⟩
  · exact (Program.map_bind _ _ _).trans (Program.bind_congr fun _ => rfl)
  · refine (Program.map_bind _ _ _).trans (Program.bind_congr fun _ => ?_)
    exact (Program.map_bind _ _ _).trans (Program.bind_congr fun _ => rfl)

/-- What an event guarantees, it guarantees while its calls are told. -/
theorem Lane.ensures_tellEvent {τ V : Type}
    {handler : (operation : LaneOperation) → τ → operation.Answer × τ}
    {fits : (Nat → V) → τ → Prop} {own : Nat} {lane : Lane σ} {event seed : UInt64}
    {good : Except Stop Unit × Lane σ → V → Prop} {view : V}
    (ensures : Program.Ensures (S := LaneOperations) handler fits own good
      (lane.runEvent event seed) view) :
    Program.Ensures (S := LaneOperations) handler fits own (fun told => good told.1)
      (lane.tellEvent event seed) view := by
  rw [← tellEvent_map] at ensures
  exact ensures.of_map

namespace Chronicle

variable (past : Chronicle σ)

theorem rounds_looked (isAborting : Bool) : rounds (past ++ [.looked isAborting]) = past.rounds :=
  List.filterMap_append.trans (List.append_nil _)

theorem rounds_processed (event : UInt64) (calls : List StageCall) (result : Except Stop Unit)
    (lane : Lane σ) : rounds (past ++ [.looked false, .processed event calls result lane]) =
      past.rounds ++ [Round.mk event calls result] :=
  List.filterMap_append

end Chronicle

private theorem Lane.tellEvents_map (plan : Plan) (lane : Lane σ) (event : UInt64) (processed : Nat)
    (past : Chronicle σ) :
    Program.map Prod.fst (lane.tellEvents plan event processed past) =
      lane.runEvents plan event processed := by
  fun_induction Lane.tellEvents plan lane event processed past with
  | case1 lane event processed past early ih =>
    rw [Lane.runEvents, if_pos early]
    refine (Program.map_bind _ _ _).trans (Program.bind_congr fun (isAborting : Bool) => ?_)
    cases isAborting with
    | true => rfl
    | false =>
      refine Program.told_bind (lane.tellEvent_map event plan.seed) ?_
      rintro ⟨⟨(error | fault) | _, later⟩, calls⟩
      · rfl
      · rfl
      · by_cases onward : event < event + plan.stride
        · simp only [if_pos onward]
          exact ih _ later calls onward
        · simp only [if_neg onward]
          rfl
  | case2 lane event processed past late =>
    rw [Lane.runEvents, if_neg late]
    rfl

namespace Simulation

variable (simulation : Simulation σ) (turns : List Nat) (lanes : List (Lane σ)) (world : World)

theorem telling_map :
    (simulation.telling lanes).map (Program.map Prod.fst) = simulation.loops lanes := by
  simp only [telling, List.map_map]
  exact List.map_congr_left fun lane _ => lane.tellEvents_map _ _ _ _

/-- The chronicles of a run tell about its event loops. -/
theorem loops_of_telling :
    runScheduled LaneOperation.perform (simulation.loops lanes) turns world =
      ((runScheduled LaneOperation.perform (simulation.telling lanes) turns world).1.map Prod.fst,
        (runScheduled LaneOperation.perform (simulation.telling lanes) turns world).2) := by
  rw [← telling_map]
  exact runScheduled_map _ _ _ _

end Simulation

/-! ## Records -/

theorem extends_performRecorded :
    Extends (S := LaneOperations) LaneOperation.performRecorded LaneOperation.perform
      (Prod.fst : World × Record → World) :=
  fun _ _ => ⟨rfl, rfl⟩

/-- A process of one lane that nothing interrupts. -/
theorem Program.Ensures.finish {α V : Type} {fits : (Nat → V) → World × Record → Prop} {own : Nat}
    {good : α → V → Prop} {process : Process α} {views : Nat → V} {world : World}
    (ensures : Program.Ensures (S := LaneOperations) LaneOperation.performRecorded fits own good
      process (views own)) (fit : fits views (world, [])) :
    ∃ later record, good (process.finish world).1 later ∧
      fits (Function.update views own later) ((process.finish world).2, record) := by
  obtain ⟨later, fitting, ended⟩ := Program.Ensures.run ensures fit
  obtain ⟨result, state⟩ :=
    Program.run_of_extends extends_performRecorded process ((world, []) : World × Record)
  rw [result] at ended
  refine ⟨later, (process.run LaneOperation.performRecorded (world, [])).2.2, ended, ?_⟩
  rw [Process.finish, ← state]
  exact fitting

theorem Simulation.toNat_stride {simulation : Simulation σ} {lanes : List (Lane σ)}
    (few : lanes.length ≤ UInt16.size) :
    (simulation.plan lanes).stride.toNat = lanes.length := by
  simp only [plan, UInt64.toNat_ofNat', UInt16.size] at few ⊢
  omega

theorem Simulation.processEvents_of_recorded {simulation : Simulation σ} {turns : List Nat}
    {lanes : List (Lane σ)} {world : World}
    {ended : List ((Except Stop Nat × Lane σ) × Chronicle σ)} {state : World × Record}
    (recorded : runScheduled LaneOperation.performRecorded (simulation.telling lanes) turns
      ({ world with aborting := false }, []) = (ended, state)) :
    simulation.processEvents turns lanes world =
      (LaneEnds.together (ended.map fun told => told.1.1), ended.map fun told => told.1.2,
        state.1) := by
  obtain ⟨results, worlds⟩ := runScheduled_of_extends extends_performRecorded
    (simulation.telling lanes) turns (({ world with aborting := false }, []) : World × Record)
  rw [recorded] at results worlds
  rw [processEvents, loops_of_telling, ← results, ← worlds]
  simp only [List.map_map]
  rfl

end Beamline.Run
