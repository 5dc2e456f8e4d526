import Beamline.Proofs.LaneWork

namespace Beamline.Run

variable {σ : Type} {count own : Nat}

/-- Each of `count` lanes is counted with as many events as it completed. -/
def Counted (count : Nat) (before completed : Nat → Nat) (world : World) : Prop :=
  ∀ place < count, world.metrics.processed.count (laneOf place) = before place + completed place

/-- A process of one of `count` lanes that keeps the events counted that they completed. -/
abbrev Process.KeepsCount {α : Type} (process : Process α) (count : Nat) (before : Nat → Nat)
    (own : Nat) (good : α → Nat → Prop) (completed : Nat) : Prop :=
  Program.Ensures (S := LaneOperations) LaneOperation.perform (Counted count before) own good
    process completed

private theorem LaneOperation.OfModule.processed_perform {operation : LaneOperation}
    (ofModule : operation.OfModule) (world : World) :
    (operation.perform world).2.metrics.processed = world.metrics.processed := by
  cases ofModule with
  | request scope wanted => cases wanted <;> rfl
  | countError name kind => rfl

section Counted

variable {before : Nat → Nat} {number : Nat}

theorem counted_begin (count : Nat) (world : World) :
    Counted count (fun place => world.metrics.processed.count (laneOf place)) (fun _ => 0)
      { world with aborting := false } :=
  fun _ _ => rfl

theorem Process.OfModules.keepsCount {α : Type} {process : Process α}
    (ofModules : process.OfModules) :
    process.KeepsCount count before own (fun _ later => later = number) number := by
  refine (Program.Respects.ensures ofModules ?_ number).mono fun _ _ kept => kept.2
  intro operation ofModule counts world counted place within
  rw [ofModule.processed_perform]
  exact counted place within

theorem keepsCount_ask {operation : LaneOperation} (kept : ∀ world : World,
    (operation.perform world).2.metrics.processed = world.metrics.processed) :
    (Process.ask operation).KeepsCount count before own (fun _ later => later = number)
      number := by
  apply Program.ensures_ask (S := LaneOperations)
  rintro counts world counted rfl
  refine ⟨counts own, ?_, rfl⟩
  rw [Function.update_eq_self]
  intro place within
  rw [kept]
  exact counted place within

private theorem keepsCount_countEvent (few : count ≤ UInt16.size) (within : own < count) :
    (Process.ask (.countEvent (laneOf own))).KeepsCount count before own
      (fun _ later => later = number + 1) number := by
  apply Program.ensures_ask (S := LaneOperations)
  rintro counts world counted rfl
  refine ⟨counts own + 1, fun place listed => ?_, rfl⟩
  have small : UInt16.size = ConfigError.maxWorkers + 1 := rfl
  simp only [LaneOperation.perform, Telemetry.Metrics.countEvent, Telemetry.Counts.increase,
    Telemetry.Counts.count, Std.HashMap.getD_insert, beq_iff_eq]
  by_cases same : place = own
  · subst same
    rw [if_pos rfl, Function.update_self, ← Nat.add_assoc]
    exact congrArg (· + 1) (counted place listed)
  · rw [Function.update_of_ne same,
      if_neg fun equal => same (laneOf_injective (by omega) (by omega) equal).symm]
    exact counted place listed

private theorem Lane.keepsCount_runEvent (few : count ≤ UInt16.size) (within : own < count)
    {lane : Lane σ} (id : lane.id = laneOf own) (event seed : UInt64) :
    (lane.runEvent event seed).KeepsCount count before own
      (fun ended later => ended.2.id = lane.id ∧
        later = number + if ended.1 = .ok () then 1 else 0) number := by
  apply Program.Ensures.bind (ofModules_callInTurn lane.modules _).keepsCount
  rintro ⟨result, modules, context⟩ number rfl
  have timed (result : Except Stop Unit) (later : Nat)
      (counted : later = number + if result = .ok () then 1 else 0) :
      Process.KeepsCount
        ((Process.ask .timeEvent).bind fun _ => .done (result, { lane with modules })) count before
        own (fun ended later => ended.2.id = lane.id ∧
          later = number + if ended.1 = .ok () then 1 else 0) later := by
    apply Program.Ensures.bind (keepsCount_ask fun _ => rfl)
    rintro _ _ rfl
    exact ⟨rfl, counted⟩
  cases result with
  | error stop => exact timed _ _ rfl
  | ok _ =>
    refine Program.Ensures.bind ?_ timed
    apply Program.Ensures.bind (ofModules_firstUnmet _).keepsCount
    rintro (_ | ⟨module, error⟩) _ rfl
    · apply Program.Ensures.bind (ofModules_resetModules _).keepsCount
      rintro _ _ rfl
      apply Program.Ensures.bind (keepsCount_ask fun _ => rfl)
      rintro _ _ rfl
      rw [id]
      apply Program.Ensures.bind (keepsCount_countEvent few within)
      rintro _ _ rfl
      rfl
    · apply Program.Ensures.bind (module.ofModules_recordError .run _).keepsCount
      rintro _ _ rfl
      rfl

theorem Chronicle.length_completed (past : Chronicle σ) (event : UInt64)
    (calls : List StageCall) (result : Except Stop Unit) (lane : Lane σ) :
    (completed (past ++ [.looked false, .processed event calls result lane])).length =
      past.completed.length + if result = .ok () then 1 else 0 := by
  rw [completed, List.filterMap_append, List.length_append]
  rcases result with stop | _ <;> rfl

/-- A lane is counted with the events that it completes, whatever the other lanes do. -/
theorem Lane.keepsCount_tellEvents (few : count ≤ UInt16.size) (within : own < count)
    {lane : Lane σ} (id : lane.id = laneOf own) (plan : Plan) (event : UInt64) (processed : Nat)
    (past : Chronicle σ) :
    (lane.tellEvents plan event processed past).KeepsCount count before own
      (fun ended completed => completed = ended.2.completed.length) past.completed.length := by
  fun_induction Lane.tellEvents plan lane event processed past with
  | case1 lane event processed past early ih =>
    apply Program.Ensures.bind (keepsCount_ask fun _ => rfl)
    rintro (isAborting : Bool) _ rfl
    cases isAborting with
    | true =>
      have same : Chronicle.completed (past ++ [.looked true]) = past.completed := by
        rw [Chronicle.completed, List.filterMap_append]
        exact List.append_nil _
      exact congrArg List.length same.symm
    | false =>
      apply Program.Ensures.bind (Lane.ensures_tellEvent
        (keepsCount_runEvent few within id event plan.seed))
      rintro ⟨⟨result, later⟩, calls⟩ _ ⟨same, rfl⟩
      rw [← Chronicle.length_completed past event calls result later]
      rcases result with (error | fault) | _
      · apply Program.Ensures.bind (keepsCount_ask fun _ => rfl)
        rintro _ _ rfl
        rfl
      · rfl
      · by_cases onward : event < event + plan.stride
        · simp only [if_pos onward]
          exact ih _ later _ onward (same.trans id)
        · simp only [if_neg onward]
          rfl
  | case2 lane event processed past late => rfl

end Counted

end Beamline.Run
