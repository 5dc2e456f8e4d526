import Beamline.Proofs.AbortProtocol
import Beamline.Proofs.LaneWork
import Beamline.Proofs.TearDown

namespace Beamline.Run

variable {σ : Type}

/-- A loop that comes to its end numbered the event after each of its events. -/
def Numbers (plan : Plan) (event : UInt64) (ended : Except Stop Nat × Lane σ) : Prop :=
  ∀ processed, ended.1 = .ok processed → ∀ target, event ≤ target → target < plan.total →
    target.toNat % plan.stride.toNat = event.toNat % plan.stride.toNat →
      target < target + plan.stride

theorem Numbers.of_error (plan : Plan) (event : UInt64) (stop : Stop) (lane : Lane σ) :
    Numbers plan event (.error stop, lane) :=
  fun _ same => nomatch same

/-- Whatever its modules and the other lanes do, a lane numbers its events so. -/
theorem Lane.numbers_runEvents (plan : Plan) (lane : Lane σ) (event : UInt64) (processed : Nat) :
    Program.Respects (S := LaneOperations) (fun _ => True) (Numbers plan event)
      (lane.runEvents plan event processed) := by
  fun_induction Lane.runEvents plan lane event processed with
  | case1 lane event processed early ih =>
    apply (Program.respects_any (Process.ask .isAborting)).bind
    rintro (isAborting : Bool) _
    cases isAborting with
    | true => exact Numbers.of_error plan event _ lane
    | false =>
      apply (Program.respects_any (lane.runEvent event plan.seed)).bind
      rintro ⟨result, later⟩ _
      rcases result with (error | fault) | _
      · apply (Program.respects_any (Process.ask .abort)).bind
        exact fun _ _ => Numbers.of_error plan event _ later
      · exact Numbers.of_error plan event _ later
      · by_cases onward : event < event + plan.stride
        · simp only [if_pos onward]
          apply (ih later onward).mono
          intro ended numbers count same target upTo within remainder
          by_cases first : event = target
          · exact first ▸ onward
          · have far := Plan.next_le upTo first remainder
            rw [← Plan.toNat_next onward, ← UInt64.le_iff_toNat_le] at far
            refine numbers count same target far within ?_
            rw [remainder, Plan.toNat_next onward, Nat.add_mod_right]
        · simp only [if_neg onward]
          exact Numbers.of_error plan event _ later
  | case2 lane event processed late =>
    intro _ _ target upTo within _
    exact absurd (UInt64.lt_of_le_of_lt upTo within) late

namespace Simulation

variable {simulation : Simulation σ} {lanes : List (Lane σ)}

/-- Where the event loops succeed, the numbers of events do not end before the events. -/
theorem fits_of_processEvents
    (numbered : lanes.map Lane.id = (List.range lanes.length).map laneOf)
    (some : 0 < lanes.length) (few : lanes.length ≤ UInt16.size) {turns : List Nat}
    {world : World} (success : (simulation.processEvents turns lanes world).1 = .ok ()) :
    simulation.config.events.toNat + lanes.length ≤ UInt64.size := by
  have stride : (simulation.plan lanes).stride.toNat = lanes.length := toNat_stride few
  have size : UInt16.size ≤ UInt64.size := by decide
  by_cases none : simulation.config.events.toNat = 0
  · omega
  -- The last event belongs to one of the lanes, which numbered the event after it.
  let last : UInt64 := UInt64.ofNat (simulation.config.events.toNat - 1)
  have number : last.toNat = simulation.config.events.toNat - 1 :=
    @toNat_ofNat_of_lt simulation.config.events _ (by omega)
  let place := last.toNat % lanes.length
  have within : place < lanes.length := Nat.mod_lt _ some
  have first : (laneOf place).index.toUInt64.toNat = place := by
    have small : UInt16.size = ConfigError.maxWorkers + 1 := rfl
    exact toNat_laneOf (by omega)
  have each (place : Nat) (loop : Process (Except Stop Nat × Lane σ))
      (found : (simulation.loops lanes)[place]? = .some loop) :
      Program.Respects (S := LaneOperations) (fun _ => True)
        (Numbers (simulation.plan lanes) (laneOf place).index.toUInt64) loop := by
    rw [loops, List.getElem?_map, Option.map_eq_some_iff] at found
    obtain ⟨lane, present, rfl⟩ := found
    rw [← id_of_numbered numbered present]
    exact lane.numbers_runEvents _ _ _
  have length : (runScheduled LaneOperation.perform (simulation.loops lanes) turns
      { world with aborting := false }).1.length = lanes.length :=
    (runScheduled_length _ _ _ _).trans (List.length_map _)
  have found := List.getElem?_eq_getElem (length.symm ▸ within)
  have numbers := runScheduled_respects each LaneOperation.perform turns _ found
  obtain ⟨count, ended⟩ := LaneEnds.together_ok success
    (List.mem_map_of_mem (List.mem_of_getElem? found))
  have upTo : (laneOf place).index.toUInt64 ≤ last := by
    rw [UInt64.le_iff_toNat_le, first]
    exact Nat.mod_le _ _
  have early : last < simulation.config.events := by
    rw [UInt64.lt_iff_toNat_lt]
    omega
  have remainder : last.toNat % (simulation.plan lanes).stride.toNat =
      (laneOf place).index.toUInt64.toNat % (simulation.plan lanes).stride.toNat := by
    rw [stride, first, Nat.mod_mod]
  have next := Plan.toNat_next (numbers count ended last upTo early remainder)
  have bounded := (last + (simulation.plan lanes).stride).toNat_lt
  have words : UInt64.size = 2 ^ 64 := rfl
  omega

private theorem stages_of_success {turns : List Nat} {world first : World} {summary : Summary}
    (built : simulation.buildLanes simulation.config.workers.toNat 0 world = (.ok lanes, first))
    (success : (simulation.run turns world).result = .ok summary) : ∃ ready second,
      (stageInTurn .setUp Behaviour.setUp lanes).finish first = ((.ok (), ready), second) ∧
        (simulation.processEvents turns ready second).1 = .ok () := by
  rcases worked : simulation.work turns lanes first with ⟨stop | _, later, last⟩
  · obtain ⟨other, stopped⟩ := run_of_stop built worked
    exact nomatch success.symm.trans stopped
  · unfold work at worked
    rcases begun : (stageInTurn .setUp Behaviour.setUp lanes).finish first with
      ⟨⟨stop | _, ready⟩, second⟩
    · simp only [begun] at worked
      exact nomatch worked
    · rcases processed : simulation.processEvents turns ready second with ⟨stop | _, after, third⟩
      · simp only [begun, processed] at worked
        exact nomatch worked
      · exact ⟨ready, second, rfl, congrArg Prod.fst processed⟩

/-- In a run that succeeds, the numbers of events do not end before the events. -/
theorem fits_of_success {turns : List Nat} {world first : World} {summary : Summary}
    (built : simulation.buildLanes simulation.config.workers.toNat 0 world = (.ok lanes, first))
    (working : 0 < simulation.config.workers.toNat)
    (success : (simulation.run turns world).result = .ok summary) :
    simulation.config.events.toNat + simulation.config.workers.toNat ≤ UInt64.size := by
  obtain ⟨ready, second, begun, processed⟩ := stages_of_success built success
  obtain ⟨length, numbered, few⟩ := numbered_of_built built begun
  rw [← length] at working ⊢
  exact fits_of_processEvents numbered working few processed

end Simulation

end Beamline.Run
