import Beamline.Proofs.EventLoop
import Beamline.Proofs.LaneWork
import Beamline.Proofs.LoopEnds

/-!
How the event loops of all lanes end together: by every schedule the run succeeds where every event
was processed, and fails otherwise with the error of the first lane one of whose own events failed.
-/

namespace Beamline.Run

variable {σ : Type}

/-! ## Ends taken together -/

namespace LaneEnds

variable {ends : List (Except Stop Nat)}

end LaneEnds

/-! ## Loops that ended together -/

/-- The end of an event loop, with its lane and its chronicle. -/
abbrev Ended (σ : Type) := (Except Stop Nat × Lane σ) × Chronicle σ

/-- The event loops of all lanes, each of which went one of its ways; one that found the flag raised
had another one to raise it. -/
structure Concerted (plan : Plan) (loops : List (Ended σ)) : Prop where
  count : loops.length = plan.stride.toNat
  moving : 0 < plan.stride.toNat
  few : plan.stride.toNat ≤ UInt16.size
  follows : ∀ place loop, loops[place]? = some loop →
    Follows plan (laneOf place) (laneOf place).index.toUInt64 loop.1.1 loop.2
  signalled : ∀ loop ∈ loops, ∀ lane, loop.1.1 = .error (.error (.aborted lane)) →
    ∃ other ∈ loops, ∃ error, other.1.1 = .error (.error error) ∧
      ByItself error

namespace Concerted

variable {plan : Plan} {loops : List (Ended σ)}

theorem toNat_first (concerted : Concerted plan loops) {place : Nat} {loop : Ended σ}
    (found : loops[place]? = some loop) : place < plan.stride.toNat ∧
      (laneOf place).index.toUInt64.toNat = place := by
  have within := (List.getElem?_eq_some_iff.mp found).1
  have few := concerted.few
  have count := concerted.count
  refine ⟨by omega, ?_⟩
  simp only [laneOf, UInt16.toNat_toUInt64, UInt16.toNat_ofNat', UInt16.size] at *
  omega

theorem place_of_processed (concerted : Concerted plan loops) {place : Nat} {loop : Ended σ}
    (found : loops[place]? = some loop) {event : UInt64} {result : Except Stop Unit}
    (member : (event, result) ∈ loop.2.results) :
    event < plan.total ∧ event.toNat % plan.stride.toNat = place := by
  obtain ⟨within, first⟩ := concerted.toNat_first found
  obtain ⟨_, early, remainder⟩ := (concerted.follows place loop found).bounds member
  rw [first, Nat.mod_eq_of_lt within] at remainder
  exact ⟨early, remainder⟩

/-- No event is processed twice, also not by two lanes. -/
theorem once (concerted : Concerted plan loops) {one other : Ended σ} (first : one ∈ loops)
    (second : other ∈ loops) {event : UInt64} {result again : Except Stop Unit}
    (member : (event, result) ∈ one.2.results) (also : (event, again) ∈ other.2.results) :
    result = again := by
  obtain ⟨place, found⟩ := List.mem_iff_getElem?.mp first
  obtain ⟨place', found'⟩ := List.mem_iff_getElem?.mp second
  obtain rfl : place = place' :=
    (concerted.place_of_processed found member).2.symm.trans
      (concerted.place_of_processed found' also).2
  obtain rfl := Option.some.inj (found.symm.trans found')
  exact (concerted.follows place one found).once member also

/-- A loop ends by itself unless it found the flag raised. -/
theorem ended_cases (concerted : Concerted plan loops) {loop : Ended σ} (member : loop ∈ loops) :
    (∃ event stop, (event, .error stop) ∈ loop.2.results ∧ loop.1.1 = .error stop ∧
        Own (.error stop : Except Stop Unit)) ∨
      ((∀ event result, (event, result) ∈ loop.2.results → result = .ok ()) ∧
        ((∃ processed, loop.1.1 = .ok processed) ∨
          (∃ lane, loop.1.1 = .error (.error (.aborted lane))) ∨
          loop.1.1 = .error (.fault .addition) ∧ plan.Overflows)) := by
  obtain ⟨place, found⟩ := List.mem_iff_getElem?.mp member
  rcases (concerted.follows place loop found).ended_cases concerted.moving with
    failed | ⟨all, ok | aborted | overflows⟩
  · exact .inl failed
  · exact .inr ⟨all, .inl ok⟩
  · exact .inr ⟨all, .inr (.inl ⟨_, aborted⟩)⟩
  · exact .inr ⟨all, .inr (.inr overflows)⟩

theorem ended_of_failed (concerted : Concerted plan loops) {loop : Ended σ}
    (member : loop ∈ loops) {event : UInt64} {stop : Stop}
    (failed : (event, .error stop) ∈ loop.2.results) :
    loop.1.1 = .error stop ∧ Own (.error stop : Except Stop Unit) := by
  obtain ⟨place, found⟩ := List.mem_iff_getElem?.mp member
  exact (concerted.follows place loop found).ended_of_failed failed

theorem failed_of_own (concerted : Concerted plan loops) {loop : Ended σ} (member : loop ∈ loops)
    {error : RunError} (ended : loop.1.1 = .error (.error error))
    (own : ByItself error) :
    ∃ event, (event, .error (.error error)) ∈ loop.2.results := by
  rcases concerted.ended_cases member with
    ⟨event, stop, failed, same, _⟩ | ⟨_, ⟨_, ok⟩ | ⟨lane, aborted⟩ | ⟨fault, _⟩⟩
  · obtain rfl := Except.error.inj (same.symm.trans ended)
    exact ⟨event, failed⟩
  · exact absurd (ok.symm.trans ended) nofun
  · obtain rfl := Stop.error.inj (Except.error.inj (aborted.symm.trans ended))
    exact absurd rfl (own lane)
  · exact absurd (Except.error.inj (fault.symm.trans ended)) nofun

theorem failed_of_aborted (concerted : Concerted plan loops) {loop : Ended σ}
    (member : loop ∈ loops) {lane : LaneId}
    (ended : loop.1.1 = .error (.error (.aborted lane))) :
    ∃ other ∈ loops, ∃ event error, (event, .error (.error error)) ∈ other.2.results := by
  obtain ⟨other, among, error, last, own⟩ := concerted.signalled loop member lane ended
  obtain ⟨event, failed⟩ := concerted.failed_of_own among last own
  exact ⟨other, among, event, error, failed⟩

/-- Every event is processed unless another one fails. -/
theorem covers (concerted : Concerted plan loops) {event : UInt64} (early : event < plan.total) :
    (∃ loop ∈ loops, ∃ result, (event, result) ∈ loop.2.results) ∨
      ∃ loop ∈ loops, ∃ other stop, other ≠ event ∧ (other, .error stop) ∈ loop.2.results := by
  have within : event.toNat % plan.stride.toNat < loops.length := by
    rw [concerted.count]
    exact Nat.mod_lt _ concerted.moving
  have found := List.getElem?_eq_getElem within
  obtain ⟨small, first⟩ := concerted.toNat_first found
  have member := List.mem_of_getElem? found
  have upTo : (laneOf (event.toNat % plan.stride.toNat)).index.toUInt64 ≤ event := by
    rw [UInt64.le_iff_toNat_le, first]
    exact Nat.mod_le _ _
  have remainder : event.toNat % plan.stride.toNat =
      (laneOf (event.toNat % plan.stride.toNat)).index.toUInt64.toNat % plan.stride.toNat := by
    rw [first, Nat.mod_mod]
  rcases (concerted.follows _ _ found).covers concerted.moving upTo early remainder with
    processed | ⟨earlier, stop, other, failed⟩ | aborted
  · exact .inl ⟨_, member, processed⟩
  · exact .inr ⟨_, member, earlier, stop, other, failed⟩
  · obtain ⟨loop, among, another, error, failed⟩ := concerted.failed_of_aborted member aborted
    by_cases same : another = event
    · subst same
      exact .inl ⟨loop, among, _, failed⟩
    · exact .inr ⟨loop, among, another, _, same, failed⟩

def together (loops : List (Ended σ)) : Except Stop Unit :=
  LaneEnds.together (loops.map fun loop => loop.1.1)

/-- A fault of the run is a fault in an event, or the numbers of events end. -/
theorem together_fault (concerted : Concerted plan loops) {fault : Fault}
    (failed : together loops = .error (.fault fault)) :
    (∃ loop ∈ loops, ∃ event, (event, .error (.fault fault)) ∈ loop.2.results) ∨
      fault = .addition ∧ plan.Overflows := by
  obtain ⟨loop, member, ended⟩ := List.mem_map.mp (LaneEnds.together_fault failed)
  rcases concerted.ended_cases member with
    ⟨event, stop, processed, same, _⟩ | ⟨_, ⟨_, ok⟩ | ⟨lane, aborted⟩ | ⟨addition, overflows⟩⟩
  · obtain rfl := Except.error.inj (same.symm.trans ended)
    exact .inl ⟨loop, member, event, processed⟩
  · exact absurd (ok.symm.trans ended) nofun
  · exact absurd (Except.error.inj (aborted.symm.trans ended)) nofun
  · obtain rfl := Stop.fault.inj (Except.error.inj (addition.symm.trans ended))
    exact .inr ⟨rfl, overflows⟩

end Concerted

/-! ## By every schedule -/

namespace Simulation

/-- The event loops of all lanes as a schedule leaves them. -/
def ended (simulation : Simulation σ) (turns : List Nat) (lanes : List (Lane σ)) (world : World) :
    List (Ended σ) :=
  (runScheduled LaneOperation.perform (simulation.telling lanes) turns
    { world with aborting := false }).1

variable {simulation : Simulation σ} {lanes : List (Lane σ)}

theorem processEvents_fst (turns : List Nat) (world : World) :
    (simulation.processEvents turns lanes world).1 =
      Concerted.together (simulation.ended turns lanes world) := by
  unfold processEvents
  rw [loops_of_telling]
  simp only [List.map_map]
  rfl

theorem length_ended (turns : List Nat) (world : World) :
    (simulation.ended turns lanes world).length = lanes.length :=
  (runScheduled_length _ _ _ _).trans (List.length_map _)

theorem forall_chronicles {turns : List Nat} {world : World} {holds : Chronicle σ → Prop} :
    (∀ chronicle ∈ simulation.chronicles turns lanes world, holds chronicle) ↔
      ∀ loop ∈ simulation.ended turns lanes world, holds loop.2 :=
  List.forall_mem_map

theorem getElem?_chronicles {turns : List Nat} {world : World} {place : Nat} {loop : Ended σ}
    (found : (simulation.ended turns lanes world)[place]? = .some loop) :
    (simulation.chronicles turns lanes world)[place]? = .some loop.2 := by
  rw [chronicles, List.getElem?_map]
  exact congrArg (Option.map Prod.snd) found

end Simulation

namespace Simulation

end Simulation

namespace AbortProtocolExample

/-- A module that fails in the second event of a run. -/
def failing : Module Unit where
  bindings := { identity := { number := 0, name := "Failing" } }
  behaviour := { run := fun event => if event = 1 then Code.fail (.threadPool "full") else pure () }
  state := ()

def lanes : List (Lane Unit) :=
  [{ id := laneOf 0, modules := [failing] }, { id := laneOf 1, modules := [failing] }]

def three : Simulation Unit where
  config := { events := 3, workers := 2 }
  detectors := []

end AbortProtocolExample

end Beamline.Run
