import Beamline.Proofs.RunAccounts

/-!
Whichever way a run ends, no delegate is left behind: neither a module that fails to be built, nor
one that fails later, nor one whose tear-down releases nothing keeps its delegates registered.
-/

namespace Beamline.Bus

/-- A bus with a new messenger. What its store contains is in places that were made. -/
structure New (bus : Bus) : Prop where
  messenger : bus.messenger = {}
  vacant : ∀ slot, bus.store.contents slot ≠ [] → slot.number < bus.store.next

/-- A messenger without delegates: its registry is empty and in order, and whatever was registered
with it was removed again. -/
structure Messenger.Empty (messenger : Messenger) : Prop where
  handles : messenger.registry.handles = []
  count : messenger.delegateCount = 0
  verified : messenger.verify = .ok ()
  balanced : messenger.stats.registered = messenger.stats.removed

theorem New.default : ({} : Bus).New :=
  ⟨rfl, fun slot filled => absurd (by simp [Store.contents]) filled⟩

theorem New.separate {bus : Bus} (new : bus.New) : bus.Separate [] [] := by
  have unused : (Usage.fresh bus.store).bus = bus := by
    rw [Usage.fresh, ← new.messenger]
  have sound : bus.Sound [] [] := unused ▸ (Usage.sound_fresh bus.store).bus
  refine ⟨sound, ?_, .nil, by simp, new.vacant⟩
  rw [new.messenger]
  rfl

theorem Separate.empty {bus : Bus} {returned : List Handle} (separate : bus.Separate returned []) :
    bus.messenger.Empty := by
  have lists := Usage.Sound.lists separate.sound
  constructor
  · exact List.eq_nil_iff_forall_not_mem.mpr fun handle member =>
      List.not_mem_nil (lists.mem_handles.mp member)
  · simp [Messenger.delegateCount, lists.size_index]
  · rw [Messenger.verify, lists.bijective.inconsistency_eq_none]
  · exact separate.counted

end Beamline.Bus

namespace Beamline.Run

open Bus

variable {σ : Type}

theorem Holds.of_new {world : World} (new : world.bus.New) : Holds (fun _ => []) world :=
  ⟨[], [], new.separate, by simp, by simp⟩

theorem Holds.empty {held : Nat → List Handle} {world : World} (holds : Holds held world)
    (none : ∀ place, held place = []) : world.bus.messenger.Empty := by
  obtain ⟨returned, live, separate, owned, _⟩ := holds
  have nobody : live = [] := by
    apply List.eq_nil_iff_forall_not_mem.mpr
    intro handle member
    obtain ⟨place, among⟩ := owned handle member
    rw [none place] at among
    exact List.not_mem_nil among
  subst nobody
  exact separate.empty

theorem Onward.empty_dropLanes {count : Nat} {lanes : List (Lane σ)} {world : World}
    (onward : Onward (fun _ => []) 0 count lanes world) :
    (dropLanes lanes world).bus.messenger.Empty := by
  obtain ⟨rfl, held, holds, manned, others⟩ := onward
  obtain ⟨later, ends, gone, same⟩ := holds.dropLanes manned
  apply ends.empty
  intro place
  by_cases within : place < lanes.length
  · exact gone place (Nat.zero_le _) (by omega)
  · rw [same place (by omega), others place (by omega)]

namespace Simulation

/-- A run of modules that register only with their bindings leaves nothing, wherever it stops. -/
theorem run_empty (simulation : Simulation σ)
    (offered : ∀ blueprint ∈ simulation.blueprints, blueprint.Offered) (turns : List Nat)
    {world : World} (new : world.bus.New) :
    (simulation.run turns world).world.bus.messenger.Empty := by
  have built := (Holds.of_new new).buildLanes offered simulation.config.workers.toNat 0
    fun _ _ => rfl
  rcases made : simulation.buildLanes simulation.config.workers.toNat 0 world with
    ⟨stop | lanes, first⟩
  · rw [made] at built
    simp only [run, made]
    exact built.empty fun _ => rfl
  · rw [made] at built
    rcases worked : simulation.work turns lanes first with ⟨result, later, second⟩
    have onward := built.trans fun held holds manned => holds.work manned simulation turns worked
    rcases torn : (tearDownLanes later).finish second with ⟨⟨tornDown, last⟩, third⟩
    have ending := onward.trans fun held holds manned => holds.tearDownLanes manned torn
    rcases simulation.bus_run made worked torn with dropped | dropped
    · rw [dropped]
      exact onward.empty_dropLanes
    · rw [dropped]
      exact ending.empty_dropLanes

end Simulation

namespace NothingLeftExample

/-- A module that binds a slot and fails in its first event; its tear-down releases nothing. -/
def keeping : Blueprint Unit where
  name := "Keeping"
  construct _ _ := do
    let _ ← Code.bindSlot .multi .pixelHit {}
    return ({ run := fun _ => Code.fail (.threadPool "full"), tearDown := pure () }, ())

theorem keeping_offered : keeping.Offered := by
  intro surroundings detector
  apply (Code.offered_bindSlot _ _ _).bind
  intro slot _
  exact Code.offered_pure {
    setUp := Code.offered_pure trivial
    run := fun _ => Code.offered_throw _
    finish := Code.offered_pure trivial
    tearDown := Code.offered_pure trivial }

def simulation : Simulation Unit where
  config := { events := 3, workers := 2 }
  detectors := []
  blueprints := [keeping, keeping]

end NothingLeftExample

open NothingLeftExample in
/-- Two lanes of two modules each, of which the first fails. -/
theorem empty_of_keeping :
    (∀ blueprint ∈ simulation.blueprints, blueprint.Offered) ∧ ({} : Bus).New ∧
      (simulation.run [1, 0] {}).world.bus.messenger.Empty := by
  have offered : ∀ blueprint ∈ simulation.blueprints, blueprint.Offered := by
    simp only [simulation, List.forall_mem_cons, List.not_mem_nil, false_imp_iff, implies_true,
      and_true]
    exact ⟨keeping_offered, keeping_offered⟩
  exact ⟨offered, .default, simulation.run_empty offered [1, 0] .default⟩

end Beamline.Run
