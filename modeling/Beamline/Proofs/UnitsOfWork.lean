import Beamline.Proofs.NothingLeft

/-!
Units of work: whatever the modules of a lane do in an event, the lane keeps nothing from it once it
completed it, and the end of the event touches nothing of the other lanes.
-/

namespace Beamline.Bus.Bindings

variable {bindings : Bindings} {bus : Bus}

theorem mem_register {binding : Binding Filter} {flags : Flags} {handle : Handle}
    (member : handle ∈ bindings.handles) :
    handle ∈ (bindings.register bus binding flags).2.1.handles := by
  unfold register
  rcases bus.register bindings.identity binding flags with ⟨error | created, after⟩
  · exact member
  · exact List.mem_append_left _ member

private theorem mem_bindSlot {kind : SlotKind} {payload : PayloadType} {flags : Flags}
    {handle : Handle}
    (member : handle ∈ bindings.handles) :
    handle ∈ (bindings.bindSlot bus kind payload flags).2.1.handles := by
  rw [bindSlot_eq]
  exact mem_register member

private theorem bound_of_register {slot : Slot} {flags : Flags} {handle : Handle}
    (bound : (bindings.register bus (.slot slot) flags).1 = .ok handle) :
    handle ∈ (bindings.register bus (.slot slot) flags).2.1.handles ∧
      handle.place = .slot slot := by
  cases refusal : bus.messenger.refusal (.slot slot : Binding Filter) flags with
  | some reason =>
    simp only [register, register_of_refused refusal] at bound
    cases bound
  | none =>
    rw [register_of_suitable refusal] at bound ⊢
    obtain rfl := Except.ok.inj bound
    exact ⟨List.mem_append_right _ (List.mem_singleton.mpr rfl), rfl⟩

theorem bound_of_bindSlot {kind : SlotKind} {payload : PayloadType} {flags : Flags} {slot : Slot}
    (bound : (bindings.bindSlot bus kind payload flags).1 = .ok slot) :
    ∃ handle ∈ (bindings.bindSlot bus kind payload flags).2.1.handles,
      handle.place = .slot slot := by
  rw [bindSlot_eq] at bound ⊢
  cases registered : (bindings.register { bus with store := (bus.store.newSlot kind payload).2 }
    (.slot { number := bus.store.next, kind, payload }) flags).1 with
  | error error =>
    simp only [registered] at bound
    cases bound
  | ok handle =>
    simp only [registered] at bound
    obtain rfl := Except.ok.inj bound
    exact ⟨handle, bound_of_register registered⟩

end Beamline.Bus.Bindings

namespace Beamline.Run

open Bus

variable {σ : Type}

/-- What modules bind stays in their bindings until they release them. -/
structure Request.KeepsBound (request : Request) (scope : Scope) (world : World) : Prop where
  kept : request ≠ .release → ∀ handle ∈ scope.bindings.handles,
    handle ∈ (request.perform scope world).1.2.bindings.handles
  bound : ∀ kind payload flags, request = .bindSlot kind payload flags → ∀ slot,
    (scope.bindings.bindSlot world.bus kind payload flags).1 = .ok slot →
      ∃ handle ∈ (request.perform scope world).1.2.bindings.handles, handle.place = .slot slot

private theorem Request.keepsBound (request : Request) (scope : Scope) (world : World) :
    request.KeepsBound scope world where
  kept keeps handle member := by
    cases request with
    | release => exact absurd rfl keeps
    | bindSlot kind payload flags => exact Bindings.mem_bindSlot member
    | register binding flags => exact Bindings.mem_register member
    | draw wanted => exact member
    | _ => exact member
  bound kind payload flags same slot answered := by
    subst same
    exact Bindings.bound_of_bindSlot answered

/-- The events of a run are units of work: between them a lane keeps nothing. -/
structure UnitsOfWork (chronicles : List (Chronicle σ)) (record : Record) : Prop where
  /-- A lane completes each of its events in a world in which it keeps nothing. -/
  clean : ∀ (place : Nat) (chronicle : Chronicle σ), chronicles[place]? = some chronicle →
    List.Forall₂ (fun (lane : Lane σ) world => Clean (laneOf place) (handlesOf lane.modules) world)
      chronicle.completed (record.closings (laneOf place))
  /-- At every instant, modules find nothing but what is from their lane's event, and the end of an
  event is about its lane alone. -/
  isolated : ∀ earlier instant later, record = earlier ++ instant :: later →
    instant.Isolated earlier
  /-- What modules bound is what they find, unless they released it. -/
  bound : ∀ instant ∈ record, ∀ scope request, instant.operation = .request scope request →
    request.KeepsBound scope instant.before

namespace Simulation

theorem recorded_eq (simulation : Simulation σ) (turns : List Nat) {world first second : World}
    {lanes ready : List (Lane σ)}
    (built : simulation.buildLanes simulation.config.workers.toNat 0 world = (.ok lanes, first))
    (begun : (stageInTurn .setUp Behaviour.setUp lanes).finish first =
      ((.ok (), ready), second)) :
    (simulation.recorded turns world).1 = simulation.chronicles turns ready second := by
  obtain ⟨results, _⟩ := runScheduled_of_extends extends_performRecorded
    (simulation.telling ready) turns (({ second with aborting := false }, []) : Recorded)
  simp only [recorded, built, begun]
  exact congrArg (List.map Prod.snd) results

theorem recorded_unitsOfWork (simulation : Simulation σ)
    (offered : ∀ blueprint ∈ simulation.blueprints, blueprint.Offered) (turns : List Nat)
    {world : World} (new : world.bus.New) :
    UnitsOfWork (simulation.recorded turns world).1 (simulation.recorded turns world).2 := by
  have nothing : UnitsOfWork ([] : List (Chronicle σ)) [] :=
    ⟨nofun, fun earlier _ _ split => by simp at split, by simp⟩
  have built := (Holds.of_new new).buildLanes offered simulation.config.workers.toNat 0
    fun _ _ => rfl
  unfold recorded
  rcases made : simulation.buildLanes simulation.config.workers.toNat 0 world with
    ⟨stop | lanes, first⟩
  · exact nothing
  · rw [made] at built
    obtain ⟨_, held, holds, manned, _⟩ := built
    rcases begun : (Run.stageInTurn .setUp Behaviour.setUp lanes).finish first with
      ⟨⟨stop | _, ready⟩, second⟩
    · simp only [begun]
      exact nothing
    · obtain ⟨_, held, holds, manned, _⟩ :=
        holds.stageInTurn .setUp (fun _ offered => offered.setUp) manned begun
      rcases finished : runScheduled LaneOperation.performRecorded (simulation.telling ready)
        turns ({ second with aborting := false }, []) with ⟨ended, last, record⟩
      simp only [begun, finished]
      obtain ⟨length, holdings, ⟨returned, live, ledger⟩, ends, _⟩ :=
        holds.telling manned simulation turns finished
      refine ⟨fun place chronicle found => ?_, ledger.isolated,
        fun instant _ scope request _ => request.keepsBound scope instant.before⟩
      rw [List.getElem?_map, Option.map_eq_some_iff] at found
      obtain ⟨told, listed, rfl⟩ := found
      have within : place < ready.length := length ▸ (List.getElem?_eq_some_iff.mp listed).1
      have small := (manned place ready[place] (List.getElem?_eq_getElem within)).small
      rw [Nat.zero_add] at small
      obtain ⟨rest, worlds, told, counted, all⟩ := (ends place _ listed).closings
      rw [told, List.nil_append, (ledger.shown place small).closings, counted]
      exact all

end Simulation

namespace UnitsOfWorkExample

/-- A module that dispatches hits in every event. -/
def sending : Blueprint Unit where
  name := "Sending"
  construct _ _ := return ({
    run := fun _ => do
      let _ ← Code.dispatch { payload := .pixelHits [] } }, ())

/-- A module that requires hits and binds a further slot in every event. -/
def growing : Blueprint Unit where
  name := "Growing"
  construct _ _ := do
    let _ ← Code.bindSlot .single .pixelHit { required := true }
    return ({
      run := fun _ => do
        let _ ← Code.bindSlot .multi .pixelHit {} }, ())

private theorem sending_offered : sending.Offered := fun _ _ =>
  Code.offered_pure {
    setUp := Code.offered_pure trivial
    run := fun _ => (Code.offered_dispatch _ _).bind fun _ _ => Code.offered_pure trivial
    finish := Code.offered_pure trivial
    tearDown := Code.offered_release }

private theorem growing_offered : growing.Offered := by
  intro surroundings detector
  apply (Code.offered_bindSlot _ _ _).bind
  intro slot _
  exact Code.offered_pure {
    setUp := Code.offered_pure trivial
    run := fun _ => (Code.offered_bindSlot _ _ _).bind fun _ _ => Code.offered_pure trivial
    finish := Code.offered_pure trivial
    tearDown := Code.offered_release }

def simulation : Simulation Unit where
  config := { events := 3, workers := 2 }
  detectors := []
  blueprints := [sending, growing]

end UnitsOfWorkExample

open UnitsOfWorkExample in
/-- Three events on two lanes. -/
theorem unitsOfWork_of_growing :
    (∀ blueprint ∈ simulation.blueprints, blueprint.Offered) ∧ ({} : Bus).New ∧
      UnitsOfWork (simulation.recorded [1, 0, 1] {}).1 (simulation.recorded [1, 0, 1] {}).2 := by
  have offered : ∀ blueprint ∈ simulation.blueprints, blueprint.Offered := by
    simp only [simulation, List.forall_mem_cons, List.not_mem_nil, false_imp_iff, implies_true,
      and_true]
    exact ⟨sending_offered, growing_offered⟩
  exact ⟨offered, .default, simulation.recorded_unitsOfWork offered [1, 0, 1] .default⟩

end Beamline.Run
