import Beamline.Proofs.BuildAccounts

namespace Beamline.Run

open Bus

variable {σ α : Type}

section Stages

variable {own : Nat} {holding : Holding} {before rest : List Handle}

theorem keepsAccounts_tearDown (small : own ≤ ConfigError.maxWorkers) {module : Module σ}
    (offered : module.Offered own)
    (held : holding.held = before ++ module.bindings.handles ++ rest) :
    module.tearDown.KeepsAccounts own
      (fun ended later => ended.2.Offered own ∧
        later.held = before ++ ended.2.bindings.handles ++ rest) holding := by
  apply Program.Ensures.bind (keepsAccounts_call small offered offered.behaviour.tearDown none held)
  rintro ⟨result, called, context⟩ later ⟨_, permitted, kept, _⟩
  rcases result with stop | _
  · exact ⟨permitted, kept⟩
  · have idle : LaneOperation.Idle (.delegatesOf called.identity) := trivial
    apply Program.Ensures.bind (keepsAccounts_idle idle)
    rintro (left : Nat) _ rfl
    by_cases none : left = 0
    · rw [if_pos none]
      exact ⟨permitted, kept⟩
    · rw [if_neg none]
      exact ⟨permitted, kept⟩

private theorem keepsAccounts_tearDownModules (small : own ≤ ConfigError.maxWorkers)
    {modules : List (Module σ)} (offered : ∀ module ∈ modules, module.Offered own)
    (held : holding.held = before ++ handlesOf modules) :
    (tearDownModules modules).KeepsAccounts own
      (fun ended later => (∀ module ∈ ended.2, module.Offered own) ∧
        later.held = before ++ handlesOf ended.2) holding := by
  induction modules generalizing holding before with
  | nil => exact ⟨offered, held⟩
  | cons module rest ih =>
    rw [List.forall_mem_cons] at offered
    rw [handlesOf_cons, ← List.append_assoc] at held
    apply Program.Ensures.bind (keepsAccounts_tearDown small offered.1 held)
    rintro ⟨result, torn⟩ later ⟨permitted, kept⟩
    -- Unless a fault stops it, what follows is the tear-down of the other modules.
    have onward (change : Except Stop Unit → Except Stop Unit) : Process.KeepsAccounts
        ((tearDownModules rest).bind fun ended => .done (change ended.1, torn :: ended.2)) own
        (fun ended later => (∀ module ∈ ended.2, module.Offered own) ∧
          later.held = before ++ handlesOf ended.2) later := by
      apply Program.Ensures.bind (ih offered.2 kept)
      rintro ⟨_, others⟩ last ⟨allowed, keeps⟩
      refine ⟨List.forall_mem_cons.mpr ⟨permitted, allowed⟩, ?_⟩
      rw [handlesOf_cons, ← List.append_assoc]
      exact keeps
    rcases result with (error | fault) | _
    · apply Program.Ensures.bind (keepsAccounts_recordError torn .tearDown error)
      rintro error _ rfl
      exact onward (Stop.both (.error (.error error)))
    · refine ⟨List.forall_mem_cons.mpr ⟨permitted, offered.2⟩, ?_⟩
      rw [handlesOf_cons, ← List.append_assoc]
      exact kept
    · exact onward id

variable {held : Nat → List Handle} {world : World} {number : Nat} {lanes : List (Lane σ)}

/-- A process of the first lane, from which its modules come back. -/
theorem Holds.first (holds : Holds held world) {lane : Lane σ}
    (manned : AllManned number (lane :: lanes) held) {process : Process α}
    {modules : α → List (Module σ)}
    (keeps : process.KeepsAccounts number
      (fun ended later => (∀ module ∈ modules ended, module.Offered number) ∧
        later.held = handlesOf (modules ended)) { held := held number })
    {ended : α} {middle : World} (finished : process.finish world = (ended, middle)) :
    ∃ handles, Manned number { lane with modules := modules ended } handles ∧
      Holds (Function.update held number handles) middle ∧
      AllManned (number + 1) lanes (Function.update held number handles) := by
  obtain ⟨⟨small, id, _, _⟩, others⟩ := allManned_cons.mp manned
  obtain ⟨later, ⟨permitted, kept⟩, ends⟩ := holds.finish keeps
  rw [finished] at permitted kept ends
  exact ⟨later.held, ⟨small, id, permitted, kept⟩, ends, others.update⟩

/-- A stage of all lanes, whether or not one of them stops early in it. -/
theorem Holds.stageInTurn (holds : Holds held world) (stage : Stage)
    {code : Behaviour σ → Code σ Unit}
    (permitted : ∀ behaviour : Behaviour σ, behaviour.Offered →
      (code behaviour).Offered fun _ => True) (manned : AllManned number lanes held)
    {ended : Except Stop Unit × List (Lane σ)} {after : World}
    (finished : (Run.stageInTurn stage code lanes).finish world = (ended, after)) :
    Onward held number lanes.length ended.2 after := by
  induction lanes generalizing number held world ended after with
  | nil =>
    obtain ⟨rfl, rfl⟩ := Prod.mk.inj finished
    exact holds.onward manned
  | cons lane rest ih =>
    obtain ⟨small, _, offered, kept⟩ := (allManned_cons.mp manned).1
    have called : (callInTurn stage code lane.modules none).KeepsAccounts number
        (fun ended later => (∀ module ∈ ended.2.1, module.Offered number) ∧
          later.held = handlesOf ended.2.1) { held := held number } := by
      apply (keepsAccounts_callInTurn small stage permitted offered none
        (kept.trans (List.nil_append _).symm)).mono
      rintro ended later ⟨permitted, keeps, _⟩
      exact ⟨permitted, keeps⟩
    rcases begun : (callInTurn stage code lane.modules none).finish world with
      ⟨⟨result, modules, context⟩, middle⟩
    obtain ⟨handles, first, holds, others⟩ := holds.first manned called begun
    replace finished := (Process.finish_bind begun).symm.trans finished
    rcases result with stop | _
    · obtain ⟨rfl, rfl⟩ := Prod.mk.inj finished
      exact .cons first (holds.onward others)
    · rcases more : (Run.stageInTurn stage code rest).finish middle with ⟨later, last⟩
      obtain ⟨rfl, rfl⟩ := Prod.mk.inj ((Process.finish_bind more).symm.trans finished)
      exact .cons first (ih holds others more)

/-- The tear-down of all lanes, also where a fault stops it. -/
theorem Holds.tearDownLanes (holds : Holds held world) (manned : AllManned number lanes held)
    {ended : Except Stop Unit × List (Lane σ)} {after : World}
    (finished : (Run.tearDownLanes lanes).finish world = (ended, after)) :
    Onward held number lanes.length ended.2 after := by
  induction lanes generalizing number held world ended after with
  | nil =>
    obtain ⟨rfl, rfl⟩ := Prod.mk.inj finished
    exact holds.onward manned
  | cons lane rest ih =>
    obtain ⟨small, _, offered, kept⟩ := (allManned_cons.mp manned).1
    have torn := @keepsAccounts_tearDownModules σ number { held := held number } [] small _ offered
      (kept.trans (List.nil_append _).symm)
    rcases begun : (tearDownModules lane.modules).finish world with ⟨⟨result, modules⟩, middle⟩
    obtain ⟨handles, first, holds, others⟩ := holds.first manned torn begun
    replace finished := (Process.finish_bind begun).symm.trans finished
    have onward (result : Except Stop Unit)
        (finished : Process.finish ((Run.tearDownLanes rest).bind fun others =>
          .done (Stop.both result others.1, { lane with modules } :: others.2)) middle =
            (ended, after)) : Onward held number (rest.length + 1) ended.2 after := by
      rcases more : (Run.tearDownLanes rest).finish middle with ⟨later, last⟩
      obtain ⟨rfl, rfl⟩ := Prod.mk.inj ((Process.finish_bind more).symm.trans finished)
      exact .cons first (ih holds others more)
    rcases result with (error | fault) | _
    · exact onward (.error (.error error)) finished
    · obtain ⟨rfl, rfl⟩ := Prod.mk.inj finished
      exact .cons first (holds.onward others)
    · exact onward (.ok ()) finished

/-- Lanes that go take all their delegates with them. -/
theorem Holds.dropLanes (holds : Holds held world) (manned : AllManned number lanes held) :
    ∃ later, Holds later (Run.dropLanes lanes world) ∧
      (∀ place, number ≤ place → place < number + lanes.length → later place = []) ∧
      ∀ place, place < number ∨ number + lanes.length ≤ place → later place = held place := by
  unfold Run.dropLanes
  induction lanes generalizing number held world with
  | nil => exact ⟨held, holds, fun place above below => absurd above (Nat.not_le.mpr below),
      fun _ _ => rfl⟩
  | cons lane rest ih =>
    obtain ⟨⟨_, _, _, kept⟩, others⟩ := allManned_cons.mp manned
    have first := holds.dropLane (kept.trans (List.append_nil _).symm)
    obtain ⟨later, ends, gone, same⟩ := ih first others.update
    refine ⟨later, ends, fun place above below => ?_, fun place outside => ?_⟩
    · rw [List.length_cons] at below
      by_cases here : place = number
      · rw [here, same number (.inl (Nat.lt_succ_self _)), Function.update_self]
      · exact gone place (by omega) (by omega)
    · rw [List.length_cons] at outside
      rw [same place (by omega), Function.update_of_ne (by omega)]

/-! ## Event loops -/

/-- The event loops of all lanes, wherever they stop. -/
theorem Holds.telling (holds : Holds held world) (manned : AllManned 0 lanes held)
    (simulation : Simulation σ) (turns : List Nat)
    {ended : List ((Except Stop Nat × Lane σ) × Chronicle σ)} {after : Recorded}
    (finished : runScheduled LaneOperation.performRecorded (simulation.telling lanes) turns
      ({ world with aborting := false }, []) = (ended, after)) :
    ended.length = lanes.length ∧ ∃ last, Accounts last after ∧
      (∀ place told, ended[place]? = some told →
        Kept place { held := held place } [] told (last place)) ∧
      ∀ place, lanes.length ≤ place → last place = { held := held place } := by
  have count : (simulation.telling lanes).length = lanes.length := List.length_map ..
  have starts : Holds held { world with aborting := false } := holds.same_bus rfl
  have begun := starts.accounts
  have each (place : Nat) (loop : Process ((Except Stop Nat × Lane σ) × Chronicle σ))
      (found : (simulation.telling lanes)[place]? = some loop) :
      loop.KeepsAccounts place (Kept place { held := held place } []) { held := held place } := by
    rw [Simulation.telling, List.getElem?_map, Option.map_eq_some_iff] at found
    obtain ⟨lane, listed, rfl⟩ := found
    obtain ⟨small, id, offered, kept⟩ := manned place lane listed
    rw [Nat.zero_add] at small id offered kept
    exact keepsAccounts_tellEvents small id offered kept _ 0 []
  obtain ⟨last, accounts, ends, others⟩ := runScheduled_ensures begun each turns
  have length := runScheduled_length LaneOperation.performRecorded
    (simulation.telling lanes) turns (({ world with aborting := false }, []) : Recorded)
  rw [finished] at accounts ends length
  rw [count] at others length
  exact ⟨length, last, accounts, ends, others⟩

theorem Holds.processEvents (holds : Holds held world) (manned : AllManned 0 lanes held)
    (simulation : Simulation σ) (turns : List Nat) {result : Except Stop Unit}
    {later : List (Lane σ)} {after : World}
    (finished : simulation.processEvents turns lanes world = (result, later, after)) :
    Onward held 0 lanes.length later after := by
  rcases recorded : runScheduled LaneOperation.performRecorded (simulation.telling lanes) turns
    ({ world with aborting := false }, []) with ⟨ended, state⟩
  obtain ⟨length, last, accounts, ends, others⟩ := holds.telling manned simulation turns recorded
  rw [Simulation.processEvents_of_recorded recorded] at finished
  obtain ⟨_, rfl, rfl⟩ : _ ∧ _ ∧ _ := by simpa only [Prod.mk.injEq] using finished
  refine ⟨(List.length_map _).trans length,
    fun place => (last place).held, accounts.holds, fun place lane found => ?_,
    fun place outside => ?_⟩
  · obtain ⟨told, listed, rfl⟩ := Option.map_eq_some_iff.mp (List.getElem?_map.symm.trans found)
    have within : place < lanes.length := length ▸ (List.getElem?_eq_some_iff.mp listed).1
    have small := (manned place lanes[place] (List.getElem?_eq_getElem within)).small
    obtain ⟨id, offered, kept, _⟩ := ends place told listed
    rw [Nat.zero_add] at small ⊢
    exact ⟨small, id, offered, kept⟩
  · rw [Nat.zero_add] at outside
    exact congrArg Holding.held (others place (by omega))

/-- The stages from setting up to finishing, whichever of them stops early. -/
theorem Holds.work (holds : Holds held world) (manned : AllManned 0 lanes held)
    (simulation : Simulation σ) (turns : List Nat) {result : Except Stop Unit}
    {later : List (Lane σ)} {after : World}
    (finished : simulation.work turns lanes world = (result, later, after)) :
    Onward held 0 lanes.length later after := by
  unfold Simulation.work at finished
  rcases begun : (Run.stageInTurn .setUp Behaviour.setUp lanes).finish world with
    ⟨⟨prepared, ready⟩, first⟩
  simp only [begun] at finished
  apply (holds.stageInTurn .setUp (fun _ offered => offered.setUp) manned begun).trans
  intro held holds manned
  rcases prepared with stop | _
  · obtain ⟨_, rfl, rfl⟩ : _ ∧ _ ∧ _ := by simpa only [Prod.mk.injEq] using finished
    exact holds.onward manned
  · rcases looped : simulation.processEvents turns ready first with ⟨ended, middle, second⟩
    simp only [looped] at finished
    apply (holds.processEvents manned simulation turns looped).trans
    intro held holds manned
    rcases ended with stop | _
    · obtain ⟨_, rfl, rfl⟩ : _ ∧ _ ∧ _ := by simpa only [Prod.mk.injEq] using finished
      exact holds.onward manned
    · rcases last : (Run.stageInTurn .finish Behaviour.finish middle).finish second with
        ⟨⟨done, ends⟩, third⟩
      simp only [last] at finished
      obtain ⟨_, rfl, rfl⟩ : _ ∧ _ ∧ _ := by simpa only [Prod.mk.injEq] using finished
      exact holds.stageInTurn .finish (fun _ offered => offered.finish) manned last

end Stages

end Beamline.Run
