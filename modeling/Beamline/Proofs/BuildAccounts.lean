import Beamline.Proofs.LaneAccounts
import Beamline.Proofs.Lists
import Beamline.Proofs.TearDown

namespace Beamline.Run

open Bus

variable {σ α : Type}

/-- Each lane holds some of its delegates, and every registered delegate is held. -/
structure Holding.All (held : Nat → List Handle) (returned live : List Handle) (bus : Bus) :
    Prop where
  separate : bus.Separate returned live
  owned : ∀ handle ∈ live, ∃ place, handle ∈ held place
  known : ∀ place, ∀ handle ∈ held place,
    handle ∈ returned ∧ handle.lane = laneOf place ∧ place ≤ ConfigError.maxWorkers

def Holds (held : Nat → List Handle) (world : World) : Prop :=
  ∃ returned live, Holding.All held returned live world.bus

/-- Accounts are kept from then on. -/
theorem Holds.accounts {held : Nat → List Handle} {world : World} (holds : Holds held world) :
    Accounts (fun place => { held := held place }) (world, []) := by
  obtain ⟨returned, live, separate, owned, known⟩ := holds
  refine ⟨returned, live, separate, owned, known, fun _ _ => ?_, ?_⟩
  · exact ⟨fun _ _ _ since => (nomatch since), by simp, nofun, rfl⟩
  · intro earlier instant later split
    simp at split

theorem Accounts.holds {holdings : Nat → Holding} {state : Recorded}
    (accounts : Accounts holdings state) :
    Holds (fun place => (holdings place).held) state.1 := by
  obtain ⟨returned, live, ledger⟩ := accounts
  exact ⟨returned, live, ledger.separate, ledger.owned, ledger.known⟩

namespace Holds

variable {held : Nat → List Handle} {world after : World} {own : Nat}

theorem same_bus (holds : Holds held world) (same : after.bus = world.bus) : Holds held after := by
  obtain ⟨returned, live, all⟩ := holds
  exact ⟨returned, live, same ▸ all⟩

/-- A process of one lane that nothing interrupts. -/
theorem finish (holds : Holds held world) {process : Process α} {good : α → Holding → Prop}
    (keeps : process.KeepsAccounts own good { held := held own }) :
    ∃ later, good (process.finish world).1 later ∧
      Holds (Function.update held own later.held) (process.finish world).2 := by
  obtain ⟨later, record, ended, accounts⟩ := Program.Ensures.finish keeps holds.accounts
  have same := Function.comp_update Holding.held (fun place => { held := held place }) own later
  exact ⟨later, ended, Eq.mp (congrArg (Holds · _) same) accounts.holds⟩

/-- Bindings that go take their delegates with them. -/
theorem drop (holds : Holds held world) {bindings : Bindings} {before rest : List Handle}
    (kept : held own = before ++ bindings.handles ++ rest) :
    Holds (Function.update held own (before ++ rest))
      { world with bus := (bindings.drop world.bus).2 } := by
  obtain ⟨returned, live, separate, owned, known⟩ := holds
  obtain ⟨messenger, removed, _, left⟩ := separate.removeAll bindings.handles
  have dropped : (bindings.drop world.bus).2 = { world.bus with messenger } := by
    rw [← removed, Bindings.drop_snd]
  refine ⟨returned, _, dropped ▸ left, ?_, ?_⟩
  · intro handle member
    obtain ⟨listed, apart⟩ := List.mem_filter.mp member
    obtain ⟨place, among⟩ := owned handle listed
    by_cases here : place = own
    · subst here
      refine ⟨place, ?_⟩
      rw [Function.update_self]
      rw [kept, List.append_assoc, List.mem_append, List.mem_append] at among
      rcases among with first | bound | last
      · exact List.mem_append_left _ first
      · have other := List.all_eq_true.mp apart handle bound
        simp at other
      · exact List.mem_append_right _ last
    · exact ⟨place, by rwa [Function.update_of_ne here]⟩
  · intro place handle member
    by_cases here : place = own
    · subst here
      rw [Function.update_self] at member
      apply known place handle
      rw [kept]
      rcases List.mem_append.mp member with first | last
      · simp [first]
      · simp [last]
    · rw [Function.update_of_ne here] at member
      exact known place handle member

/-- A number that is used up. -/
theorem newIdentity (holds : Holds held world) (name : String) (detector : Option Detector)
    (lane : LaneId) (input output : String) :
    Holds held (world.newIdentity name detector lane input output).2 := by
  obtain ⟨returned, live, separate, owned, known⟩ := holds
  refine ⟨returned, live, ?_, owned, known⟩
  exact separate.frame rfl rfl rfl rfl (Nat.le_succ _) fun slot filled =>
    Nat.lt_succ_of_lt (separate.vacant slot filled)

end Holds

/-! ## Building -/

/-- A blueprint of modules that request only what bindings offer, also while they are built. -/
def Blueprint.Offered (blueprint : Blueprint σ) : Prop :=
  ∀ surroundings detector,
    (blueprint.construct surroundings detector).Offered fun made => made.1.Offered

section Build

variable {held : Nat → List Handle} {world : World} {own : Nat}

/-- What building one module comes to: if it fails, nothing of it is left. -/
def Built (held : Nat → List Handle) (own : Nat) : Except Stop (Module σ) × World → Prop
  | (.error _, after) => Holds held after
  | (.ok module, after) => module.Offered own ∧
    Holds (Function.update held own (held own ++ module.bindings.handles)) after

theorem Holds.build (holds : Holds held world) (small : own ≤ ConfigError.maxWorkers)
    {blueprint : Blueprint σ} (offered : blueprint.Offered) {surroundings : Surroundings}
    (lane : surroundings.lane = laneOf own) (detector : Option Detector) :
    Built held own (blueprint.build surroundings detector world) := by
  rcases named : world.newIdentity blueprint.name detector surroundings.lane blueprint.input
    blueprint.output with ⟨identity, begun⟩
  have started := holds.newIdentity blueprint.name detector surroundings.lane blueprint.input
    blueprint.output
  have home : identity.lane = laneOf own :=
    (congrArg (fun made => made.1.lane) named).symm.trans lane
  rw [named] at started
  let program : Program Requests (Except Stop (Behaviour σ × σ) × Unit) :=
    blueprint.construct surroundings detector ()
  have inside := @keepsAccounts_within _ own { held := held own } (held own) [] small
    { bindings := { identity } } program _ (offered surroundings detector ()) home (by simp)
  obtain ⟨later, ⟨good, same, kept, _⟩, ends⟩ := started.finish inside
  rcases finished : Process.finish (program.within Process.request { bindings := { identity } })
    begun with ⟨⟨⟨result, _⟩, scope⟩, ended⟩
  rw [finished] at good same kept ends
  rw [List.append_nil] at kept
  unfold Blueprint.build
  simp only [named, program, finished]
  cases result with
  | error stop =>
    have dropped := @Holds.drop _ ended own ends scope.bindings (held own) []
      (by rw [Function.update_self, kept, List.append_nil])
    rw [List.append_nil, Function.update_idem, Function.update_eq_self] at dropped
    exact dropped
  | ok made =>
    rw [kept] at ends
    exact ⟨⟨(congrArg Identity.lane same).trans home, good made rfl⟩, ends⟩

/-- What building the modules of a lane comes to: if one fails, nothing of any of them is left. -/
def AllBuilt (held : Nat → List Handle) (own : Nat) :
    Except Stop (List (Module σ)) × World → Prop
  | (.error _, after) => Holds held after
  | (.ok modules, after) => (∀ module ∈ modules, module.Offered own) ∧
    Holds (Function.update held own (held own ++ handlesOf modules)) after

theorem Holds.buildModules (holds : Holds held world) (small : own ≤ ConfigError.maxWorkers)
    {surroundings : Surroundings} (lane : surroundings.lane = laneOf own)
    {instances : List (Blueprint σ × Option Detector)}
    (offered : ∀ built ∈ instances, built.1.Offered) :
    AllBuilt held own (Run.buildModules surroundings instances world) := by
  induction instances generalizing held world with
  | nil =>
    refine ⟨by simp, ?_⟩
    rw [handlesOf, List.flatMap_nil, List.append_nil, Function.update_eq_self]
    exact holds
  | cons first rest ih =>
    obtain ⟨blueprint, detector⟩ := first
    rw [List.forall_mem_cons] at offered
    have built := holds.build small offered.1 lane detector
    unfold Run.buildModules
    rcases made : blueprint.build surroundings detector world with ⟨_ | module, middle⟩
    · rw [made] at built
      exact built
    · rw [made] at built
      obtain ⟨permitted, kept⟩ := built
      have others := ih kept offered.2
      rcases more : Run.buildModules surroundings rest middle with ⟨_ | modules, after⟩
      · -- The modules before the one that failed are dropped.
        rw [more] at others
        have dropped := @Holds.drop _ after own others module.bindings (held own) []
          (by rw [Function.update_self, List.append_nil])
        rw [List.append_nil, Function.update_idem, Function.update_eq_self] at dropped
        simp only [more]
        exact dropped
      · rw [more] at others
        obtain ⟨rest, all⟩ := others
        rw [Function.update_idem, Function.update_self, List.append_assoc, ← handlesOf_cons] at all
        simp only [more]
        exact ⟨List.forall_mem_cons.mpr ⟨permitted, rest⟩, all⟩

theorem Holds.dropLane (holds : Holds held world) {lane : Lane σ} {rest : List Handle}
    (kept : held own = handlesOf lane.modules ++ rest) :
    Holds (Function.update held own rest) (lane.drop world) := by
  obtain ⟨id, modules⟩ := lane
  unfold Lane.drop
  induction modules generalizing held world with
  | nil =>
    rw [handlesOf, List.flatMap_nil, List.nil_append] at kept
    rw [← kept, Function.update_eq_self]
    exact holds
  | cons module others ih =>
    rw [handlesOf_cons, List.append_assoc] at kept
    have first := @Holds.drop _ world own holds module.bindings [] (handlesOf others ++ rest)
      (by rw [kept, List.nil_append])
    have dropped := ih first (by rw [Function.update_self, List.nil_append])
    rw [Function.update_idem] at dropped
    exact dropped

end Build

/-- A lane with its number, whose modules request only what bindings offer, and what it holds. -/
structure Manned (own : Nat) (lane : Lane σ) (held : List Handle) : Prop where
  small : own ≤ ConfigError.maxWorkers
  id : lane.id = laneOf own
  offered : ∀ module ∈ lane.modules, module.Offered own
  held : held = handlesOf lane.modules

def AllManned (number : Nat) (lanes : List (Lane σ)) (held : Nat → List Handle) : Prop :=
  ∀ place lane, lanes[place]? = some lane → Manned (number + place) lane (held (number + place))

theorem allManned_cons {number : Nat} {lane : Lane σ} {lanes : List (Lane σ)}
    {held : Nat → List Handle} : AllManned number (lane :: lanes) held ↔
      Manned number lane (held number) ∧ AllManned (number + 1) lanes held :=
  @forall_getElem?_cons _ (fun place lane => Manned place lane (held place)) number lane lanes

/-- A number of lanes, counted from one on, go on, and the others hold what they held. -/
def Onward (held : Nat → List Handle) (number count : Nat) (lanes : List (Lane σ))
    (world : World) : Prop :=
  lanes.length = count ∧ ∃ later, Holds later world ∧ AllManned number lanes later ∧
    ∀ place, place < number ∨ number + count ≤ place → later place = held place

section Onward

variable {held : Nat → List Handle} {world after : World} {number count : Nat}
  {handles : List Handle} {lane : Lane σ} {lanes others : List (Lane σ)}

theorem Onward.cons (first : Manned number lane handles)
    (rest : Onward (Function.update held number handles) (number + 1) count lanes world) :
    Onward held number (count + 1) (lane :: lanes) world := by
  obtain ⟨length, later, holds, manned, others⟩ := rest
  have same : later number = handles := by
    rw [others number (.inl (Nat.lt_succ_self _)), Function.update_self]
  refine ⟨congrArg (· + 1) length, later, holds, allManned_cons.mpr ⟨same ▸ first, manned⟩, ?_⟩
  intro place outside
  rw [others place (by omega), Function.update_of_ne (by omega)]

theorem Onward.trans (first : Onward held number count lanes world)
    (second : ∀ later, Holds later world → AllManned number lanes later →
      Onward later number lanes.length others after) :
    Onward held number count others after := by
  obtain ⟨rfl, later, holds, manned, same⟩ := first
  obtain ⟨length, last, ends, onward, still⟩ := second later holds manned
  exact ⟨length, last, ends, onward,
    fun place outside => (still place outside).trans (same place outside)⟩

theorem AllManned.update (manned : AllManned (number + 1) lanes held) :
    AllManned (number + 1) lanes (Function.update held number handles) := by
  intro place lane found
  rw [Function.update_of_ne (by omega)]
  exact manned place lane found

theorem Holds.onward (holds : Holds held world) (manned : AllManned number lanes held) :
    Onward held number lanes.length lanes world :=
  ⟨rfl, held, holds, manned, fun _ _ => rfl⟩

end Onward

section Build

variable {held : Nat → List Handle} {world : World}

/-- What building lanes comes to: if one fails, nothing of any of them is left. -/
def LanesBuilt (held : Nat → List Handle) (number count : Nat) :
    Except Stop (List (Lane σ)) × World → Prop
  | (.error _, after) => Holds held after
  | (.ok lanes, after) => Onward held number count lanes after

/-- What is so of all blueprints is so of what the modules of a lane are built from. -/
theorem Blueprint.forall_instances {good : Blueprint σ → Prop} {blueprints : List (Blueprint σ)}
    (each : ∀ blueprint ∈ blueprints, good blueprint) (detectors : List Detector) :
    ∀ built ∈ Blueprint.instances blueprints detectors, good built.1 := by
  intro built member
  obtain ⟨blueprint, among, member⟩ := List.mem_flatMap.mp member
  have same : built.1 = blueprint := by
    split at member
    · obtain ⟨detector, _, rfl⟩ := List.mem_map.mp member
      rfl
    · rw [List.mem_singleton.mp member]
  rw [same]
  exact each blueprint among

theorem Holds.buildLanes (holds : Holds held world) {simulation : Simulation σ}
    (offered : ∀ blueprint ∈ simulation.blueprints, blueprint.Offered)
    (count number : Nat) (none : ∀ place, number ≤ place → held place = []) :
    LanesBuilt held number count (simulation.buildLanes count number world) := by
  induction count generalizing number held world with
  | zero => exact holds.onward nofun
  | succ count ih =>
    unfold Simulation.buildLanes Simulation.buildLane
    by_cases many : ConfigError.maxWorkers < number
    · simp only [if_pos many]
      exact holds
    · simp only [if_neg many]
      have small : number ≤ ConfigError.maxWorkers := Nat.le_of_not_lt many
      have built := @Holds.buildModules _ held world number holds small {
        lane := laneOf number, detectors := simulation.detectors
        pipeline := simulation.config.pipeline } rfl _
        (Blueprint.forall_instances offered simulation.detectors)
      unfold laneOf at built
      generalize Run.buildModules _ _ world = made at built ⊢
      rcases made with ⟨_ | modules, middle⟩
      · exact built
      · obtain ⟨permitted, kept⟩ := built
        rw [none number (Nat.le_refl _), List.nil_append] at kept
        have beyond (place : Nat) (later : number + 1 ≤ place) :
            Function.update held number (handlesOf modules) place = [] := by
          rw [Function.update_of_ne (by omega)]
          exact none place (by omega)
        have others := ih kept (number + 1) beyond
        dsimp only
        generalize Simulation.buildLanes simulation count (number + 1) middle = made at others ⊢
        rcases made with ⟨_ | lanes, after⟩
        · -- The lanes before the one that failed are dropped.
          have dropped := @Holds.dropLane _ _ after number others
            { id := laneOf number, modules } [] (by rw [Function.update_self, List.append_nil])
          rw [Function.update_idem, ← none number (Nat.le_refl _), Function.update_eq_self]
            at dropped
          exact dropped
        · exact Onward.cons ⟨small, rfl, permitted, rfl⟩ others

end Build

end Beamline.Run
