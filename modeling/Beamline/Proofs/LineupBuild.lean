import Beamline.Proofs.DemoBuild
import Beamline.Proofs.LineupEvents
import Beamline.Proofs.NothingLeft

namespace Beamline.Run

open Bus

variable {σ α : Type} {steady : Prop} {own : Nat} {benches : Nat → Bench} {world : World}

/-- Before the first event nothing is dispatched. What a lane does then is not interrupted, and
whether other lanes shall stop does not matter yet. -/
structure Staged (benches : Nat → Bench) (world : World) : Prop where
  laid : Laid False benches (world, [])
  clear : ∀ place, (benches place).toView = .clear []

namespace Staged

theorem of_laid {notes : List Note} (laid : Laid False benches (world, notes))
    (clear : ∀ place, (benches place).toView = .clear []) : Staged benches world := by
  obtain ⟨returned, live, layout⟩ := laid
  refine ⟨⟨returned, live, layout.separate, fun place few => ?_, nofun⟩, clear⟩
  have shown := layout.shown place few
  refine { shown with sent := ?_ }
  rw [congrArg View.sent (clear place)]
  rfl

theorem start (new : world.bus.New) : Staged (fun _ => .empty) world where
  laid := by
    refine ⟨[], [], new.separate, fun place _ => ?_, nofun⟩
    exact ⟨by simp [Bench.empty], by simp [Bench.empty], by simp, by simp [Bench.empty], rfl⟩
  clear _ := rfl

theorem newIdentity (staged : Staged benches world) (name : String) (detector : Option Detector)
    (lane : LaneId) (input output : String) :
    Staged benches (world.newIdentity name detector lane input output).2 := by
  obtain ⟨⟨returned, live, layout⟩, clear⟩ := staged
  exact ⟨⟨returned, live, layout.newIdentity name detector lane input output⟩, clear⟩

/-- A process that nothing interrupts. -/
theorem finish (staged : Staged benches world) {process : Process α} {good : α → Bench → Prop}
    (keeps : process.KeepsBenches False own good (benches own))
    (clear : ∀ result after, good result after → after.toView = .clear []) :
    ∃ after, good (process.finish world).1 after ∧
      Staged (Function.update benches own after) (process.finish world).2 := by
  obtain ⟨after, fits, ends⟩ := Program.Ensures.run keeps staged.laid
  obtain ⟨same, last⟩ := Program.run_of_extends extends_performNoted process (world, [])
  rw [same] at ends
  refine ⟨after, ends, ?_⟩
  have view (place : Nat) : (Function.update benches own after place).toView = .clear [] := by
    by_cases here : place = own
    · subst here
      rw [Function.update_self]
      exact clear _ _ ends
    · rw [Function.update_of_ne here]
      exact staged.clear place
  rw [show (process.finish world).2 = _ from last.symm]
  exact of_laid fits view

/-! ## Observers -/

def WatchBuilt (steady : Prop) (benches : Nat → Bench) (own : Nat) :
    Except Stop (Module σ) × World → Prop
  | (.error _, _) => ¬steady
  | (.ok module, after) => ∃ more, Onlooker steady own ((benches own).join more).others module ∧
    Staged (Function.update benches own ((benches own).join more)) after

private theorem build_watch (staged : Staged benches world) (small : own ≤ ConfigError.maxWorkers)
    {blueprint : Blueprint σ} (observes : blueprint.Observes steady) {surroundings : Surroundings}
    (lane : surroundings.lane = laneOf own) (detector : Option Detector) :
    WatchBuilt steady benches own (blueprint.build surroundings detector world) := by
  rcases named : world.newIdentity blueprint.name detector surroundings.lane blueprint.input
    blueprint.output with ⟨identity, begun⟩
  have started := staged.newIdentity blueprint.name detector surroundings.lane blueprint.input
    blueprint.output
  have home : identity.lane = laneOf own :=
    (congrArg (fun made => made.1.lane) named).symm.trans lane
  rw [named] at started
  let program : Program Requests (Except Stop (Behaviour σ × σ) × Unit) :=
    blueprint.construct surroundings detector ()
  have inside := @keepsBenches_observes _ False steady own (benches own) small program _
    { bindings := { identity } } [] (observes surroundings detector) home (by simp) (by simp)
    (by simp)
  obtain ⟨after, ⟨more, ⟨good, calm⟩, rfl, same, _, kept, free⟩, ends⟩ :=
    started.finish inside fun _ _ ⟨_, _, joined, _⟩ => joined ▸ staged.clear own
  rcases finished : Process.finish (program.within Process.request { bindings := { identity } })
    begun with ⟨⟨⟨result, _⟩, scope⟩, ended⟩
  rw [finished] at good calm same kept ends
  rw [List.nil_append] at good kept free
  unfold Blueprint.build
  simp only [named, program, finished]
  rcases result with stop | ⟨behaviour, state⟩
  · exact fun going => nomatch calm going
  · obtain ⟨knows, known, observing⟩ := good behaviour state rfl
    refine ⟨more, ⟨(congrArg Identity.lane same).trans home, more, knows, ?_, kept, known, observing,
      free⟩, ends⟩
    exact fun handle member => List.mem_append_right _ member

end Staged

theorem keepsBenches_bindSlot {going : Prop} {bench : Bench} (small : own ≤ ConfigError.maxWorkers)
    {scope : Scope} (lane : scope.bindings.identity.lane = laneOf own)
    (clear : bench.toView = .clear []) (kind : SlotKind) (payload : PayloadType) (flags : Flags)
    (suits : ∀ number, flags.incompatibility
      (Binding.slot (F := Filter) { number, kind, payload }).kind = none) :
    (Process.ask (.request scope (.bindSlot kind payload flags))).KeepsBenches going own
      (fun answered after => ∃ id number, let slot : Slot := { number, kind, payload }
        let handle := Handle.ofSlot id scope.bindings.identity slot flags
        answered = (.ok slot, { scope with
          bindings := { scope.bindings with handles := scope.bindings.handles ++ [handle] } }) ∧
          after = bench.install [handle]) bench := by
  apply Program.ensures_ask (S := LaneOperations)
  rintro benches observed ⟨returned, live, layout⟩ rfl
  rcases layout.separate.bindSlot_cases scope.bindings kind payload flags with
    ⟨error, refused, unsuitable, bound⟩ | ⟨id, accepted, bound⟩
  · exact absurd (suits _) unsuitable
  · let handle := Handle.ofSlot id scope.bindings.identity
      { number := observed.1.bus.store.next, kind, payload } flags
    let later : Scope := { scope with
      bindings := (scope.bindings.bindSlot observed.1.bus kind payload flags).2.1 }
    have aside : Aside returned live [] [handle] _ scope later observed.1.bus _ :=
      .binding layout.separate bound rfl
    have installed := @Layout.install going returned live _ benches observed
      (LaneOperation.performNoted (.request scope (.bindSlot kind payload flags)) observed).2 own []
      [handle] scope later ⟨.request scope (.bindSlot kind payload flags), _⟩ layout small aside
      lane (by simp)
      (fun other new => ⟨by rw [clear]; rfl, bound.empty other new⟩) rfl rfl layout.going
    refine ⟨_, ⟨_, _, installed⟩, id, _, ?_, rfl⟩
    refine Prod.ext accepted ?_
    exact congrArg (fun bindings => { scope with bindings }) bound.handles

end Beamline.Run

namespace Beamline.Demo

open Bus Run

/-! ## The modules of the demonstration chain -/

/-- What a module in a role is built from, with the counters in a part of its state. -/
def Role.instanceIn {σ : Type} (lens : CounterLens σ) (start : σ) (role : Role) :
    Blueprint σ × Option Detector :=
  ((role.instance_ 0).1.zoom lens.part lens.put start, (role.instance_ 0).2)

section Build

variable {σ : Type} {lens : CounterLens σ} {steady : Prop} {start : σ} {own : Nat}
  {role : Role} {benches : Nat → Bench} {bench : Bench} {world : World}
  {surroundings : Surroundings}

theorem Role.keepsBenches_construct (among : role ∈ acting surroundings.detectors)
    (small : own ≤ ConfigError.maxWorkers) (clear : bench.toView = .clear []) {identity : Identity}
    (unnamed : Unnamed (laneOf own) (role.instance_ 0).2 identity) :
    let program : Program Requests (Except Stop (Behaviour Counters × Counters) × Unit) :=
      (role.instance_ 0).1.construct surroundings (role.instance_ 0).2 ()
    Process.KeepsBenches False own (program.within Process.request { bindings := { identity } })
      (fun ended after => ∃ inner : Module Counters, inner.state = {} ∧
        Plays 0 (laneOf own) surroundings.detectors surroundings.pipeline role inner ∧
          ended = ((.ok (inner.behaviour, inner.state), ()), { bindings := inner.bindings }) ∧
          after = bench.install inner.bindings.handles) bench := by
  intro program
  cases role with
  | generator =>
    exact ⟨_, rfl, .generator {} identity unnamed, rfl, by simp [Bench.install]⟩
  | transfer detector =>
    have bound := @keepsBenches_bindSlot own False bench small { bindings := { identity } }
      unnamed.lane clear .multi .deposit {} fun _ => rfl
    apply Program.Ensures.bind bound
    rintro _ _ ⟨id, number, rfl, rfl⟩
    let slot : Slot := { number, kind := .multi, payload := .deposit }
    exact ⟨_, rfl, .transfer {} detector identity unnamed id slot rfl rfl, rfl, rfl⟩
  | digitizer detector =>
    have bound := @keepsBenches_bindSlot own False bench small { bindings := { identity } }
      unnamed.lane clear .single .pixelCharge { required := true } fun _ => rfl
    apply Program.Ensures.bind bound
    rintro _ _ ⟨id, number, rfl, rfl⟩
    let slot : Slot := { number, kind := .single, payload := .pixelCharge }
    exact ⟨_, rfl, .digitizer {} detector identity unnamed id slot rfl rfl, rfl, rfl⟩
  | reader => simp [acting] at among
  | monitor => simp [acting] at among

variable (lens start)

/-- Building a module in a role. -/
theorem Role.build (among : role ∈ acting surroundings.detectors)
    (matrices : ∀ detector ∈ surroundings.detectors, detector.Filled) (staged : Staged benches world)
    (small : own ≤ ConfigError.maxWorkers) (lane : surroundings.lane = laneOf own) :
    ∃ module after, (role.instanceIn lens start).1.build surroundings
        (role.instanceIn lens start).2 world = (.ok module, after) ∧
      Acts lens (laneOf own) surroundings.detectors surroundings.pipeline { role } module ∧
      Staged (Function.update benches own ((benches own).install module.bindings.handles)) after := by
  let blueprint := (role.instanceIn lens start).1
  let detector := (role.instanceIn lens start).2
  rcases named : world.newIdentity blueprint.name detector surroundings.lane blueprint.input
    blueprint.output with ⟨identity, begun⟩
  have started := staged.newIdentity blueprint.name detector surroundings.lane blueprint.input
    blueprint.output
  rw [named] at started
  have unnamed : Unnamed (laneOf own) (role.instance_ 0).2 identity := by
    have same : (world.newIdentity ..).1 = identity := congrArg Prod.fst named
    rw [← same]
    refine ⟨lane, rfl, ?_, ?_⟩
    all_goals cases role <;> rfl
  let program : Program Requests (Except Stop (Behaviour σ × σ) × Unit) :=
    blueprint.construct surroundings detector ()
  have inside : Process.KeepsBenches False own
      (program.within Process.request { bindings := { identity } })
      (fun ended after => ∃ inner : Module Counters, inner.state = {} ∧
        Plays 0 (laneOf own) surroundings.detectors surroundings.pipeline role inner ∧
          ended = ((.ok (inner.behaviour.zoom lens.part lens.put, lens.put inner.state start), ()),
            { bindings := inner.bindings }) ∧
          after = (benches own).install inner.bindings.handles) (benches own) := by
    have constructed := role.keepsBenches_construct among small (staged.clear own) unnamed
    have zoomed : program = Program.bind _ _ := Code.bind_apply ..
    rw [zoomed]
    simp only [Program.within_bind]
    apply Program.Ensures.bind constructed
    rintro _ _ ⟨inner, blank, plays, rfl, rfl⟩
    exact ⟨inner, blank, plays, rfl, rfl⟩
  obtain ⟨after, ⟨inner, blank, plays, ended, rfl⟩, ends⟩ :=
    started.finish inside fun _ _ ⟨_, _, _, _, installed⟩ => installed ▸ staged.clear own
  rcases finished : Process.finish (program.within Process.request { bindings := { identity } })
    begun with ⟨last, final⟩
  rw [finished] at ended ends
  subst ended
  refine ⟨{ inner with
    behaviour := inner.behaviour.zoom lens.part lens.put
    state := lens.put inner.state start }, final, ?_,
    ⟨among, matrices, ?_, inner, plays, rfl, rfl⟩, ends⟩
  · change blueprint.build surroundings detector world = _
    unfold Blueprint.build
    simp only [named]
    rw [show Process.finish _ begun = _ from finished]
  · change (lens.part (lens.put inner.state start)).lostCharge = 0
    rw [lens.part_put, blank]
    rfl

end Build

/-! ## Lanes -/

/-- The duties of modules before the first event. -/
def fresh (roles : List Role) : List Duty :=
  roles.map fun role => { role }

private theorem roles_fresh (roles : List Role) : (fresh roles).map Duty.role = roles :=
  (List.map_map ..).trans (List.map_id roles)

section Lanes

variable {σ : Type} (lens : CounterLens σ) (steady : Prop) (start : σ)

/-- What the modules of a lane are built from: those in roles, one after the other, and observers
anywhere between them. -/
inductive Scripted (detectors : List Detector) :
    List Role → List (Blueprint σ × Option Detector) → Prop
  | nil : Scripted detectors [] []
  | watch {roles : List Role} {blueprint : Blueprint σ} {detector : Option Detector}
      {rest : List (Blueprint σ × Option Detector)} (observes : blueprint.Observes steady)
      (further : Scripted detectors roles rest) :
      Scripted detectors roles ((blueprint, detector) :: rest)
  | act {role : Role} {roles : List Role} {rest : List (Blueprint σ × Option Detector)}
      (among : role ∈ acting detectors) (further : Scripted detectors roles rest) :
      Scripted detectors (role :: roles) (role.instanceIn lens start :: rest)

variable {lens steady start} {own number : Nat} {benches : Nat → Bench} {world : World}
  {detectors : List Detector} {pipeline : Pipeline} {roles : List Role}

/-- What building the modules of a lane comes to. -/
def CastBuilt (lens : CounterLens σ) (steady : Prop)
    (detectors : List Detector) (pipeline : Pipeline) (roles : List Role) (benches : Nat → Bench)
    (own : Nat) : Except Stop (List (Module σ)) × World → Prop
  | (.error _, _) => ¬steady
  | (.ok modules, after) => ∃ core more,
    let bench := ((benches own).install core).join more
    Lineup lens steady own detectors pipeline bench.others (fresh roles) core modules ∧
      Staged (Function.update benches own bench) after

theorem Scripted.buildModules {instances : List (Blueprint σ × Option Detector)}
    {surroundings : Surroundings} (matrices : ∀ detector ∈ surroundings.detectors, detector.Filled)
    (scripted : Scripted lens steady start surroundings.detectors roles instances)
    (staged : Staged benches world) (small : own ≤ ConfigError.maxWorkers)
    (lane : surroundings.lane = laneOf own) :
    CastBuilt lens steady surroundings.detectors surroundings.pipeline roles benches own
      (Run.buildModules surroundings instances world) := by
  induction scripted generalizing benches world with
  | nil =>
    refine ⟨[], [], .nil, ?_⟩
    rw [Bench.install_nil, Bench.join_nil, Function.update_eq_self]
    exact staged
  | @watch roles blueprint detector rest observes further ih =>
    have built := staged.build_watch small observes lane detector
    unfold Run.buildModules
    rcases made : blueprint.build surroundings detector world with ⟨stop | module, middle⟩
    · rw [made] at built
      exact built
    · rw [made] at built
      obtain ⟨more, onlooker, kept⟩ := built
      have others := ih kept
      rcases later : Run.buildModules surroundings rest middle with ⟨stop | modules, after⟩
      · rw [later] at others
        simp only [later]
        exact others
      · rw [later] at others
        simp only [later]
        obtain ⟨core, further, lineup, all⟩ := others
        rw [Function.update_self, Bench.join_install, Bench.join_join] at lineup all
        rw [Function.update_idem] at all
        refine ⟨core, more ++ further, .watch (onlooker.mono fun handle member => ?_) lineup, all⟩
        rw [Bench.join, ← List.append_assoc]
        exact List.mem_append_left _ member
  | @act role roles rest among further ih =>
    obtain ⟨module, middle, made, acts, kept⟩ := role.build lens start among matrices staged small lane
    have others := ih kept
    unfold Run.buildModules
    simp only [Role.instanceIn] at made ⊢
    rw [made]
    rcases later : Run.buildModules surroundings rest middle with ⟨stop | modules, after⟩
    · rw [later] at others
      simp only [later]
      exact others
    · rw [later] at others
      simp only [later]
      obtain ⟨core, more, lineup, all⟩ := others
      rw [Function.update_self, Bench.install_install] at lineup all
      rw [Function.update_idem] at all
      exact ⟨_, more, .act acts lineup, all⟩

/-- Lanes with the numbers from one on are ready for their events. -/
def AllReady (lens : CounterLens σ) (steady : Prop)
    (detectors : List Detector) (pipeline : Pipeline) (benches : Nat → Bench) (number : Nat)
    (lanes : List (Lane σ)) : Prop :=
  ∀ place lane, lanes[place]? = some lane → number + place ≤ ConfigError.maxWorkers ∧
    Resting lens steady (number + place) detectors pipeline (fresh (acting detectors))
      (benches (number + place)) lane

theorem allReady_cons {lane : Lane σ} {lanes : List (Lane σ)} :
    AllReady lens steady detectors pipeline benches number (lane :: lanes) ↔
      (number ≤ ConfigError.maxWorkers ∧
        Resting lens steady number detectors pipeline (fresh (acting detectors)) (benches number)
          lane) ∧
      AllReady lens steady detectors pipeline benches (number + 1) lanes :=
  @forall_getElem?_cons _ (fun place lane => place ≤ ConfigError.maxWorkers ∧
    Resting lens steady place detectors pipeline (fresh (acting detectors)) (benches place) lane)
    number lane lanes

/-- What a stage of several lanes comes to before the first event. -/
def StageEnds (lens : CounterLens σ) (steady : Prop)
    (detectors : List Detector) (pipeline : Pipeline) (benches : Nat → Bench)
    (number count : Nat) : Except Stop (List (Lane σ)) × World → Prop
  | (.error _, _) => ¬steady
  | (.ok lanes, after) => lanes.length = count ∧ ∃ later, Staged later after ∧
    AllReady lens steady detectors pipeline later number lanes ∧
    ∀ place, place < number ∨ number + count ≤ place → later place = benches place

/-- One more lane in front. -/
theorem StageEnds.cons {count : Nat} {lane : Lane σ} {lanes : List (Lane σ)} {bench : Bench}
    {after : World} (small : number ≤ ConfigError.maxWorkers)
    (resting : Resting lens steady number detectors pipeline (fresh (acting detectors)) bench lane)
    (ends : StageEnds lens steady detectors pipeline (Function.update benches number bench)
      (number + 1) count (.ok lanes, after)) :
    StageEnds lens steady detectors pipeline benches number (count + 1)
      (.ok (lane :: lanes), after) := by
  obtain ⟨length, later, staged, ready, same⟩ := ends
  have own : later number = bench := by
    rw [same number (.inl (Nat.lt_succ_self _)), Function.update_self]
  refine ⟨congrArg (· + 1) length, later, staged, allReady_cons.mpr ⟨⟨small, own ▸ resting⟩, ready⟩,
    fun place outside => ?_⟩
  rw [same place (by omega), Function.update_of_ne (by omega)]

theorem Scripted.buildLanes {simulation : Simulation σ}
    (scripted : Scripted lens steady start simulation.detectors (acting simulation.detectors)
      (Blueprint.instances simulation.blueprints simulation.detectors)) {count : Nat}
    (staged : Staged benches world) (few : number + count ≤ ConfigError.maxWorkers + 1)
    (matrices : ∀ detector ∈ simulation.detectors, detector.Filled)
    (unused : ∀ place, number ≤ place → benches place = .empty) :
    StageEnds lens steady simulation.detectors simulation.config.pipeline benches number count
      (simulation.buildLanes count number world) := by
  induction count generalizing number benches world with
  | zero => exact ⟨rfl, benches, staged, nofun, fun _ _ => rfl⟩
  | succ count ih =>
    have small : number ≤ ConfigError.maxWorkers := by omega
    have built := @Scripted.buildModules σ lens steady start number benches world _ _
      { lane := laneOf number, detectors := simulation.detectors,
        pipeline := simulation.config.pipeline } matrices scripted staged small rfl
    unfold Simulation.buildLanes Simulation.buildLane
    unfold laneOf at built
    simp only [if_neg (Nat.not_lt.mpr small)]
    generalize Run.buildModules _ _ world = made at built ⊢
    rcases made with ⟨stop | modules, middle⟩
    · exact built
    · obtain ⟨core, more, lineup, kept⟩ := built
      rw [unused number (Nat.le_refl _)] at lineup kept
      have fewer : number + 1 + count ≤ ConfigError.maxWorkers + 1 := by omega
      have others := ih kept fewer fun place later => by
        rw [Function.update_of_ne (by omega)]
        exact unused place (by omega)
      dsimp only
      generalize Simulation.buildLanes simulation count (number + 1) middle = made at others ⊢
      rcases made with ⟨stop | lanes, after⟩
      · exact others
      · exact others.cons small ⟨rfl, roles_fresh _, lineup, fun _ _ => rfl⟩

/-! ## Setting up -/

private theorem Plays.setUp_eq {tally : Nat} {lane : LaneId} {role : Role} {inner : Module Counters}
    (plays : Plays tally lane detectors pipeline role inner) : inner.behaviour.setUp = pure () := by
  cases plays <;> rfl

theorem Lineup.keepsBenches_setUp {others core : List Handle} {duties : List Duty}
    {modules : List (Module σ)} {bench : Bench}
    (lineup : Lineup lens steady own detectors pipeline others duties core modules)
    (small : own ≤ ConfigError.maxWorkers) (known : ∀ handle ∈ others, handle ∈ bench.others) :
    (callInTurn .setUp Behaviour.setUp modules none).KeepsBenches False own (fun ended after =>
      ∃ more, after = bench.join more ∧ (steady → ended.1 = .ok ()) ∧ (ended.1 = .ok () →
        Lineup lens steady own detectors pipeline after.others duties core ended.2.1)) bench := by
  induction lineup generalizing bench with
  | nil => exact ⟨[], bench.join_nil.symm, fun _ => rfl, fun _ => .nil⟩
  | @watch duties core module rest onlooker further ih =>
    apply Program.Ensures.bind ((onlooker.mono known).keepsBenches_setUp small none)
    rintro ⟨result, later, context⟩ _ ⟨⟨more, rfl⟩, same, still, calm⟩
    dsimp only at same still calm ⊢
    subst same
    rcases result with stop | _
    · apply Program.Ensures.bind (keepsBenches_recordStop later .setUp stop)
      rintro told _ rfl
      exact ⟨more, rfl, fun going => (nomatch calm going), nofun⟩
    · have subset : ∀ handle ∈ others, handle ∈ (bench.join more).others :=
        fun handle member => List.mem_append_left _ (known handle member)
      apply Program.Ensures.bind (ih subset)
      rintro ⟨ended, _, _⟩ _ ⟨further, rfl, calm, all⟩
      refine ⟨more ++ further, Bench.join_join _ _ _, calm, fun fine => ?_⟩
      exact .watch ((still rfl).mono fun handle member => List.mem_append_left _ member) (all fine)
  | @act duty duties core module rest acts further ih =>
    obtain ⟨among, matrices, lost, inner, plays, bindings, behaviour⟩ := acts
    have nothing : module.behaviour.setUp = (pure () : Code Counters Unit).zoom lens.part lens.put := by
      rw [behaviour, ← plays.setUp_eq]
      rfl
    unfold callInTurn
    rw [nothing]
    apply Program.Ensures.bind (ih known)
    rintro ⟨ended, _, _⟩ after ⟨more, joined, calm, all⟩
    let state := lens.put (lens.part module.state) module.state
    have again : Acts lens (laneOf own) detectors pipeline duty { module with state } :=
      ⟨among, matrices, (congrArg Counters.lostCharge (lens.part_put _ _)).trans lost, inner, plays,
        bindings, behaviour⟩
    exact ⟨more, joined, calm, fun fine => .act again (all fine)⟩

/-- What setting up several lanes comes to. -/
def SetUpEnds (lens : CounterLens σ) (steady : Prop)
    (detectors : List Detector) (pipeline : Pipeline) (benches : Nat → Bench)
    (number count : Nat) : (Except Stop Unit × List (Lane σ)) × World → Prop
  | ((.error _, _), _) => ¬steady
  | ((.ok (), lanes), after) =>
    StageEnds lens steady detectors pipeline benches number count (.ok lanes, after)

theorem AllReady.setUp {lanes : List (Lane σ)}
    (ready : AllReady lens steady detectors pipeline benches number lanes)
    (staged : Staged benches world) :
    SetUpEnds lens steady detectors pipeline benches number lanes.length
      ((stageInTurn .setUp Behaviour.setUp lanes).finish world) := by
  induction lanes generalizing number benches world with
  | nil => exact ⟨rfl, benches, staged, nofun, fun _ _ => rfl⟩
  | cons lane rest ih =>
    obtain ⟨⟨small, resting⟩, others⟩ := allReady_cons.mp ready
    obtain ⟨after, ⟨more, rfl, calm, lineup⟩, kept⟩ := staged.finish
      (resting.lineup.keepsBenches_setUp small fun _ member => member)
      fun _ _ ⟨_, joined, _⟩ => joined ▸ staged.clear number
    rcases called : (callInTurn .setUp Behaviour.setUp lane.modules none).finish world with
      ⟨⟨result, modules, context⟩, middle⟩
    rw [called] at calm lineup kept
    rcases result with stop | _
    · have whole : (stageInTurn .setUp Behaviour.setUp (lane :: rest)).finish world = _ :=
        Process.finish_bind called
      rw [whole]
      exact fun going => nomatch calm going
    · have rested : Resting lens steady number detectors pipeline (fresh (acting detectors))
          ((benches number).join more) { lane with modules } :=
        ⟨resting.id, resting.roles, lineup rfl, resting.empty⟩
      have further : AllReady lens steady detectors pipeline
          (Function.update benches number ((benches number).join more)) (number + 1) rest := by
        intro place other found
        rw [Function.update_of_ne (by omega)]
        exact others place other found
      have ends := ih further kept
      rcases later : (stageInTurn .setUp Behaviour.setUp rest).finish middle with
        ⟨⟨result, ended⟩, last⟩
      have whole : (stageInTurn .setUp Behaviour.setUp (lane :: rest)).finish world =
          ((result, { lane with modules } :: ended), last) :=
        (Process.finish_bind called).trans (Process.finish_bind later)
      rw [later] at ends
      rw [whole]
      rcases result with stop | _
      · exact ends
      · exact ends.cons small rested

end Lanes

end Beamline.Demo
