import Beamline.Proofs.Chronicles
import Beamline.Proofs.Holdings
import Beamline.Proofs.LaneEvents

namespace Beamline.Run

open Bus

variable {σ α : Type}

/-- Code that requests only what bindings offer, and whose values are good. -/
def Code.Offered (good : α → Prop) (code : Code σ α) : Prop :=
  ∀ state,
    let program : Program Requests (Except Stop α × σ) := code state
    program.Respects Request.Offered fun ended => ∀ value, ended.1 = .ok value → good value

namespace Code

variable {good : α → Prop}

theorem offered_pure {value : α} (fine : good value) : (pure value : Code σ α).Offered good := by
  intro state program result same
  obtain rfl := Except.ok.inj same
  exact fine

theorem offered_throw (stop : Stop) : (throw stop : Code σ α).Offered good :=
  fun _ => nofun

theorem offered_ask (request : Request) (offered : request.Offered) :
    (ask request : Code σ request.Answer).Offered fun _ => True :=
  fun _ => ⟨offered, fun _ _ _ => trivial⟩

theorem Offered.bind {β : Type} {better : β → Prop} {code : Code σ α} {next : α → Code σ β}
    (first : code.Offered good) (second : ∀ value, good value → (next value).Offered better) :
    (code >>= next).Offered better := by
  intro state
  rw [Code.bind_apply]
  apply (first state).bind
  rintro ⟨stop | value, later⟩ ended
  · exact nofun
  · exact second value (ended value rfl) later

theorem offered_attempt {result : Except BusError α} :
    (attempt result : Code σ α).Offered fun _ => True := by
  cases result with
  | ok value => exact offered_pure trivial
  | error error => exact offered_throw _

theorem offered_bindSlot (kind : SlotKind) (payload : PayloadType) (flags : Flags) :
    (bindSlot kind payload flags : Code σ Slot).Offered fun _ => True :=
  (offered_ask (.bindSlot kind payload flags) trivial).bind fun _ _ => offered_attempt

theorem offered_release : (release : Code σ Unit).Offered fun _ => True :=
  (offered_ask .release trivial).bind fun _ _ => offered_attempt

theorem offered_dispatch (message : Message) (name : Option String) :
    (dispatch message name : Code σ Report).Offered fun _ => True :=
  (offered_ask (.dispatch message name) trivial).bind fun _ _ => offered_attempt

end Code

/-- A behaviour that requests only what bindings offer. -/
structure Behaviour.Offered (behaviour : Behaviour σ) : Prop where
  setUp : behaviour.setUp.Offered fun _ => True
  run : ∀ event, (behaviour.run event).Offered fun _ => True
  finish : behaviour.finish.Offered fun _ => True
  tearDown : behaviour.tearDown.Offered fun _ => True

/-- A module of a lane that requests only what bindings offer. -/
structure Module.Offered (own : Nat) (module : Module σ) : Prop where
  lane : module.bindings.identity.lane = laneOf own
  behaviour : module.behaviour.Offered

section Lane

variable {own : Nat} {holding : Holding} {before rest : List Handle}

theorem keepsAccounts_within (small : own ≤ ConfigError.maxWorkers) {scope : Scope}
    {program : Program Requests α} {good : α → Prop}
    (respects : program.Respects Request.Offered good)
    (lane : scope.bindings.identity.lane = laneOf own)
    (held : holding.held = before ++ scope.bindings.handles ++ rest) :
    Process.KeepsAccounts (program.within Process.request scope) own
      (fun ended later => good ended.1 ∧ ended.2.bindings.identity = scope.bindings.identity ∧
        later.held = before ++ ended.2.bindings.handles ++ rest ∧
        later.closings = holding.closings) holding := by
  induction program generalizing scope holding with
  | done result => exact ⟨respects, rfl, held, rfl⟩
  | call operation next ih =>
    apply Program.Ensures.bind (keepsAccounts_request small lane held respects.1)
    rintro ⟨answer, scope⟩ later ⟨_, same, rfl⟩
    apply (ih answer (respects.2 answer) (by rw [same]; exact lane) rfl).mono
    rintro ended last ⟨result, identity, kept, closings⟩
    exact ⟨result, identity.trans same, kept, closings⟩

theorem keepsAccounts_call (small : own ≤ ConfigError.maxWorkers) {module : Module σ}
    (offered : module.Offered own) {code : Code σ α} {good : α → Prop}
    (permitted : code.Offered good) (context : Option EventContext)
    (held : holding.held = before ++ module.bindings.handles ++ rest) :
    (module.call code context).KeepsAccounts own
      (fun ended later => (∀ value, ended.1 = .ok value → good value) ∧
        ended.2.1.Offered own ∧
        later.held = before ++ ended.2.1.bindings.handles ++ rest ∧
        later.closings = holding.closings) holding := by
  have inside := @keepsAccounts_within _ own holding before rest small
    { bindings := module.bindings, context } _ _ (permitted module.state) offered.lane held
  apply Program.Ensures.bind inside
  rintro ended later ⟨result, identity, kept, closings⟩
  exact ⟨result, ⟨(congrArg Identity.lane identity).trans offered.lane, offered.behaviour⟩, kept,
    closings⟩

/-! ## Operations that change no bus -/

/-- An operation that is neither a request nor about the log or the count of events. -/
def LaneOperation.Idle : LaneOperation → Prop
  | request .. | clearSent _ | countEvent _ => False
  | _ => True

theorem keepsAccounts_idle {operation : LaneOperation} (idle : operation.Idle) :
    (Process.ask operation).KeepsAccounts own (fun _ later => later = holding) holding := by
  apply Program.ensures_ask (S := LaneOperations)
  rintro holdings ⟨world, record⟩ ⟨returned, live, ledger⟩ rfl
  refine ⟨_, ⟨returned, live, ?_⟩, rfl⟩
  rw [Function.update_eq_self]
  apply ledger.same_bus
  · cases operation <;> first | exact idle.elim | rfl
  · intro lane
    cases operation <;> first | exact idle.elim | exact ⟨fun _ => rfl, rfl⟩
  · constructor
    · intro scope wanted same
      cases operation <;> first | exact idle.elim | cases same
    · intro lane closes
      cases operation <;> first | exact idle.elim | cases closes

theorem keepsAccounts_recordError (module : Module σ) (stage : Stage) (error : RunError) :
    (module.recordError stage error).KeepsAccounts own (fun _ later => later = holding)
      holding := by
  have counted : LaneOperation.Idle (.countError module.identity.uniqueName error.kind) := trivial
  apply Program.Ensures.bind (keepsAccounts_idle counted)
  exact fun _ _ same => same

private theorem keepsAccounts_recordStop (module : Module σ) (stage : Stage) (stop : Stop) :
    (module.recordStop stage stop).KeepsAccounts own (fun _ later => later = holding)
      holding := by
  cases stop with
  | error error =>
    apply Program.Ensures.bind (keepsAccounts_recordError module stage error)
    exact fun _ _ same => same
  | fault fault => rfl

/-! ## Events -/

theorem keepsAccounts_callInTurn (small : own ≤ ConfigError.maxWorkers) (stage : Stage)
    {code : Behaviour σ → Code σ Unit}
    (permitted : ∀ behaviour : Behaviour σ, behaviour.Offered →
      (code behaviour).Offered fun _ => True)
    {modules : List (Module σ)} (offered : ∀ module ∈ modules, module.Offered own)
    (context : Option EventContext) (held : holding.held = before ++ handlesOf modules) :
    (callInTurn stage code modules context).KeepsAccounts own
      (fun ended later => (∀ module ∈ ended.2.1, module.Offered own) ∧
        later.held = before ++ handlesOf ended.2.1 ∧ later.closings = holding.closings)
      holding := by
  induction modules generalizing context holding before with
  | nil => exact ⟨offered, held, rfl⟩
  | cons module rest ih =>
    rw [List.forall_mem_cons] at offered
    rw [handlesOf_cons, ← List.append_assoc] at held
    apply Program.Ensures.bind (keepsAccounts_call small offered.1
      (permitted _ offered.1.behaviour) context held)
    rintro ⟨result, called, context⟩ later ⟨_, first, kept, closings⟩
    cases result with
    | error stop =>
      apply Program.Ensures.bind (keepsAccounts_recordStop called stage stop)
      rintro stop _ rfl
      refine ⟨List.forall_mem_cons.mpr ⟨first, offered.2⟩, ?_, closings⟩
      rw [handlesOf_cons, ← List.append_assoc]
      exact kept
    | ok _ =>
      apply Program.Ensures.bind (ih offered.2 context kept)
      rintro ⟨result, others, context⟩ last ⟨rest, keeps, same⟩
      refine ⟨List.forall_mem_cons.mpr ⟨first, rest⟩, ?_, same.trans closings⟩
      rw [handlesOf_cons, ← List.append_assoc]
      exact keeps

theorem keepsAccounts_unmet (small : own ≤ ConfigError.maxWorkers) {module : Module σ}
    (offered : module.Offered own) (held : holding.held = before ++ module.bindings.handles ++ rest) :
    (module.ask .unmetRequirements).KeepsAccounts own
      (fun _ later => later.held = holding.held ∧ later.closings = holding.closings) holding := by
  have asked := @keepsAccounts_request own holding { bindings := module.bindings } before rest small
    offered.lane held .unmetRequirements trivial
  apply Program.Ensures.bind asked
  rintro _ _ ⟨⟨world, rfl⟩, _, rfl⟩
  exact ⟨held.symm, rfl⟩

private theorem keepsAccounts_firstUnmet (small : own ≤ ConfigError.maxWorkers)
    {modules : List (Module σ)} (offered : ∀ module ∈ modules, module.Offered own)
    (held : holding.held = before ++ handlesOf modules) : (firstUnmet modules).KeepsAccounts own
      (fun _ later => later.held = holding.held ∧ later.closings = holding.closings) holding := by
  induction modules generalizing holding before with
  | nil => exact ⟨rfl, rfl⟩
  | cons module rest ih =>
    rw [List.forall_mem_cons] at offered
    rw [handlesOf_cons, ← List.append_assoc] at held
    apply Program.Ensures.bind (keepsAccounts_unmet small offered.1 held)
    rintro (_ | ⟨error, others⟩) later ⟨same, closings⟩
    · apply (ih offered.2 (same.trans held)).mono
      rintro found last ⟨still, more⟩
      exact ⟨still.trans same, more.trans closings⟩
    · exact ⟨same, closings⟩

theorem keepsAccounts_reset (small : own ≤ ConfigError.maxWorkers) {module : Module σ}
    (offered : module.Offered own) (held : holding.held = before ++ module.bindings.handles ++ rest) :
    (module.ask .resetAll).KeepsAccounts own
      (fun _ later => later = holding.empty module.bindings.handles) holding := by
  have asked : (Process.request .resetAll { bindings := module.bindings }).KeepsAccounts own
      (fun _ later => later = holding.empty module.bindings.handles) holding := by
    apply Program.ensures_ask (S := LaneOperations)
    rintro holdings ⟨world, record⟩ ⟨returned, live, ledger⟩ rfl
    exact ⟨_, ⟨_, _, ledger.reset small offered.lane held rfl⟩, rfl⟩
  exact Program.Ensures.bind asked fun _ _ same => same

private theorem keepsAccounts_resetModules (small : own ≤ ConfigError.maxWorkers)
    {modules : List (Module σ)} (offered : ∀ module ∈ modules, module.Offered own)
    (held : holding.held = before ++ handlesOf modules) : (resetModules modules).KeepsAccounts own
      (fun _ later => later = holding.empty (handlesOf modules)) holding := by
  induction modules generalizing holding before with
  | nil =>
    change holding = { holding with emptied := holding.emptied ++ [] }
    rw [List.append_nil]
  | cons module rest ih =>
    rw [List.forall_mem_cons] at offered
    rw [handlesOf_cons, ← List.append_assoc] at held
    apply Program.Ensures.bind (keepsAccounts_reset small offered.1 held)
    rintro _ _ rfl
    apply (@ih (holding.empty module.bindings.handles) _ offered.2 held).mono
    rintro _ _ rfl
    simp only [Holding.empty, handlesOf_cons, List.append_assoc]

private theorem keepsAccounts_clearSent (small : own ≤ ConfigError.maxWorkers) :
    (Process.ask (.clearSent (laneOf own))).KeepsAccounts own
      (fun _ later => later = { holding with cleared := true }) holding := by
  apply Program.ensures_ask (S := LaneOperations)
  rintro holdings ⟨world, record⟩ ⟨returned, live, ledger⟩ rfl
  exact ⟨_, ⟨_, _, ledger.clearSent small rfl rfl⟩, rfl⟩

/-- A lane that keeps nothing: its slots are empty and its filters forgot what they accepted, so that
none of its delegates is satisfied, and its log is empty. -/
structure Clean (lane : LaneId) (handles : List Handle) (world : World) : Prop where
  emptied : ∀ handle ∈ handles, handle.place.Within world.bus.store []
  unsatisfied : ∀ handle ∈ handles, handle.isSatisfied world.bus.store = false
  unsent : world.bus.messenger.sentMessages lane = []

/-- A lane that emptied everything counts its event in a world where it keeps nothing. -/
theorem keepsAccounts_countEvent (small : own ≤ ConfigError.maxWorkers)
    (emptied : ∀ handle ∈ holding.held, handle ∈ holding.emptied)
    (cleared : holding.cleared = true) :
    (Process.ask (.countEvent (laneOf own))).KeepsAccounts own
      (fun _ later => later.held = holding.held ∧ ∃ world,
        later.closings = holding.closings ++ [world] ∧ Clean (laneOf own) holding.held world)
      holding := by
  apply Program.ensures_ask (S := LaneOperations)
  rintro holdings ⟨world, record⟩ ⟨returned, live, ledger⟩ rfl
  refine ⟨_, ⟨_, _, ledger.countEvent small emptied rfl⟩, rfl, _, rfl, ?_⟩
  have shown := ledger.shown own small
  have bare (handle : Handle) (member : handle ∈ (holdings own).held) :
      handle.place.Within world.bus.store [] := (shown.emptied handle (emptied handle member)).2
  constructor
  · exact bare
  · intro handle member
    rw [Handle.isSatisfied_eq_keeps]
    exact Place.Within.keeps_iff.mp (bare handle member)
  · exact shown.cleared cleared

/-- How a lane closes an event: if it completes the event, it keeps nothing from it. -/
def Closes (own : Nat) (holding : Holding) (result : Except Stop Unit) (handles : List Handle)
    (later : Holding) : Prop :=
  later.held = handles ∧ match result with
    | .ok () => ∃ world, later.closings = holding.closings ++ [world] ∧
        Clean (laneOf own) handles world
    | .error _ => later.closings = holding.closings

private theorem keepsAccounts_closeEvent (small : own ≤ ConfigError.maxWorkers) {lane : Lane σ}
    (id : lane.id = laneOf own) (offered : ∀ module ∈ lane.modules, module.Offered own)
    (held : holding.held = handlesOf lane.modules) : lane.closeEvent.KeepsAccounts own
      (fun result later => Closes own holding result (handlesOf lane.modules) later) holding := by
  rw [← List.nil_append (handlesOf lane.modules)] at held
  apply Program.Ensures.bind (keepsAccounts_firstUnmet small offered held)
  rintro (_ | ⟨module, error⟩) later ⟨same, closings⟩
  · apply Program.Ensures.bind (keepsAccounts_resetModules small offered (same.trans held))
    rintro _ _ rfl
    rw [id]
    apply Program.Ensures.bind (keepsAccounts_clearSent small)
    rintro _ _ rfl
    have kept : later.held = handlesOf lane.modules := same.trans held
    have emptied : ∀ handle ∈ later.held, handle ∈ later.emptied ++ handlesOf lane.modules := by
      intro handle member
      rw [kept] at member
      exact List.mem_append_right _ member
    apply Program.Ensures.bind (keepsAccounts_countEvent small emptied rfl)
    rintro _ last ⟨still, world, closed, clean⟩
    exact ⟨still.trans kept, world, closed.trans (congrArg (· ++ [world]) closings), kept ▸ clean⟩
  · apply Program.Ensures.bind (keepsAccounts_recordError module .run (.bus error))
    rintro _ _ rfl
    exact ⟨same.trans held, closings⟩

theorem keepsAccounts_runEvent (small : own ≤ ConfigError.maxWorkers) {lane : Lane σ}
    (id : lane.id = laneOf own) (offered : ∀ module ∈ lane.modules, module.Offered own)
    (held : holding.held = handlesOf lane.modules) (event seed : UInt64) :
    (lane.runEvent event seed).KeepsAccounts own
      (fun ended later => ended.2.id = laneOf own ∧
        (∀ module ∈ ended.2.modules, module.Offered own) ∧
        Closes own holding ended.1 (handlesOf ended.2.modules) later) holding := by
  rw [← List.nil_append (handlesOf lane.modules)] at held
  apply Program.Ensures.bind (keepsAccounts_callInTurn small .run
    (fun behaviour offered => offered.run event) offered _ held)
  rintro ⟨result, modules, context⟩ middle ⟨others, kept, closings⟩
  have timed {later : Holding} (result : Except Stop Unit)
      (closes : Closes own holding result (handlesOf modules) later) :
      Process.KeepsAccounts
        ((Process.ask .timeEvent).bind fun _ => .done (result, { lane with modules })) own
        (fun ended later => ended.2.id = laneOf own ∧
          (∀ module ∈ ended.2.modules, module.Offered own) ∧
          Closes own holding ended.1 (handlesOf ended.2.modules) later) later := by
    have idle : LaneOperation.Idle .timeEvent := trivial
    apply Program.Ensures.bind (keepsAccounts_idle idle)
    rintro _ _ rfl
    exact ⟨id, others, closes⟩
  cases result with
  | error stop => exact timed (.error stop) ⟨kept, closings⟩
  | ok _ =>
    have closing := @keepsAccounts_closeEvent σ own middle small { lane with modules } id others kept
    apply Program.Ensures.bind closing
    rintro result later ⟨keeps, closed⟩
    apply timed result
    refine ⟨keeps, ?_⟩
    rw [closings] at closed
    exact closed

/-- How the event loop of a lane went: where it completed an event it kept nothing. -/
structure Kept (own : Nat) (holding : Holding) (past : Chronicle σ)
    (ended : (Except Stop Nat × Lane σ) × Chronicle σ) (later : Holding) : Prop where
  id : ended.1.2.id = laneOf own
  offered : ∀ module ∈ ended.1.2.modules, module.Offered own
  held : later.held = handlesOf ended.1.2.modules
  closings : ∃ rest worlds, ended.2 = past ++ rest ∧
    later.closings = holding.closings ++ worlds ∧
    List.Forall₂ (fun (lane : Lane σ) world => Clean (laneOf own) (handlesOf lane.modules) world)
      (Chronicle.completed rest) worlds

theorem keepsAccounts_tellEvents (small : own ≤ ConfigError.maxWorkers) {plan : Plan}
    {lane : Lane σ} (id : lane.id = laneOf own)
    (offered : ∀ module ∈ lane.modules, module.Offered own)
    (held : holding.held = handlesOf lane.modules) (event : UInt64) (processed : Nat)
    (past : Chronicle σ) : (lane.tellEvents plan event processed past).KeepsAccounts own
      (Kept own holding past) holding := by
  fun_induction Lane.tellEvents plan lane event processed past generalizing holding with
  | case1 lane event processed past early ih =>
    have idle : LaneOperation.Idle .isAborting := trivial
    apply Program.Ensures.bind (keepsAccounts_idle idle)
    rintro (isAborting : Bool) _ rfl
    cases isAborting with
    | true => exact ⟨id, offered, held, [.looked true], [], rfl, (List.append_nil _).symm, .nil⟩
    | false =>
      apply Program.Ensures.bind (Lane.ensures_tellEvent
        (keepsAccounts_runEvent small id offered held event plan.seed))
      rintro ⟨⟨result, later⟩, calls⟩ middle ⟨same, others, kept, closed⟩
      rcases result with (error | fault) | _
      · have idle : LaneOperation.Idle .abort := trivial
        apply Program.Ensures.bind (keepsAccounts_idle idle)
        rintro _ _ rfl
        exact ⟨same, others, kept,
          [.looked false, .processed event calls (.error (.error error)) later], [], rfl,
          closed.trans (List.append_nil _).symm, .nil⟩
      · exact ⟨same, others, kept,
          [.looked false, .processed event calls (.error (.fault fault)) later], [], rfl,
          closed.trans (List.append_nil _).symm, .nil⟩
      · obtain ⟨world, closings, clean⟩ := closed
        by_cases onward : event < event + plan.stride
        · simp only [if_pos onward]
          apply (ih _ later _ onward same others kept).mono
          rintro ended last ⟨identity, permitted, keeps, rest, worlds, told, counted, all⟩
          refine ⟨identity, permitted, keeps,
            .looked false :: .processed event calls (.ok ()) later :: rest, world :: worlds, ?_, ?_,
            .cons clean all⟩
          · rw [told, List.append_assoc]
            rfl
          · rw [counted, closings, List.append_assoc]
            rfl
        · simp only [if_neg onward]
          exact ⟨same, others, kept, [.looked false, .processed event calls (.ok ()) later],
            [world], rfl, closings, .cons clean .nil⟩
  | case2 lane event processed past late =>
    exact ⟨id, offered, held, [], [], (List.append_nil _).symm, (List.append_nil _).symm, .nil⟩

end Lane

end Beamline.Run
