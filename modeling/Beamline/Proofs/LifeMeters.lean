import Beamline.Proofs.Bindings
import Beamline.Proofs.LifeStages
import Beamline.Proofs.Meters

namespace Beamline.Run

open Bus Telemetry

variable {σ α : Type}

/-- What is certain of the result of a process holds in addition. -/
theorem Process.Adds.and {process : Process α} {good : α → List Meter → Prop} {holds : α → Prop}
    (adds : process.Adds good) (yields : process.Yields holds) :
    process.Adds fun result more => good result more ∧ holds result := by
  intro count own before added within
  refine ((adds count own before added within).and yields).mono fun result _ ended => ?_
  obtain ⟨⟨more, same, told⟩, certain⟩ := ended
  exact ⟨more, same, told, certain⟩

/-! ## Modules -/

theorem Request.perform_own (request : Request) {scope : Scope} (own : scope.bindings.Own)
    (world : World) : (request.perform scope world).1.2.bindings.Own := by
  cases request with
  | bindSlot kind payload flags => exact own.bindSlot world.bus kind payload flags
  | register binding flags => exact own.register world.bus binding flags
  | release => exact fun handle member => absurd member List.not_mem_nil
  | _ => exact own

theorem adds_within (program : Program Requests α) (scope : Scope) :
    Process.Adds (program.within Process.request scope) fun ended more =>
      more = [] ∧ (scope.bindings.Own → ended.2.bindings.Own) := by
  induction program generalizing scope with
  | done result => exact Process.adds_done ⟨rfl, id⟩
  | call request next ih =>
    refine (Process.adds_ask (.request scope request)).bind fun answered more asked => ?_
    obtain ⟨rfl, world, rfl⟩ := asked
    refine (ih _ _).mono fun ended more kept => ?_
    exact ⟨kept.1, fun own => kept.2 (request.perform_own own world)⟩

namespace Module

theorem adds_call (module : Module σ) (code : Code σ α) (context : Option EventContext) :
    (module.call code context).Adds fun called more =>
      more = [] ∧ (module.bindings.Own → called.2.1.bindings.Own) := by
  refine (adds_within (code module.state) { bindings := module.bindings, context }).bind
    fun ended more kept => ?_
  obtain ⟨rfl, own⟩ := kept
  exact Process.adds_done ⟨rfl, own⟩

theorem adds_request (module : Module σ) (request : Request) :
    (module.ask request).Adds fun answer more => more = [] ∧
      ∃ world, answer = (request.perform { bindings := module.bindings } world).1.1 := by
  refine (Process.adds_ask (.request { bindings := module.bindings } request)).bind
    fun answered more asked => ?_
  obtain ⟨rfl, world, rfl⟩ := asked
  exact Process.adds_done ⟨rfl, world, rfl⟩

theorem unmet_named {module : Module σ} (own : module.bindings.Own) (bus : Bus) {error : BusError}
    (member : error ∈ module.bindings.unmetRequirements bus) : ∃ payload name,
      error = .unmetRequirement module.identity.uniqueName payload name := by
  obtain ⟨handle, held, unmet⟩ := List.mem_filterMap.mp member
  have same : handle.unmet = error := by
    unfold Handle.unmetRequirement at unmet
    split at unmet
    · cases unmet
    · exact Option.some.inj unmet
  rw [← same, Handle.unmet, own handle held]
  exact ⟨_, _, rfl⟩

theorem adds_recordError (module : Module σ) (stage : Stage) (error : RunError) :
    (module.recordError stage error).Adds fun reported more =>
      reported = error.inModule module.identity.uniqueName stage ∧
        more = [.failed (module.identity.uniqueName, error.kind)] := by
  refine (Process.adds_ask (.countError module.identity.uniqueName error.kind)).bind
    fun _ more asked => ?_
  obtain ⟨rfl, _⟩ := asked
  exact Process.adds_done ⟨rfl, rfl⟩

theorem adds_recordStop (module : Module σ) (stage : Stage) (stop : Stop) {call : StageCall}
    (name : call.name = module.identity.uniqueName) (failed : call.result = .error stop) :
    (module.recordStop stage stop).Adds fun _ more => more = call.failure?.toList.map .failed := by
  cases stop with
  | error error =>
    refine (module.adds_recordError stage error).bind fun _ more recorded => ?_
    obtain ⟨_, rfl⟩ := recorded
    refine Process.adds_done ?_
    simp [StageCall.failure?, StageCall.error?, failed, name]
  | fault fault =>
    refine Process.adds_done ?_
    simp [StageCall.failure?, StageCall.error?, failed]

end Module

section InTurn

variable (stage : Stage) (code : Behaviour σ → Code σ Unit)

theorem adds_tellInTurn (event : Option UInt64) (lane : LaneId) (place : Nat)
    (modules : List (Module σ)) (context : Option EventContext) :
    (tellInTurn stage code event lane place modules context).Adds fun told more =>
      more = (told.2.filterMap StageCall.failure?).map .failed ∧
        ((∀ module ∈ modules, module.bindings.Own) →
          ∀ module ∈ told.1.2.1, module.bindings.Own) ∧
        (told.1.1 = .ok () →
          told.2.map StageCall.name = told.1.2.1.map fun module => module.identity.uniqueName) := by
  induction modules generalizing place context with
  | nil => exact Process.adds_done ⟨rfl, id, fun _ => rfl⟩
  | cons module rest ih =>
    refine (module.adds_call (code module.behaviour) context).bind fun called more kept => ?_
    obtain ⟨result, called, context⟩ := called
    obtain ⟨rfl, own⟩ := kept
    cases result with
    | error stop =>
      let call : StageCall := {
        station := { lane, place }, name := called.identity.uniqueName, stage, event
        result := .error stop }
      have recorded := @Module.adds_recordStop _ called stage stop call rfl rfl
      refine recorded.bind fun reported more recorded => ?_
      subst recorded
      refine Process.adds_done ⟨?_, ?_, fun success => ?_⟩
      · rw [List.nil_append, List.append_nil, List.filterMap_eq_flatMap_toList,
          List.flatMap_singleton]
      · intro owns
        exact List.forall_mem_cons.mpr ⟨own (owns _ List.mem_cons_self),
          fun other member => owns other (List.mem_cons_of_mem _ member)⟩
      · cases success
    | ok _ =>
      refine (ih (place + 1) context).bind fun told more further => ?_
      obtain ⟨⟨result, rest, context⟩, later⟩ := told
      obtain ⟨rfl, owns, names⟩ := further
      refine Process.adds_done ⟨?_, ?_, ?_⟩
      · rw [List.nil_append, List.append_nil, List.filterMap_cons_none rfl]
      · intro all
        obtain ⟨first, others⟩ := List.forall_mem_cons.mp all
        exact List.forall_mem_cons.mpr ⟨own first, owns others⟩
      · intro success
        exact congrArg (_ :: ·) (names success)

end InTurn

/-- The modules of a lane hold their own delegates. -/
def Lane.Own (lane : Lane σ) : Prop :=
  ∀ module ∈ lane.modules, module.bindings.Own

section Stage

variable (stage : Stage) (code : Behaviour σ → Code σ Unit)

theorem adds_tellStage (lanes : List (Lane σ)) :
    (tellStage stage code lanes).Adds fun told more =>
      more = (told.2.filterMap StageCall.failure?).map .failed ∧
        ((∀ lane ∈ lanes, lane.Own) → ∀ lane ∈ told.1.2, lane.Own) := by
  induction lanes with
  | nil => exact Process.adds_done ⟨rfl, id⟩
  | cons lane rest ih =>
    refine (adds_tellInTurn stage code none lane.id 0 lane.modules none).bind
      fun told more counted => ?_
    obtain ⟨⟨result, modules, context⟩, calls⟩ := told
    obtain ⟨rfl, own, _⟩ := counted
    cases result with
    | error stop =>
      refine Process.adds_done ⟨List.append_nil _, fun all => ?_⟩
      obtain ⟨first, others⟩ := List.forall_mem_cons.mp all
      exact List.forall_mem_cons.mpr ⟨own first, others⟩
    | ok _ =>
      refine ih.bind fun told more further => ?_
      obtain ⟨⟨result, rest⟩, later⟩ := told
      obtain ⟨rfl, owns⟩ := further
      refine Process.adds_done ⟨?_, fun all => ?_⟩
      · rw [List.append_nil, List.filterMap_append, List.map_append]
      · obtain ⟨first, others⟩ := List.forall_mem_cons.mp all
        exact List.forall_mem_cons.mpr ⟨own first, owns others⟩

end Stage

/-! ## Tear-downs -/

/-- The error with which something ended; none if it did not fail, or with a fault. -/
def errorOf (ended : Except Stop α) : Option RunError :=
  match ended with
  | .error (.error error) => some error
  | _ => none

/-- A module that is torn down adds nothing before its failure is recorded. -/
theorem Module.adds_tellTearDown (module : Module σ) (station : Station) :
    module.tellTearDown.Adds fun ((result, torn), returned, left) more =>
      more = [] ∧
        StageCall.error? {
          station, name := torn.identity.uniqueName, stage := .tearDown, result := returned
          left } = errorOf result := by
  refine (module.adds_call module.behaviour.tearDown none).bind fun called more kept => ?_
  obtain ⟨result, torn, context⟩ := called
  obtain ⟨rfl, _⟩ := kept
  rcases result with (error | fault) | _
  · exact Process.adds_done ⟨rfl, rfl⟩
  · exact Process.adds_done ⟨rfl, rfl⟩
  · refine (Process.adds_ask (.delegatesOf torn.identity)).bind fun (left : Nat) more asked => ?_
    obtain ⟨rfl, _⟩ := asked
    by_cases none : left = 0
    · simp only [if_pos none]
      exact Process.adds_done ⟨rfl, if_pos none⟩
    · simp only [if_neg none]
      exact Process.adds_done ⟨rfl, if_neg none⟩

theorem adds_tellTearDowns (lane : LaneId) (place : Nat) (modules : List (Module σ)) :
    (tellTearDowns lane place modules).Adds fun told more =>
      more = (told.2.filterMap StageCall.failure?).map .failed := by
  induction modules generalizing place with
  | nil => exact Process.adds_done rfl
  | cons module rest ih =>
    refine (module.adds_tellTearDown { lane, place }).bind fun told more torn => ?_
    obtain ⟨⟨result, torn⟩, returned, left⟩ := told
    obtain ⟨rfl, reason⟩ := torn
    let call : StageCall := {
      station := { lane, place }, name := torn.identity.uniqueName, stage := .tearDown
      result := returned, left }
    have failure : call.failure? =
        (errorOf result).map fun error => (torn.identity.uniqueName, error.kind) :=
      congrArg (Option.map _) reason
    rcases result with (error | fault) | _
    · refine (torn.adds_recordError .tearDown error).bind fun reported more recorded => ?_
      obtain ⟨_, rfl⟩ := recorded
      refine (ih (place + 1)).bind fun told more further => ?_
      obtain ⟨⟨later, rest⟩, calls⟩ := told
      subst further
      refine Process.adds_done ?_
      rw [List.filterMap_cons_some failure]
      simp
    · refine Process.adds_done ?_
      rw [List.filterMap_cons_none failure]
      rfl
    · refine (ih (place + 1)).bind fun told more further => ?_
      obtain ⟨⟨later, rest⟩, calls⟩ := told
      subst further
      refine Process.adds_done ?_
      rw [List.filterMap_cons_none failure]
      simp

theorem adds_tellLaneTearDowns (lanes : List (Lane σ)) :
    (tellLaneTearDowns lanes).Adds fun told more =>
      more = (told.2.filterMap StageCall.failure?).map .failed := by
  induction lanes with
  | nil => exact Process.adds_done rfl
  | cons lane rest ih =>
    refine (adds_tellTearDowns lane.id 0 lane.modules).bind fun told more counted => ?_
    obtain ⟨⟨first, modules⟩, calls⟩ := told
    subst counted
    rcases first with (error | fault) | _
    case error.fault => exact Process.adds_done (List.append_nil _)
    all_goals
      refine ih.bind fun told more counted => ?_
      obtain ⟨⟨later, rest⟩, others⟩ := told
      subst counted
      refine Process.adds_done ?_
      rw [List.append_nil, List.filterMap_append, List.map_append]

/-! ## Events -/

/-- How the calls of a stage fail that ends with the first failure: one at most, the last. -/
theorem InTurn.failures {stage : Stage} {event : Option UInt64} {stations : List Station}
    {calls : List StageCall} {ended : Except Stop Unit}
    (inTurn : InTurn stage event stations calls ended) :
    (ended = .ok () ∧ calls.filterMap StageCall.failure? = []) ∨
      (∃ fault, ended = .error (.fault fault) ∧ calls.filterMap StageCall.failure? = []) ∨
      ∃ call ∈ calls, ∃ error, call.result = .error (.error error) ∧
        ended = .error (.error (error.inModule call.name stage)) ∧
        calls.filterMap StageCall.failure? = [(call.name, error.kind)] := by
  induction inTurn with
  | done => exact .inl ⟨rfl, rfl⟩
  | @failed call rest stop within failed =>
    cases stop with
    | fault fault =>
      refine .inr (.inl ⟨fault, rfl, ?_⟩)
      simp [StageCall.failure?, StageCall.error?, failed]
    | error error =>
      refine .inr (.inr ⟨call, List.mem_singleton_self _, error, failed, ?_, ?_⟩)
      · rw [← within.stage]
        rfl
      · simp [StageCall.failure?, StageCall.error?, failed]
  | @next call rest later ended within succeeded further ih =>
    have none : call.failure? = none := by
      simp [StageCall.failure?, StageCall.error?, succeeded, within.left]
    rw [List.filterMap_cons_none none]
    refine ih.imp_right (.imp_right fun last => ?_)
    obtain ⟨other, member, reason⟩ := last
    exact ⟨other, List.mem_cons_of_mem _ member, reason⟩

theorem InTurn.filterMap_of_ok {stage : Stage} {event : Option UInt64} {stations : List Station}
    {calls : List StageCall} (inTurn : InTurn stage event stations calls (.ok ())) :
    calls.filterMap StageCall.failure? = [] := by
  rcases inTurn.failures with ⟨_, none⟩ | ⟨_, faulty, _⟩ | ⟨_, _, _, _, failed, _⟩
  · exact none
  · cases faulty
  · cases failed

/-- A failed event is put down to a module that ran in it, with the kind of the error before the run
gave it its form: the error of that module, or, if all modules ran, something that it lacks. -/
structure Round.Charged (round : Round) : Prop where
  completed : round.completed = true → round.failure? = none
  failed : ∀ reported, round.result = .error (.error reported) → ∃ call ∈ round.calls, ∃ error,
    (call.result = .error (.error error) ∨
      call.result = .ok () ∧ ∃ payload name,
        error = .bus (.unmetRequirement call.name payload name)) ∧
      reported = error.inModule call.name .run ∧
      round.failure? = some (call.name, error.kind)

def Round.meters (lane : LaneId) (round : Round) : List Meter :=
  round.failure?.toList.map .failed ++ (if round.completed then [.processed lane] else []) ++
    [.timed]

namespace Round

variable {event : UInt64} {stations : List Station} {calls : List StageCall}

theorem findSome?_failure : calls.findSome? StageCall.failure? =
    (calls.filterMap StageCall.failure?).head? :=
  (List.head?_filterMap).symm

theorem of_stopped {stop : Stop}
    (inTurn : InTurn .run (some event) stations calls (.error stop)) :
    let round : Round := { event, calls, result := .error stop }
    round.Charged ∧ round.failure?.toList = calls.filterMap StageCall.failure? := by
  intro round
  rcases inTurn.failures with ⟨success, _⟩ | ⟨fault, faulty, none⟩ | failing
  · cases success
  · cases faulty
    have failure : round.failure? = .none := by
      rw [failure?, findSome?_failure, none]
      rfl
    rw [none, failure]
    refine ⟨⟨fun _ => failure, fun reported failed => ?_⟩, rfl⟩
    cases failed
  · obtain ⟨call, member, error, failed, same, counted⟩ := failing
    cases same
    have failure : round.failure? = some (call.name, error.kind) := by
      rw [failure?, findSome?_failure, counted]
      rfl
    rw [counted, failure]
    refine ⟨⟨fun completed => ?_, fun reported same => ?_⟩, rfl⟩
    · cases completed
    · cases same
      exact ⟨call, member, error, .inl failed, rfl, failure⟩

/-- An event in which all modules run and something required is missing. -/
theorem of_unmet {module payload name : String}
    (inTurn : InTurn .run (some event) stations calls (.ok ()))
    (named : module ∈ calls.map StageCall.name) :
    let error := BusError.unmetRequirement module payload name
    let round : Round := { event, calls, result := .error (.error (.bus error)) }
    round.Charged ∧ round.failure? = some (module, RunError.kind (.bus error)) := by
  intro error round
  have failure : round.failure? = some (module, RunError.kind (.bus error)) := by
    rw [failure?, findSome?_failure, inTurn.filterMap_of_ok]
    rfl
  obtain ⟨call, member, rfl⟩ := List.mem_map.mp named
  have ran := (inTurn.all_stations rfl).2 call member
  refine ⟨⟨fun completed => ?_, fun reported same => ?_⟩, failure⟩
  · cases completed
  · cases same
    exact ⟨call, member, .bus error, .inr ⟨ran, payload, name, rfl⟩, rfl, failure⟩

theorem of_completed (inTurn : InTurn .run (some event) stations calls (.ok ())) :
    let round : Round := { event, calls, result := .ok () }
    round.Charged ∧ round.failure? = none := by
  intro round
  have failure : round.failure? = none := by
    rw [failure?, findSome?_failure, inTurn.filterMap_of_ok]
    rfl
  refine ⟨⟨fun _ => failure, fun reported failed => ?_⟩, failure⟩
  cases failed

end Round

/-! ## The end of an event -/

private theorem adds_firstUnmet (modules : List (Module σ)) :
    (firstUnmet modules).Adds fun found more => more = [] ∧
      ∀ module error, found = some (module, error) → module ∈ modules ∧
        ∃ bus, error ∈ module.bindings.unmetRequirements bus := by
  induction modules with
  | nil =>
    refine Process.adds_done ⟨rfl, fun module error found => ?_⟩
    cases found
  | cons module rest ih =>
    refine (module.adds_request .unmetRequirements).bind
      fun (unmet : List BusError) more asked => ?_
    obtain ⟨rfl, world, answered⟩ := asked
    change unmet = module.bindings.unmetRequirements world.bus at answered
    cases unmet with
    | nil =>
      refine ih.mono fun found more further => ?_
      obtain ⟨rfl, lacking⟩ := further
      refine ⟨rfl, fun lacks error same => ?_⟩
      obtain ⟨member, missing⟩ := lacking lacks error same
      exact ⟨List.mem_cons_of_mem _ member, missing⟩
    | cons error others =>
      refine Process.adds_done ⟨rfl, fun lacks missing same => ?_⟩
      cases same
      exact ⟨List.mem_cons_self, world.bus, answered ▸ List.mem_cons_self⟩

private theorem adds_resetModules (modules : List (Module σ)) :
    (resetModules modules).Adds fun _ more => more = [] := by
  induction modules with
  | nil => exact Process.adds_done rfl
  | cons module rest ih =>
    refine (module.adds_request .resetAll).bind fun _ more asked => ?_
    obtain ⟨rfl, _⟩ := asked
    exact ih.mono fun _ _ same => same

/-- An event in which all modules ran is counted as completed, or as a failure of a module that
lacks something. -/
theorem Lane.adds_closeEvent {lane : Lane σ} (own : lane.Own) : lane.closeEvent.Adds
    fun result more => result = .ok () ∧ more = [.processed lane.id] ∨
      ∃ module ∈ lane.modules, ∃ payload name,
        let error := RunError.bus (.unmetRequirement module.identity.uniqueName payload name)
        result = .error (.error error) ∧
          more = [.failed (module.identity.uniqueName, error.kind)] := by
  refine (adds_firstUnmet lane.modules).bind fun found more asked => ?_
  obtain ⟨rfl, lacking⟩ := asked
  cases found with
  | none =>
    refine (adds_resetModules lane.modules).bind fun _ more reset => ?_
    subst reset
    refine (Process.adds_ask (.clearSent lane.id)).bind fun _ more asked => ?_
    obtain ⟨rfl, _⟩ := asked
    refine (Process.adds_ask (.countEvent lane.id)).bind fun _ more asked => ?_
    obtain ⟨rfl, _⟩ := asked
    exact Process.adds_done (.inl ⟨rfl, rfl⟩)
  | some lacks =>
    obtain ⟨module, error⟩ := lacks
    obtain ⟨member, bus, missing⟩ := lacking module error rfl
    obtain ⟨payload, name, rfl⟩ := Module.unmet_named (own module member) bus missing
    refine (module.adds_recordError .run _).bind fun reported more recorded => ?_
    obtain ⟨rfl, rfl⟩ := recorded
    exact Process.adds_done (.inr ⟨module, member, payload, name, rfl, rfl⟩)

theorem Lane.adds_tellEvent {lane : Lane σ} (own : lane.Own) (event seed : UInt64) :
    (lane.tellEvent event seed).Adds fun ((result, later), calls) more =>
      let round : Round := { event, calls, result }
      more = round.meters lane.id ∧ round.Charged ∧ later.id = lane.id ∧ later.Own := by
  refine ((adds_tellInTurn _ _ _ _ _ _ _).and (yields_tellInTurn _ _ _ _ _ _ _)).bind
    fun told more ended => ?_
  obtain ⟨⟨result, modules, context⟩, calls⟩ := told
  obtain ⟨⟨rfl, owns, names⟩, inTurn, _⟩ := ended
  let later : Lane σ := { lane with modules }
  have own : later.Own := owns own
  dsimp only at names inTurn ⊢
  -- Whatever the event came to, it is timed at the end.
  have timed (result : Except Stop Unit) (before : List Meter)
      (charged : Round.Charged { event, calls, result })
      (told : (Round.mk event calls result).meters lane.id = before ++ [.timed]) :
      Process.Adds ((Process.ask .timeEvent).bind fun _ =>
        .done ((result, later), calls)) fun ended last =>
          let round : Round := { event, calls := ended.2, result := ended.1.1 }
          before ++ last = round.meters lane.id ∧ round.Charged ∧ ended.1.2.id = lane.id ∧
            ended.1.2.Own := by
    refine (Process.adds_ask .timeEvent).bind fun _ last asked => ?_
    obtain ⟨rfl, _⟩ := asked
    exact Process.adds_done ⟨told.symm, charged, rfl, own⟩
  cases result with
  | error stop =>
    obtain ⟨charged, counted⟩ := Round.of_stopped inTurn
    refine timed (.error stop) _ charged ?_
    rw [Round.meters, counted]
    exact congrArg (· ++ _) (List.append_nil _)
  | ok _ =>
    rw [InTurn.filterMap_of_ok inTurn]
    refine (Lane.adds_closeEvent own).bind fun result more closed => ?_
    rcases closed with ⟨rfl, rfl⟩ | ⟨module, member, payload, name, rfl, rfl⟩
    · obtain ⟨charged, none⟩ := Round.of_completed inTurn
      refine timed (.ok ()) [.processed lane.id] charged ?_
      rw [Round.meters, none]
      rfl
    · have ran : module.identity.uniqueName ∈ calls.map StageCall.name := by
        rw [names rfl]
        exact List.mem_map_of_mem member
      obtain ⟨charged, failure⟩ := @Round.of_unmet _ _ _ _ payload name inTurn ran
      refine timed _ [.failed (module.identity.uniqueName, _)] charged ?_
      rw [Round.meters, failure]
      rfl

theorem Lane.adds_tellEvents (plan : Plan) {lane : Lane σ} (own : lane.Own) (event : UInt64)
    (processed : Nat) (past : Chronicle σ) :
    (lane.tellEvents plan event processed past).Adds fun ((_, later), chronicle) more =>
      (∃ rest, chronicle.rounds = past.rounds ++ rest ∧ more = rest.flatMap (Round.meters lane.id) ∧
        ∀ round ∈ rest, round.Charged) ∧ later.Own := by
  fun_induction Lane.tellEvents plan lane event processed past with
  | case1 lane event processed past early ih =>
    refine (Process.adds_ask .isAborting).bind fun (isAborting : Bool) more asked => ?_
    obtain ⟨rfl, _⟩ := asked
    cases isAborting with
    | true =>
      exact Process.adds_done ⟨⟨[], (past.rounds_looked true).trans (List.append_nil _).symm, rfl,
        List.forall_mem_nil _⟩, own⟩
    | false =>
      refine (Lane.adds_tellEvent own event plan.seed).bind fun told more ended => ?_
      obtain ⟨⟨result, later⟩, calls⟩ := told
      obtain ⟨rfl, charged, id, owns⟩ := ended
      let round : Round := { event, calls, result }
      have told := past.rounds_processed event calls result later
      -- What the last event adds, and no event after it.
      have last : ([] ++ (round.meters lane.id ++ []) = [round].flatMap (Round.meters lane.id)) ∧
          ∀ other ∈ [round], other.Charged :=
        ⟨rfl, List.forall_mem_singleton.mpr charged⟩
      rcases result with (error | fault) | _
      · refine (Process.adds_ask .abort).bind fun _ more asked => ?_
        obtain ⟨rfl, _⟩ := asked
        exact Process.adds_done ⟨⟨[round], told, last⟩, owns⟩
      · exact Process.adds_done ⟨⟨[round], told, last⟩, owns⟩
      · by_cases onward : event < event + plan.stride
        · simp only [if_pos onward]
          refine (ih (.ok ()) later calls onward owns).mono fun _ more ended => ?_
          obtain ⟨⟨rest, same, rfl, charges⟩, owned⟩ := ended
          rw [told, List.append_assoc] at same
          refine ⟨⟨round :: rest, same, ?_, ?_⟩, owned⟩
          · rw [id, List.flatMap_cons]
            rfl
          · exact List.forall_mem_cons.mpr ⟨charged, charges⟩
        · simp only [if_neg onward]
          exact Process.adds_done ⟨⟨[round], told, last⟩, owns⟩
  | case2 lane event processed past late =>
    exact Process.adds_done ⟨⟨[], (List.append_nil _).symm, rfl, List.forall_mem_nil _⟩, own⟩

end Beamline.Run
