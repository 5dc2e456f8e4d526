import Beamline.Proofs.LifeMeters
import Beamline.Proofs.Lists
import Beamline.Proofs.Satisfaction
import Beamline.Proofs.TearDown

/-!
How one event ends, whatever its modules do. It completes just if all modules run and then no
required binding lacks a message. Else the first module that stops ends it, or, if all of them run,
the first lack, in the order of the chain and then of registration; what is stored stays as it is.
-/

namespace Beamline

namespace Bus

/-- A binding that is required and got nothing. -/
def Handle.Lacks (handle : Handle) (store : Store) : Prop :=
  handle.isRequired = true ∧ handle.isSatisfied store = false

namespace Handle

variable {handle : Handle} {store : Store}

theorem Lacks.unmetRequirement (lacks : handle.Lacks store) :
    handle.unmetRequirement store = some handle.unmet := by
  rw [unmetRequirement_eq]
  exact if_pos (by simpa [Lacks] using lacks)

theorem unmetRequirement_of_met (met : ¬ handle.Lacks store) :
    handle.unmetRequirement store = none := by
  rw [unmetRequirement_eq]
  exact if_neg fun unmet => met (by simpa [Lacks] using unmet)

end Handle

private theorem Binding.payloadName_eq {F : Type} (binding : Binding F) :
    binding.payloadName = binding.payload.elim "*" PayloadType.name := by
  unfold payloadName
  cases binding.payload <;> rfl

private theorem NameKey.display_ofReceiver (receiver : Identity) (flags : Flags) :
    (ofReceiver receiver flags).display =
      if flags.ignoreName then "*" else if flags.unnamedOnly then "" else receiver.input := by
  unfold ofReceiver
  cases flags.ignoreName <;> cases flags.unnamedOnly <;> rfl

end Bus

/-- How the run reports what stopped a module: errors of modules, of the bus and of aborted lanes as
they are, others as failures of the module. -/
inductive Stop.Reports (name : String) : Stop → Stop → Prop
  | module (other : String) (stage : Stage) (message : String) :
      Reports name (.error (.module other stage message)) (.error (.module other stage message))
  | bus (error : Bus.BusError) : Reports name (.error (.bus error)) (.error (.bus error))
  | aborted (lane : LaneId) : Reports name (.error (.aborted lane)) (.error (.aborted lane))
  | foreign {error : RunError}
      (notModule : ∀ other stage message, error ≠ .module other stage message)
      (notBus : ∀ reason, error ≠ .bus reason) (notAborted : ∀ lane, error ≠ .aborted lane) :
      Reports name (.error error) (.error (.module name .run error.message))
  | fault (reason : Fault) : Reports name (.fault reason) (.fault reason)

namespace Stop

private theorem exists_reports (name : String) (stop : Stop) : ∃ told, Reports name stop told := by
  rcases stop with error | reason
  · cases error with
    | module other stage message => exact ⟨_, .module other stage message⟩
    | bus error => exact ⟨_, .bus error⟩
    | aborted lane => exact ⟨_, .aborted lane⟩
    | _ => exact ⟨_, .foreign (by simp) (by simp) (by simp)⟩
  · exact ⟨_, .fault reason⟩

theorem Reports.inModule {name : String} {error : RunError} {told : Stop}
    (reported : Reports name (.error error) told) :
    told = .error (error.inModule name .run) := by
  cases reported with
  | module | bus | aborted => rfl
  | foreign notModule notBus notAborted =>
    cases error with
    | module other stage message => exact absurd rfl (notModule other stage message)
    | bus reason => exact absurd rfl (notBus reason)
    | aborted lane => exact absurd rfl (notAborted lane)
    | _ => rfl

end Stop

namespace Run

open Bus

variable {σ : Type}

/-! ## What a chain does -/

/-- Where a lane stands while its modules run: what is left of the event, the world, and what the
lane did so far. -/
structure Progress where
  context : Option EventContext
  observed : Observed

def Progress.store (progress : Progress) : Store :=
  progress.observed.1.bus.store

/-- Runs a process to its end and notes its operations. -/
def Process.noted {α : Type} (process : Process α) (observed : Observed) :
    α × Observed :=
  process.run LaneOperation.performNoted observed

/-- A module's code for an event, called where a lane stands: what it comes to, and the module and
the lane afterwards. -/
def Module.Runs (event : UInt64) (module : Module σ) (before : Progress)
    (result : Except Stop Unit) (left : Module σ) (after : Progress) : Prop :=
  (module.call (module.behaviour.run event) before.context).noted before.observed =
    ((result, left, after.context), after.observed)

/-- Modules that run one after the other, none of which stops early. -/
inductive RanAll (event : UInt64) :
    List (Module σ) → Progress → List (Module σ) → Progress → Prop
  | nil (now : Progress) : RanAll event [] now [] now
  | cons {module ran : Module σ} {rest others : List (Module σ)} {now next last : Progress}
      (runs : module.Runs event now (.ok ()) ran next)
      (later : RanAll event rest next others last) :
      RanAll event (module :: rest) now (ran :: others) last

def Module.Supplied (module : Module σ) (store : Store) : Prop :=
  ∀ handle ∈ module.bindings.handles, ¬ Handle.Lacks handle store

/-- What a binding of a module lacks, as the error tells it. -/
def Module.lack (module : Module σ) (handle : Handle) : BusError :=
  .unmetRequirement module.identity.uniqueName
    (handle.delegate.binding.payload.elim "*" PayloadType.name)
    (if handle.delegate.flags.ignoreName then "*"
      else if handle.delegate.flags.unnamedOnly then ""
      else module.identity.input)

def recorded (name : String) : Stop → List LaneOperation
  | .error error => [.countError name error.kind]
  | .fault _ => []

def checks (modules : List (Module σ)) : List LaneOperation :=
  modules.map fun module => .request { bindings := module.bindings } .unmetRequirements

/-- How an event fails: with which error, in which state of the modules, where the last module left
the lane, and what the lane does after that. -/
inductive Fails (event : UInt64) (modules : List (Module σ)) (begun : Progress) :
    Stop → List (Module σ) → Progress → List LaneOperation → Prop
  /-- A module stopped, and those before it did not. -/
  | stopped {before after ran : List (Module σ)} {module left : Module σ} {now last : Progress}
      {stop told : Stop} (chain : modules = before ++ module :: after)
      (earlier : RanAll event before begun ran now)
      (runs : module.Runs event now (.error stop) left last)
      (reported : Stop.Reports module.identity.uniqueName stop told) :
      Fails event modules begun told (ran ++ left :: after) last
        (recorded module.identity.uniqueName stop)
  /-- All modules ran; a binding lacks a message, and none of those before it does. -/
  | unmet {before after ran : List (Module σ)} {module : Module σ} {last : Progress}
      {earlier later : List Handle} {handle : Handle}
      (all : RanAll event modules begun ran last) (chain : ran = before ++ module :: after)
      (supplied : ∀ other ∈ before, other.Supplied last.store)
      (bound : module.bindings.handles = earlier ++ handle :: later)
      (met : ∀ other ∈ earlier, ¬ Handle.Lacks other last.store)
      (lacks : Handle.Lacks handle last.store) :
      Fails event modules begun (.error (.bus (module.lack handle))) ran last
        (checks (before ++ [module]) ++
          [.countError module.identity.uniqueName "unmet_requirement"])

/-! ## Code of modules -/

theorem Process.noted_bind {α β : Type} {process : Process α} {next : α → Process β}
    {observed later : Observed} {value : α} (first : process.noted observed = (value, later)) :
    Process.noted (process.bind next) observed = (next value).noted later := by
  have split : Process.noted (process.bind next) observed =
      (next (process.noted observed).1).noted (process.noted observed).2 :=
    Program.run_bind _ process next observed
  rw [split, first]

theorem Bindings.register_identity (bindings : Bindings) (bus : Bus) (binding : Binding Filter)
    (flags : Flags) : (bindings.register bus binding flags).2.1.identity = bindings.identity := by
  unfold Bindings.register
  split <;> rfl

private theorem Request.perform_identity (request : Request) (scope : Scope) (world : World) :
    (request.perform scope world).1.2.bindings.identity = scope.bindings.identity := by
  cases request with
  | bindSlot kind payload flags =>
    change (scope.bindings.bindSlot world.bus kind payload flags).2.1.identity = _
    rw [Bindings.bindSlot_eq]
    exact Bindings.register_identity _ _ _ flags
  | register binding flags => exact Bindings.register_identity _ _ binding flags
  | _ => rfl

/-- What every request leaves true of the bindings of a module. -/
def Lasting (holds : Bindings → Prop) : Prop :=
  ∀ (request : Request) (scope : Scope) (world : World), holds scope.bindings →
    holds (request.perform scope world).1.2.bindings

theorem lasting_own : Lasting Bindings.Own :=
  fun request _ world own => request.perform_own own world

private theorem lasting_identity (identity : Identity) :
    Lasting fun bindings => bindings.identity = identity :=
  fun request scope world same => (request.perform_identity scope world).trans same

theorem Lasting.within {α : Type} {holds : Bindings → Prop} (lasting : Lasting holds)
    (program : Program Requests α) (scope : Scope) (observed : Observed)
    (start : holds scope.bindings) :
    holds (Process.noted (program.within Process.request scope) observed).1.2.bindings := by
  induction program generalizing scope observed with
  | done result => exact start
  | call request next ih => exact ih _ _ _ (lasting request scope observed.1 start)

namespace Module

variable {event : UInt64} {module left : Module σ} {before after : Progress}
  {result : Except Stop Unit}

theorem Runs.keeps {holds : Bindings → Prop} (runs : module.Runs event before result left after)
    (lasting : Lasting holds) (start : holds module.bindings) : holds left.bindings := by
  have code := lasting.within (module.behaviour.run event module.state)
    { bindings := module.bindings, context := before.context } before.observed start
  rcases ended : Process.noted ((module.behaviour.run event module.state).within Process.request
    { bindings := module.bindings, context := before.context }) before.observed with
    ⟨⟨⟨result, state⟩, scope⟩, later⟩
  rw [ended] at code
  have called : (module.call (module.behaviour.run event) before.context).noted before.observed =
      ((result, { module with state, bindings := scope.bindings }, scope.context), later) :=
    Process.noted_bind ended
  have same : { module with state, bindings := scope.bindings } = left :=
    congrArg (·.1.2.1) (called.symm.trans runs)
  rw [← same]
  exact code

theorem Runs.identity (runs : module.Runs event before result left after) :
    left.identity = module.identity :=
  runs.keeps (lasting_identity module.identity) rfl

end Module

theorem RanAll.own {event : UInt64} {modules left : List (Module σ)} {now last : Progress}
    (all : RanAll event modules now left last) (own : ∀ module ∈ modules, module.bindings.Own) :
    ∀ module ∈ left, module.bindings.Own := by
  induction all with
  | nil => exact own
  | cons runs _ ih =>
    obtain ⟨first, rest⟩ := List.forall_mem_cons.mp own
    exact List.forall_mem_cons.mpr ⟨runs.keeps lasting_own first, ih rest⟩

/-! ## Modules in turn -/

section InTurn

variable {event : UInt64} {modules others left : List (Module σ)} {now last : Progress}

theorem RanAll.noted_append (all : RanAll event modules now left last)
    (rest : List (Module σ)) {result : Except Stop Unit} {context : Option EventContext}
    {final : Observed}
    (ended : (callInTurn .run (fun behaviour => behaviour.run event) rest last.context).noted
      last.observed = ((result, others, context), final)) :
    (callInTurn .run (fun behaviour => behaviour.run event) (modules ++ rest) now.context).noted
      now.observed = ((result, left ++ others, context), final) := by
  induction all with
  | nil => exact ended
  | cons runs _ ih => exact (Process.noted_bind runs).trans (Process.noted_bind (ih ended))

theorem RanAll.noted_callInTurn (all : RanAll event modules now left last) :
    (callInTurn .run (fun behaviour => behaviour.run event) modules now.context).noted
      now.observed = ((.ok (), left, last.context), last.observed) := by
  have ran : (callInTurn .run (fun behaviour => behaviour.run event) (modules ++ [])
      now.context).noted now.observed = ((.ok (), left ++ [], last.context), last.observed) :=
    all.noted_append [] rfl
  rwa [List.append_nil, List.append_nil] at ran

private theorem ranAll_or_stopped (event : UInt64) (modules : List (Module σ)) (now : Progress) :
    (∃ left last, RanAll event modules now left last) ∨
      ∃ before module after ran next stop left last, modules = before ++ module :: after ∧
        RanAll event before now ran next ∧
        Module.Runs event module next (.error stop) left last := by
  induction modules generalizing now with
  | nil => exact .inl ⟨[], now, .nil now⟩
  | cons module rest ih =>
    rcases called : (module.call (module.behaviour.run event) now.context).noted now.observed with
      ⟨⟨result, left, context⟩, observed⟩
    have runs : module.Runs event now result left { context, observed } := called
    cases result with
    | error stop => exact .inr ⟨[], module, rest, [], now, stop, left, _, rfl, .nil now, runs⟩
    | ok _ =>
      rcases ih { context, observed } with ⟨others, last, all⟩ | stopped
      · exact .inl ⟨left :: others, last, .cons runs all⟩
      · obtain ⟨before, failed, after, ran, next, stop, others, last, rfl, all, fails⟩ := stopped
        exact .inr ⟨module :: before, failed, after, left :: ran, next, stop, others, last, rfl,
          .cons runs all, fails⟩

end InTurn

/-! ## What stops an event -/

def Observed.operations (observed : Observed) : List LaneOperation :=
  observed.2.map Note.operation

/-- Between two observations a lane performed some operations that counted at most. -/
structure Counts (before : Observed) (operations : List LaneOperation) (after : Observed) :
    Prop where
  world : after.1 = { before.1 with metrics := after.1.metrics }
  operations : after.operations = before.operations ++ operations

theorem Counts.append {before middle after : Observed} {first second : List LaneOperation}
    (earlier : Counts before first middle) (later : Counts middle second after) :
    Counts before (first ++ second) after where
  world := by rw [later.world, earlier.world]
  operations := by rw [later.operations, earlier.operations, List.append_assoc]

namespace Module

variable {event : UInt64} {modules rest : List (Module σ)} {module left : Module σ}

theorem noted_recordError (module : Module σ) (error : RunError) (observed : Observed) :
    ∃ after, (module.recordError .run error).noted observed =
      (error.inModule module.identity.uniqueName .run, after) ∧
        Counts observed [.countError module.identity.uniqueName error.kind] after :=
  ⟨_, rfl, rfl, by simp [Observed.operations]⟩

private theorem noted_recordStop {stop told : Stop}
    (reported : Stop.Reports module.identity.uniqueName stop told) (observed : Observed) :
    ∃ after, (module.recordStop .run stop).noted observed = (told, after) ∧
      Counts observed (recorded module.identity.uniqueName stop) after := by
  cases stop with
  | error error =>
    obtain rfl := reported.inModule
    obtain ⟨after, recorded, counts⟩ := module.noted_recordError error observed
    exact ⟨after, Process.noted_bind recorded, counts⟩
  | fault reason =>
    cases reported
    exact ⟨_, rfl, rfl, by simp [recorded]⟩

end Module

/-! ## What is required -/

namespace Module

variable {module : Module σ} {handle : Handle} {bus : Bus}

theorem Supplied.unmetRequirements (supplied : module.Supplied bus.store) :
    module.bindings.unmetRequirements bus = [] :=
  List.filterMap_eq_nil_iff.mpr fun handle held =>
    Handle.unmetRequirement_of_met (supplied handle held)

private theorem unmetRequirements_of_lacks {earlier later : List Handle}
    (bound : module.bindings.handles = earlier ++ handle :: later)
    (met : ∀ other ∈ earlier, ¬ other.Lacks bus.store) (lacks : handle.Lacks bus.store) :
    ∃ further, module.bindings.unmetRequirements bus = handle.unmet :: further := by
  refine ⟨_, List.filterMap_eq_cons_iff.mpr ⟨earlier, handle, later, bound, ?_, ?_, rfl⟩⟩
  · exact fun other member => Handle.unmetRequirement_of_met (met other member)
  · exact lacks.unmetRequirement

private theorem unmet_eq_lack (own : module.bindings.Own)
    (held : handle ∈ module.bindings.handles) :
    handle.unmet = module.lack handle := by
  unfold Handle.unmet Module.lack Delegate.nameKey
  rw [own handle held, Binding.payloadName_eq, NameKey.display_ofReceiver]
  rfl

theorem noted_unmetRequirements (module : Module σ) (observed : Observed) : ∃ after,
    (module.ask .unmetRequirements).noted observed =
      (module.bindings.unmetRequirements observed.1.bus, after) ∧ after.1 = observed.1 ∧
      Counts observed (checks [module]) after :=
  ⟨_, rfl, rfl, rfl, by simp [Observed.operations, checks]⟩

end Module

theorem noted_firstUnmet {before : List (Module σ)} (rest : List (Module σ)) {observed : Observed}
    (supplied : ∀ module ∈ before, module.Supplied observed.1.bus.store) : ∃ after,
      (firstUnmet (before ++ rest)).noted observed = (firstUnmet rest).noted after ∧
        after.1 = observed.1 ∧ after.operations = observed.operations ++ checks before := by
  induction before generalizing observed with
  | nil => exact ⟨observed, rfl, rfl, (List.append_nil _).symm⟩
  | cons module before ih =>
    obtain ⟨first, others⟩ := List.forall_mem_cons.mp supplied
    obtain ⟨next, asked, same, counts⟩ := module.noted_unmetRequirements observed
    rw [first.unmetRequirements] at asked
    obtain ⟨after, passed, still, counted⟩ := @ih next (by rwa [same])
    refine ⟨after, (Process.noted_bind asked).trans passed, still.trans same, ?_⟩
    rw [counted, counts.operations, List.append_assoc]
    rfl

/-! ## Events -/

namespace Lane

variable {lane : Lane σ} {event seed : UInt64} {begun last : Progress} {left : List (Module σ)}
  {stop : Stop} {operations : List LaneOperation}

theorem noted_closeEvent_of_supplied (lane : Lane σ) {observed : Observed}
    (supplied : ∀ module ∈ lane.modules, module.Supplied observed.1.bus.store) :
    (lane.closeEvent.noted observed).1 = .ok () := by
  obtain ⟨after, checked, _, _⟩ := noted_firstUnmet [] supplied
  rw [List.append_nil] at checked
  rcases emptied : (resetModules lane.modules).noted after with ⟨_, later⟩
  change (Process.noted (Program.bind (firstUnmet lane.modules) _) observed).1 = _
  rw [Process.noted_bind checked]
  change (Process.noted (Program.bind (resetModules lane.modules) _) after).1 = _
  rw [Process.noted_bind emptied]
  rfl

theorem noted_closeEvent_of_lacks (lane : Lane σ) {before after : List (Module σ)}
    {module : Module σ} {earlier later : List Handle} {handle : Handle} {observed : Observed}
    (chain : lane.modules = before ++ module :: after) (own : module.bindings.Own)
    (supplied : ∀ other ∈ before, other.Supplied observed.1.bus.store)
    (bound : module.bindings.handles = earlier ++ handle :: later)
    (met : ∀ other ∈ earlier, ¬ other.Lacks observed.1.bus.store)
    (lacks : handle.Lacks observed.1.bus.store) : ∃ final,
      lane.closeEvent.noted observed = (.error (.error (.bus (module.lack handle))), final) ∧
        Counts observed
          (checks (before ++ [module]) ++
            [.countError module.identity.uniqueName "unmet_requirement"]) final := by
  obtain ⟨next, passed, same, counted⟩ := noted_firstUnmet (module :: after) supplied
  obtain ⟨further, unmet⟩ : ∃ further,
      module.bindings.unmetRequirements next.1.bus = handle.unmet :: further :=
    module.unmetRequirements_of_lacks bound (by rwa [same]) (by rwa [same])
  obtain ⟨found, asked, still, counts⟩ := module.noted_unmetRequirements next
  rw [unmet] at asked
  rw [Module.unmet_eq_lack own (bound ▸ by simp)] at asked
  have first : (firstUnmet lane.modules).noted observed =
      (some (module, module.lack handle), found) := by
    rw [chain, passed]
    exact Process.noted_bind asked
  obtain ⟨final, recorded, reported⟩ := module.noted_recordError (.bus (module.lack handle)) found
  refine ⟨final, ?_, { world := ?_, operations := ?_ }⟩
  · exact (Process.noted_bind first).trans (Process.noted_bind recorded)
  · rw [reported.world, still, same]
  · have split : checks (before ++ [module]) = checks before ++ checks [module] := List.map_append
    rw [reported.operations, counts.operations, counted, split]
    simp only [List.append_assoc]
    rfl

theorem counts_timeEvent (observed : Observed) :
    Counts observed [.timeEvent] (LaneOperation.timeEvent.performNoted observed).2 :=
  ⟨rfl, by simp [Observed.operations, LaneOperation.performNoted]⟩

private theorem noted_runEvent_of_stopped {observed called : Observed}
    {context : Option EventContext}
    (ran : (callInTurn .run (fun behaviour => behaviour.run event) lane.modules
      (some { event, stream := .ofEvent seed event })).noted observed =
        ((.error stop, left, context), called)) :
    (lane.runEvent event seed).noted observed =
      ((.error stop, { lane with modules := left }),
        (LaneOperation.timeEvent.performNoted called).2) :=
  Process.noted_bind ran

theorem noted_runEvent_of_ran {observed called closed : Observed} {context : Option EventContext}
    {ended : Except Stop Unit}
    (ran : (callInTurn .run (fun behaviour => behaviour.run event) lane.modules
      (some { event, stream := .ofEvent seed event })).noted observed =
        ((.ok (), left, context), called))
    (closes : (closeEvent { lane with modules := left }).noted called = (ended, closed)) :
    (lane.runEvent event seed).noted observed =
      ((ended, { lane with modules := left }), (LaneOperation.timeEvent.performNoted closed).2) :=
  (Process.noted_bind ran).trans (Process.noted_bind closes)

theorem completes_or_fails (modules : List (Module σ)) (event : UInt64) (begun : Progress) :
    (∃ ran last, RanAll event modules begun ran last ∧
        ∀ module ∈ ran, module.Supplied last.store) ∨
      ∃ stop left last operations, Fails event modules begun stop left last operations := by
  rcases ranAll_or_stopped event modules begun with ⟨ran, last, all⟩ | stopped
  · rcases first_or_none (fun module : Module σ => ¬ module.Supplied last.store) ran with
      supplied | ⟨before, module, after, chain, supplied, unsupplied⟩
    · exact .inl ⟨ran, last, all, fun module member => not_not.mp (supplied module member)⟩
    · rcases first_or_none (fun handle : Handle => handle.Lacks last.store)
        module.bindings.handles with met | ⟨earlier, handle, later, bound, met, lacks⟩
      · exact absurd met unsupplied
      · exact .inr ⟨_, _, _, _, .unmet all chain
          (fun other member => not_not.mp (supplied other member)) bound met lacks⟩
  · obtain ⟨before, module, after, ran, next, stop, left, last, chain, earlier, runs⟩ := stopped
    obtain ⟨told, reported⟩ := Stop.exists_reports module.identity.uniqueName stop
    exact .inr ⟨_, _, _, _, .stopped chain earlier runs reported⟩

theorem noted_runEvent_of_supplied
    (all : RanAll event lane.modules begun left last)
    (start : begun.context = some { event, stream := .ofEvent seed event })
    (supplied : ∀ module ∈ left, module.Supplied last.store) :
    ((lane.runEvent event seed).noted begun.observed).1 =
      (.ok (), { lane with modules := left }) := by
  have ran := all.noted_callInTurn
  rw [start] at ran
  have closed := noted_closeEvent_of_supplied { lane with modules := left } supplied
  rcases ended : (closeEvent { lane with modules := left }).noted last.observed with ⟨result, final⟩
  rw [ended] at closed
  rw [noted_runEvent_of_ran ran ended, show result = .ok () from closed]

theorem noted_runEvent_of_fails (own : lane.Own)
    (start : begun.context = some { event, stream := .ofEvent seed event })
    (fails : Fails event lane.modules begun stop left last operations) : ∃ final,
      (lane.runEvent event seed).noted begun.observed =
        ((.error stop, { lane with modules := left }), final) ∧
      Counts last.observed (operations ++ [.timeEvent]) final := by
  cases fails with
  | @stopped before after ran module failed now _ stop _ chain earlier runs reported =>
    rw [← runs.identity] at reported ⊢
    obtain ⟨counted, recorded, counts⟩ := failed.noted_recordStop reported last.observed
    have called := earlier.noted_append (module :: after)
      ((Process.noted_bind runs).trans (Process.noted_bind recorded))
    rw [← chain, start] at called
    exact ⟨_, noted_runEvent_of_stopped called, counts.append (counts_timeEvent counted)⟩
  | @unmet before after _ module _ earlier later handle all chain supplied bound met lacks =>
    have ran := all.noted_callInTurn
    rw [start] at ran
    have mine := all.own own module (chain ▸ by simp)
    obtain ⟨closed, failed, counts⟩ := noted_closeEvent_of_lacks { lane with modules := left }
      chain mine supplied bound met lacks
    exact ⟨_, noted_runEvent_of_ran ran failed, counts.append (counts_timeEvent closed)⟩

private theorem own_of_fails (own : lane.Own)
    (fails : Fails event lane.modules begun stop left last operations) :
    Own { lane with modules := left } := by
  cases fails with
  | @stopped before after _ module _ _ _ _ _ chain earlier runs =>
    unfold Own at own
    rw [chain] at own
    obtain ⟨first, others⟩ := List.forall_mem_append.mp own
    obtain ⟨here, rest⟩ := List.forall_mem_cons.mp others
    exact List.forall_mem_append.mpr
      ⟨earlier.own first, List.forall_mem_cons.mpr ⟨runs.keeps lasting_own here, rest⟩⟩
  | unmet all => exact all.own own

/-- An event completes just if all modules run and then none of their required bindings lacks
anything. Otherwise it ends with the error of the first module that stops, or else with the first
lack. In both cases the modules after it do nothing, what is stored or logged as dispatched stays as
the last module left it, and nothing more is done than to check up to the lack and to count. That
the bindings of modules are their own holds of every lane that is built, and it stays so. -/
theorem runEvent_outcome (lane : Lane σ) (own : lane.Own) (event seed : UInt64) (world : World) :
    let begun : Progress :=
      { context := some { event, stream := .ofEvent seed event }, observed := (world, []) }
    let ended := (lane.runEvent event seed).noted (world, [])
    (lane.runEvent event seed).finish world = (ended.1, ended.2.1) ∧ ended.1.2.Own ∧
      (ended.1.1 = .ok () ↔ ∃ ran last, RanAll event lane.modules begun ran last ∧
        ∀ module ∈ ran, module.Supplied last.store) ∧
      (∀ stop, ended.1.1 = .error stop ↔ ∃ left last operations,
        Fails event lane.modules begun stop left last operations) ∧
      ∀ stop left last operations, Fails event lane.modules begun stop left last operations →
        ended.1.2 = { lane with modules := left } ∧
        ended.2.1 = { last.observed.1 with metrics := ended.2.1.metrics } ∧
        ended.2.operations = last.observed.operations ++ operations ++ [.timeEvent] := by
  intro begun ended
  have same := Program.run_of_extends extends_performNoted (lane.runEvent event seed) (world, [])
  have completes {ran : List (Module σ)} {last : Progress}
      (all : RanAll event lane.modules begun ran last)
      (supplied : ∀ module ∈ ran, module.Supplied last.store) :
      ended.1 = (.ok (), { lane with modules := ran }) :=
    noted_runEvent_of_supplied all rfl supplied
  have failing {stop : Stop} {left : List (Module σ)} {last : Progress}
      {operations : List LaneOperation}
      (fails : Fails event lane.modules begun stop left last operations) :
      ended.1 = (.error stop, { lane with modules := left }) ∧
        Counts last.observed (operations ++ [.timeEvent]) ended.2 := by
    obtain ⟨final, reached, counts⟩ := noted_runEvent_of_fails own rfl fails
    have all : ended = _ := reached
    rw [all]
    exact ⟨rfl, counts⟩
  have outcome := completes_or_fails lane.modules event begun
  refine ⟨Prod.ext same.1.symm same.2.symm, ?_, ⟨fun ok => ?_, ?_⟩,
    fun stop => ⟨fun error => ?_, ?_⟩, ?_⟩
  · rcases outcome with ⟨ran, last, all, supplied⟩ | ⟨stop, left, last, operations, fails⟩
    · rw [completes all supplied]
      exact all.own own
    · rw [(failing fails).1]
      exact own_of_fails own fails
  · rcases outcome with completed | ⟨stop, left, last, operations, fails⟩
    · exact completed
    · rw [(failing fails).1] at ok
      cases ok
  · rintro ⟨ran, last, all, supplied⟩
    rw [completes all supplied]
  · rcases outcome with ⟨ran, last, all, supplied⟩ | ⟨other, left, last, operations, fails⟩
    · rw [completes all supplied] at error
      cases error
    · rw [(failing fails).1] at error
      cases error
      exact ⟨left, last, operations, fails⟩
  · rintro ⟨left, last, operations, fails⟩
    rw [(failing fails).1]
  · intro stop left last operations fails
    obtain ⟨reached, counts⟩ := failing fails
    refine ⟨congrArg Prod.snd reached, counts.world, ?_⟩
    rw [counts.operations, List.append_assoc]

/-- A module that waits for particles under its input, besides tracks under any name. -/
def waiter : Module Unit where
  bindings := {
    identity := { number := 1, name := "waiter", input := "found" }
    handles := [
      .ofSlot 0 { number := 1, name := "waiter", input := "found" }
        { number := 0, kind := .single, payload := .track } { ignoreName := true },
      .ofSlot 1 { number := 1, name := "waiter", input := "found" }
        { number := 1, kind := .multi, payload := .particle } { required := true }] }
  behaviour := { run := fun _ => pure () }
  state := ()

/-- A module that logs and binds nothing. -/
def logger : Module Unit where
  bindings := { identity := { number := 0, name := "logger" } }
  behaviour := { run := fun _ => Code.ask (.log { message := "running" }) }
  state := ()

theorem runEvent_waiter :
    let lane : Lane Unit := { id := { index := 0 }, modules := [logger, waiter] }
    lane.Own ∧ ((lane.runEvent 0 0).finish {}).1.1 =
      .error (.error (.bus (.unmetRequirement "waiter" "MCParticle" "found"))) := by
  intro lane
  have own : lane.Own := by
    simp [Lane.Own, Bindings.Own, lane, logger, waiter, Handle.ofSlot]
  obtain ⟨same, -, -, fails, -⟩ := runEvent_outcome lane own 0 0 {}
  let begun : Progress :=
    { context := some { event := 0, stream := .ofEvent 0 0 }, observed := ({}, []) }
  let last : Progress := { begun with
    observed := ((logger.call (logger.behaviour.run 0) begun.context).noted begun.observed).2 }
  have logs : logger.Runs 0 begun (.ok ()) logger last := rfl
  have waits : waiter.Runs 0 last (.ok ()) waiter last := rfl
  have ran : RanAll 0 lane.modules begun lane.modules last := .cons logs (.cons waits (.nil last))
  have chain : lane.modules = [logger] ++ waiter :: [] := rfl
  have bound : waiter.bindings.handles = [_] ++ _ :: [] := rfl
  refine ⟨own, same ▸ (fails _).mpr ⟨_, _, _, .unmet ran chain ?_ bound ?_ ⟨rfl, ?_⟩⟩⟩
  · simp [Module.Supplied, logger]
  · simp [Handle.Lacks, Handle.isRequired, Handle.ofSlot]
  · exact congrArg (fun held : List Message => !held.isEmpty) (Store.contents_empty _)

end Lane

end Run

end Beamline
