import Beamline.Proofs.Benches
import Beamline.Proofs.LaneEvents

namespace Beamline.Run

open Bus

variable {σ τ α β : Type} {going steady : Prop} {own : Nat} {bench : Bench}

/-- A process of a lane keeps the benches of all lanes, whatever the others do, and comes to a good
end with its own one. -/
abbrev Process.KeepsBenches (going : Prop) (own : Nat) (process : Process α)
    (good : α → Bench → Prop) (bench : Bench) : Prop :=
  Program.Ensures (S := LaneOperations) LaneOperation.performNoted (Laid going) own good process
    bench

/-- An operation that changes neither the store nor which delegates are registered. -/
theorem keepsBenches_idle {operation : LaneOperation} {good : operation.Answer → Bench → Prop}
    (silent : ∀ answer, Note.sending? ⟨operation, answer⟩ = none)
    (kept : ∀ world, (operation.perform world).2.bus.store = world.bus.store ∧
      (operation.perform world).2.bus.messenger.registry = world.bus.messenger.registry ∧
      (operation.perform world).2.bus.messenger.nextId = world.bus.messenger.nextId ∧
      (operation.perform world).2.bus.messenger.stats = world.bus.messenger.stats)
    (flag : ∀ world, going → (operation.perform world).2.aborting = world.aborting)
    (answered : ∀ returned live benches observed,
      Layout going returned live benches observed → benches own = bench →
        good (operation.perform observed.1).1 bench) :
    (Process.ask operation).KeepsBenches going own good bench := by
  apply Program.ensures_ask (S := LaneOperations)
  rintro benches observed ⟨returned, live, layout⟩ rfl
  obtain ⟨store, registry, nextId, stats⟩ := kept observed.1
  refine ⟨_, ⟨returned, live, ?_⟩, answered returned live benches observed layout rfl⟩
  rw [Function.update_eq_self]
  refine layout.frame ?_ (fun slot => congrArg (Store.contents · slot) store)
    (fun lane => sentBy_silent lane observed.2 (silent _))
    fun calm => (flag observed.1 calm).trans (layout.going calm)
  have next := congrArg Store.next store
  refine layout.separate.frame registry nextId (congrArg Stats.registered stats)
    (congrArg Stats.removed stats) (Nat.le_of_eq next.symm) fun slot filled => ?_
  refine Nat.lt_of_lt_of_le (layout.separate.vacant slot fun empty => filled ?_)
    (Nat.le_of_eq next.symm)
  exact (congrArg (Store.contents · slot) store).trans empty

/-- The same, whatever it answers. -/
theorem keepsBenches_still {operation : LaneOperation}
    (silent : ∀ answer, Note.sending? ⟨operation, answer⟩ = none)
    (kept : ∀ world, (operation.perform world).2.bus.store = world.bus.store ∧
      (operation.perform world).2.bus.messenger.registry = world.bus.messenger.registry ∧
      (operation.perform world).2.bus.messenger.nextId = world.bus.messenger.nextId ∧
      (operation.perform world).2.bus.messenger.stats = world.bus.messenger.stats)
    (flag : ∀ world, going → (operation.perform world).2.aborting = world.aborting) :
    (Process.ask operation).KeepsBenches going own (fun _ after => after = bench) bench :=
  keepsBenches_idle silent kept flag fun _ _ _ _ _ _ => rfl

/-! ## Observers -/

/-- What an observer registers is required only where it is not steady. -/
theorem Request.Grants.free {mine created : List Handle} {request : Request}
    {answer : request.Answer} (granted : request.Grants mine answer created)
    (observes : request.Observes steady mine) (calm : steady) :
    ∀ handle ∈ created, handle.isRequired = false := by
  cases request with
  | bindSlot kind payload flags =>
    rcases answer with error | slot
    · simp [granted.2]
    · obtain ⟨handle, rfl, _, options⟩ := granted
      simpa [Handle.isRequired, options] using observes.2 calm
  | register binding flags =>
    rcases answer with error | given
    · simp [granted.2]
    · obtain ⟨handle, rfl, _, options⟩ := granted
      simpa [Handle.isRequired, options] using observes.2 calm
  | handles => simp [granted.2]
  | _ => simp [show created = [] from granted]

theorem Request.Observes.silent {mine : List Handle} {request : Request}
    (observes : request.Observes steady mine) (scope : Scope) (answer : request.Answer × Scope) :
    Note.sending? ⟨.request scope request, answer⟩ = none := by
  cases request with
  | dispatch message name => exact observes.elim
  | _ => rfl

/-- Whatever an observer does, its lane is as before, but for delegates of the observer. -/
theorem keepsBenches_observes (small : own ≤ ConfigError.maxWorkers)
    {program : Program Requests α} {good : α → List Handle → Prop} {scope : Scope}
    {mine : List Handle} (observes : program.Observes steady good mine)
    (lane : scope.bindings.identity.lane = laneOf own)
    (held : ∀ handle ∈ scope.bindings.handles, handle ∈ mine)
    (known : ∀ handle ∈ mine, handle ∈ bench.others)
    (free : steady → ∀ handle ∈ mine, handle.isRequired = false) :
    Process.KeepsBenches going own (program.within Process.request scope) (fun ended after =>
      ∃ more, good ended.1 (mine ++ more) ∧ after = bench.join more ∧
        ended.2.bindings.identity = scope.bindings.identity ∧ ended.2.context = scope.context ∧
        (∀ handle ∈ ended.2.bindings.handles, handle ∈ mine ++ more) ∧
        (steady → ∀ handle ∈ mine ++ more, handle.isRequired = false)) bench := by
  induction program generalizing scope mine bench with
  | done result => exact ⟨[], by simpa using ⟨observes, held, free⟩⟩
  | call request next ih =>
    rintro benches observed ⟨returned, live, layout⟩ rfl
    have shown := layout.shown own small
    obtain ⟨created, left, granted, opened, aside⟩ := Request.aside observes.1 layout.separate
      (fun handle member => (shown.others handle (known handle member)).1) held
    have joined := @Layout.join going returned live left benches observed
      (LaneOperation.performNoted (.request scope request) observed).2 own mine created scope
      _ ⟨.request scope request, _⟩ layout small aside lane known opened rfl
      (observes.1.silent scope _)
      fun calm => (Request.aborting_perform request scope observed.1).trans (layout.going calm)
    refine ⟨_, ⟨_, left, joined⟩, ?_⟩
    apply (ih _ (observes.2 _ created granted) ((congrArg Identity.lane aside.identity).trans lane)
      ?_ ?_ ?_).mono
    · rintro ended after ⟨more, good, rfl, identity, context, kept, calm⟩
      rw [List.append_assoc] at good kept calm
      exact ⟨created ++ more, good, Bench.join_join _ _ _, identity.trans aside.identity,
        context.trans aside.context, kept, calm⟩
    · intro handle member
      rcases aside.handles handle member with old | new
      · exact List.mem_append_left _ (held handle old)
      · exact List.mem_append_right _ new
    · intro handle member
      rcases List.mem_append.mp member with old | new
      · exact List.mem_append_left _ (known handle old)
      · exact List.mem_append_right _ new
    · intro calm handle member
      rcases List.mem_append.mp member with old | new
      · exact free calm handle old
      · exact granted.free observes.1 calm handle new

/-- An observer in a lane: its delegates are among those that observers have there. -/
structure Onlooker (steady : Prop) (own : Nat) (others : List Handle) (module : Module σ) : Prop where
  lane : module.bindings.identity.lane = laneOf own
  watching : ∃ mine knows, (∀ handle ∈ mine, handle ∈ others) ∧
    (∀ handle ∈ module.bindings.handles, handle ∈ mine) ∧ knows module.state mine ∧
    module.behaviour.Observes steady knows ∧
    (steady → ∀ handle ∈ mine, handle.isRequired = false)

theorem Onlooker.mono {others more : List Handle} {module : Module σ}
    (onlooker : Onlooker steady own others module) (subset : ∀ handle ∈ others, handle ∈ more) :
    Onlooker steady own more module := by
  obtain ⟨lane, mine, knows, among, rest⟩ := onlooker
  exact ⟨lane, mine, knows, fun handle member => subset handle (among handle member), rest⟩

/-- What a stage of an observer comes to. -/
structure Onlooker.Ends (steady : Prop) (own : Nat) (bench : Bench) (context : Option EventContext)
    (ended : Except Stop Unit × Module σ × Option EventContext) (after : Bench) : Prop where
  joined : ∃ more, after = bench.join more
  context : ended.2.2 = context
  onlooker : ended.1 = .ok () → Onlooker steady own after.others ended.2.1
  calm : steady → ended.1 = .ok ()

theorem Onlooker.keepsBenches_stage (small : own ≤ ConfigError.maxWorkers) {module : Module σ}
    (onlooker : Onlooker steady own bench.others module) {code : Behaviour σ → Code σ Unit}
    (context : Option EventContext)
    (stage : ∀ knows (behaviour : Behaviour σ), behaviour.Observes steady knows →
      ∀ state mine, knows state mine →
        (code behaviour).Observes steady (Settles steady knows) state mine) :
    (module.call (code module.behaviour) context).KeepsBenches going own
      (Onlooker.Ends steady own bench context) bench := by
  obtain ⟨lane, mine, knows, among, held, known, observes, free⟩ := onlooker
  have inside := @keepsBenches_observes _ going steady own bench small _ _
    { bindings := module.bindings, context } mine (stage knows module.behaviour observes _ _ known)
    lane held among free
  apply Program.Ensures.bind inside
  rintro ⟨⟨result, state⟩, later⟩ after ⟨more, settled, rfl, identity, same, kept, calm⟩
  refine ⟨⟨more, rfl⟩, same, fun fine => ?_, settled.2⟩
  refine ⟨(congrArg Identity.lane identity).trans lane, mine ++ more, knows, ?_, kept,
    settled.1 fine, observes, calm⟩
  intro handle member
  rcases List.mem_append.mp member with old | new
  · exact List.mem_append_left _ (among handle old)
  · exact List.mem_append_right _ new

theorem Onlooker.keepsBenches_setUp (small : own ≤ ConfigError.maxWorkers) {module : Module σ}
    (onlooker : Onlooker steady own bench.others module) (context : Option EventContext) :
    (module.call module.behaviour.setUp context).KeepsBenches going own
      (Onlooker.Ends steady own bench context) bench :=
  onlooker.keepsBenches_stage small context fun _ _ observes => observes.setUp

theorem Onlooker.keepsBenches_run (small : own ≤ ConfigError.maxWorkers) {module : Module σ}
    (onlooker : Onlooker steady own bench.others module) (event : UInt64)
    (context : Option EventContext) :
    (module.call (module.behaviour.run event) context).KeepsBenches going own
      (Onlooker.Ends steady own bench context) bench :=
  onlooker.keepsBenches_stage small context fun _ _ observes => observes.run event

/-! ## Other modules -/

private theorem Code.zoom_apply (part : σ → τ) (put : τ → σ → σ) (code : Code τ α) (state : σ) :
    (code.zoom part put state : Program Requests (Except Stop α × σ)) =
      Program.bind (code (part state)) fun ended => .done (ended.1, put ended.2 state) := rfl

/-- A module of a lane in an event, with delegates of the bench. -/
structure Workplace where
  own : Nat
  bindings : Bindings
  event : UInt64
  small : own ≤ ConfigError.maxWorkers
  located : bindings.identity.lane = laneOf own
  unnamed : bindings.identity.output = ""

namespace Workplace

variable (workplace : Workplace)

def lane : LaneId :=
  laneOf workplace.own

/-- What belongs to the module, with a stream. -/
def scope (stream : Random.Stream) : Scope where
  bindings := workplace.bindings
  context := some { event := workplace.event, stream }

/-- What code comes to from a state of the module. -/
def Does (going : Prop) (good : Except Stop α → σ → Random.Stream → Bench → Prop) (code : Code σ α)
    (state : σ) (stream : Random.Stream) (bench : Bench) : Prop :=
  let program : Program Requests (Except Stop α × σ) := code state
  let process : Process ((Except Stop α × σ) × Scope) :=
    program.within Process.request (workplace.scope stream)
  process.KeepsBenches going workplace.own (fun ended after => ∃ last,
    ended.2 = workplace.scope last ∧ good ended.1.1 ended.1.2 last after) bench

def Goes (going : Prop) (good : α → σ → Random.Stream → Bench → Prop) (code : Code σ α)
    (state : σ) (stream : Random.Stream) (bench : Bench) : Prop :=
  workplace.Does going (fun result later last after => ∃ value,
    result = .ok value ∧ good value later last after) code state stream bench

variable {workplace} {state : σ} {stream : Random.Stream}
  {good : α → σ → Random.Stream → Bench → Prop}

theorem does_computes {best : Except Stop α → σ → Random.Stream → Bench → Prop} {code : Code σ α}
    {result : Except Stop α} {after : σ} (computes : code.Computes state result after)
    (ends : best result after stream bench) :
    workplace.Does going best code state stream bench := by
  unfold Does
  rw [show (code state : Program Requests (Except Stop α × σ)) = _ from computes]
  exact ⟨stream, rfl, ends⟩

theorem goes_pure {value : α} (ends : good value state stream bench) :
    workplace.Goes going good (pure value : Code σ α) state stream bench :=
  does_computes (Code.computes_pure value state) ⟨value, rfl, ends⟩

theorem Goes.does {best : Except Stop β → σ → Random.Stream → Bench → Prop} {code : Code σ α}
    {next : α → Code σ β} (first : workplace.Goes going good code state stream bench)
    (second : ∀ value later stream bench, good value later stream bench →
      workplace.Does going best (next value) later stream bench) :
    workplace.Does going best (code >>= next) state stream bench := by
  unfold Does
  simp only [Code.bind_apply, Program.within_bind]
  apply Program.Ensures.bind first
  rintro ⟨⟨_, later⟩, _⟩ after ⟨last, rfl, value, rfl, ends⟩
  exact second value later last after ends

theorem Goes.bind {better : β → σ → Random.Stream → Bench → Prop} {code : Code σ α}
    {next : α → Code σ β} (first : workplace.Goes going good code state stream bench)
    (second : ∀ value later stream bench, good value later stream bench →
      workplace.Goes going better (next value) later stream bench) :
    workplace.Goes going better (code >>= next) state stream bench :=
  first.does second

theorem goes_modify {change : σ → σ} {good : Unit → σ → Random.Stream → Bench → Prop}
    (ends : good () (change state) stream bench) :
    workplace.Goes going good (modify change : Code σ Unit) state stream bench :=
  does_computes (Code.computes_modify change state) ⟨(), rfl, ends⟩

/-- Code that keeps its state in a part of a larger one. -/
theorem Does.zoom {part : σ → τ} {put : τ → σ → σ} {code : Code τ α}
    {best : Except Stop α → τ → Random.Stream → Bench → Prop}
    (does : workplace.Does going best code (part state) stream bench) :
    workplace.Does going (fun result later last after => ∃ inner,
      later = put inner state ∧ best result inner last after) (code.zoom part put) state stream
        bench := by
  unfold Does
  rw [Code.zoom_apply]
  simp only [Program.within_bind]
  apply Program.Ensures.bind does
  rintro ⟨⟨result, inner⟩, _⟩ after ⟨last, rfl, ends⟩
  exact ⟨last, rfl, inner, rfl, ends⟩

theorem goes_idle {request : Request} {good : request.Answer → σ → Random.Stream → Bench → Prop}
    (silent : ∀ answer, Note.sending? ⟨.request (workplace.scope stream) request, answer⟩ = none)
    (kept : ∀ world, (request.perform (workplace.scope stream) world).2 = world)
    (answered : ∀ returned live benches observed,
      Layout going returned live benches observed → benches workplace.own = bench →
        ∃ answer last, (request.perform (workplace.scope stream) observed.1).1 =
          (answer, workplace.scope last) ∧ good answer state last bench) :
    workplace.Goes going good (Code.ask request : Code σ request.Answer) state stream bench := by
  have same (world : World) :
      (LaneOperation.perform (.request (workplace.scope stream) request) world).2 = world :=
    kept world
  let asked : LaneOperation := .request (workplace.scope stream) request
  have told : (Process.ask asked).KeepsBenches going workplace.own
      (fun answered after => ∃ answer last, answered = (answer, workplace.scope last) ∧
        good answer state last after) bench :=
    keepsBenches_idle silent (fun world => by simp [asked, same world])
      (fun world _ => congrArg World.aborting (same world)) answered
  apply Program.Ensures.bind told
  rintro _ after ⟨answer, last, rfl, ends⟩
  exact ⟨last, rfl, answer, rfl, ends⟩

private theorem keepsBenches_draws {program : Program Requests α} {last : Random.Stream}
    {result : α}
    (draws : program.Draws stream result last) :
    Process.KeepsBenches going workplace.own
      (program.within Process.request (workplace.scope stream))
      (fun ended after => ended = (result, workplace.scope last) ∧ after = bench) bench := by
  induction draws with
  | done result stream => exact ⟨rfl, rfl⟩
  | @draw wanted next stream rest last drawn result draws further ih =>
    have asked : (Process.ask (.request (workplace.scope stream) (.draw wanted))).KeepsBenches going
        workplace.own (fun answered after => answered = (some drawn, workplace.scope rest) ∧
          after = bench) bench := by
      refine keepsBenches_idle (fun _ => rfl) (fun _ => ⟨rfl, rfl, rfl, rfl⟩) (fun _ _ => rfl)
        fun _ _ _ observed _ _ => ⟨?_, rfl⟩
      have told : drawFrom wanted (workplace.scope stream).context =
          (some drawn, (workplace.scope rest).context) := by
        simp only [drawFrom, scope, draws]
      exact congrArg (fun result => (result.1,
        { bindings := workplace.bindings, context := result.2 : Scope })) told
    apply Program.Ensures.bind asked
    rintro _ _ ⟨rfl, rfl⟩
    exact ih

theorem goes_draws {code : Code σ α} {drawn : StateM Random.Stream α} (draws : code.OnlyDraws drawn)
    (ends : good (drawn stream).1 state (drawn stream).2 bench) :
    workplace.Goes going good code state stream bench := by
  apply (keepsBenches_draws (draws state stream)).mono
  rintro _ _ ⟨rfl, rfl⟩
  exact ⟨_, rfl, _, rfl, ends⟩

theorem goes_read {handle : Handle} {slot : Slot} (member : handle ∈ bench.core)
    (place : handle.place = .slot slot) {good : List Message → σ → Random.Stream → Bench → Prop}
    (ends : good (bench.held handle) state stream bench) :
    workplace.Goes going good (Code.ask (.read slot) : Code σ (List Message)) state stream
      bench := by
  refine goes_idle (fun _ => rfl) (fun _ => rfl) ?_
  rintro returned live benches observed layout rfl
  refine ⟨_, stream, ?_, ends⟩
  exact congrArg (·, workplace.scope stream)
    ((layout.shown workplace.own workplace.small).held handle member slot place)

/-- The answer whether a message would reach a delegate may depend on observers. -/
theorem goes_hasReceiver {message : Message} {good : Bool → σ → Random.Stream → Bench → Prop}
    (ends : ∀ wanted : Bool,
      (∀ handle ∈ bench.core, handle.Takes workplace.lane message → wanted = true) →
        good wanted state stream bench) :
    workplace.Goes going good (Code.ask (.hasReceiver message) : Code σ Bool) state stream
      bench := by
  refine goes_idle (fun _ => rfl) (fun _ => rfl) ?_
  rintro returned live benches observed layout rfl
  refine ⟨_, stream, rfl, ends _ fun handle member takes => ?_⟩
  have candidate : handle ∈ observed.1.bus.messenger.candidates workplace.bindings.identity message
      workplace.bindings.identity.output := by
    rw [workplace.unnamed]
    refine layout.separate.sound.lists.mem_candidates.mpr ⟨?_, ?_⟩
    · exact ((layout.shown workplace.own workplace.small).core handle member).1
    · rw [lane, ← workplace.located] at takes
      exact takes
  change workplace.bindings.hasReceiver observed.1.bus message = true
  unfold Bindings.hasReceiver Messenger.hasReceiver
  rw [Bool.not_eq_true', List.isEmpty_eq_false_iff]
  exact List.ne_nil_of_mem candidate

theorem goes_dispatch {message : Message} {good : Report → σ → Random.Stream → Bench → Prop}
    (free : bench.Free workplace.lane message)
    (ends : ∀ report,
      good report state stream (bench.send workplace.lane workplace.event message)) :
    workplace.Goes going good (Code.dispatch message : Code σ Report) state stream bench := by
  let asked : LaneOperation := .request (workplace.scope stream) (.dispatch message none)
  have told : (Process.ask asked).KeepsBenches going workplace.own
      (fun answered after => ∃ report, answered = (.ok report, workplace.scope stream) ∧
        after = bench.send workplace.lane workplace.event message) bench := by
    apply Program.ensures_ask (S := LaneOperations)
    rintro benches observed ⟨returned, live, layout⟩ rfl
    obtain ⟨⟨report, answered⟩, sent⟩ := @Layout.dispatch going returned live benches observed
      workplace.own (workplace.scope stream) layout workplace.small workplace.located _ message
      workplace.unnamed rfl free
    exact ⟨_, ⟨returned, live, sent⟩, report, answered, rfl⟩
  apply Program.Ensures.bind told
  rintro _ _ ⟨report, rfl, rfl⟩
  exact ⟨stream, rfl, report, rfl, ends report⟩

end Workplace

/-! ## Lanes -/

section Lane

variable {modules : List (Module σ)}

theorem keepsBenches_recordError (module : Module σ) (stage : Stage) (error : RunError) :
    (module.recordError stage error).KeepsBenches going own (fun _ after => after = bench) bench := by
  have counted := @keepsBenches_still going own bench
    (.countError module.identity.uniqueName error.kind) (fun _ => rfl)
    (fun _ => ⟨rfl, rfl, rfl, rfl⟩) (fun _ _ => rfl)
  exact Program.Ensures.bind counted fun _ _ same => same

theorem keepsBenches_recordStop (module : Module σ) (stage : Stage) (stop : Stop) :
    (module.recordStop stage stop).KeepsBenches going own (fun _ after => after = bench) bench := by
  cases stop with
  | fault fault => exact rfl
  | error error =>
    exact Program.Ensures.bind (keepsBenches_recordError module stage error) fun _ _ same => same

private theorem keepsBenches_unmet (small : own ≤ ConfigError.maxWorkers) {module : Module σ}
    (filled : steady → ∀ handle ∈ module.bindings.handles, handle.isRequired = true →
      handle ∈ bench.core ∧ ∃ slot, handle.place = .slot slot ∧ bench.held handle ≠ []) :
    (module.ask .unmetRequirements).KeepsBenches going own
      (fun unmet after => after = bench ∧ (steady → unmet = ([] : List BusError))) bench := by
  let scope : Scope := { bindings := module.bindings }
  have asked : (Process.ask (.request scope .unmetRequirements)).KeepsBenches going own
      (fun answered after => after = bench ∧ (steady → answered.1 = ([] : List BusError))) bench := by
    refine keepsBenches_idle (fun _ => rfl) (fun _ => ⟨rfl, rfl, rfl, rfl⟩) (fun _ _ => rfl) ?_
    rintro returned live benches observed layout rfl
    refine ⟨rfl, fun calm => List.filterMap_eq_nil_iff.mpr fun handle member => ?_⟩
    unfold Handle.unmetRequirement
    cases required : handle.isRequired with
    | false => rfl
    | true =>
      obtain ⟨among, slot, place, holds⟩ := filled calm handle member required
      have contents := (layout.shown own small).held handle among slot place
      have satisfied : handle.isSatisfied observed.1.bus.store = true := by
        rw [handle.isSatisfied_eq_keeps, place]
        simpa [Store.keeps, Store.isFilled, contents] using holds
      simp [satisfied]
  apply Program.Ensures.bind asked
  rintro ⟨unmet, last⟩ after ends
  exact ends

theorem keepsBenches_firstUnmet (small : own ≤ ConfigError.maxWorkers)
    (filled : steady → ∀ module ∈ modules, ∀ handle ∈ module.bindings.handles,
      handle.isRequired = true →
        handle ∈ bench.core ∧ ∃ slot, handle.place = .slot slot ∧ bench.held handle ≠ []) :
    (firstUnmet modules).KeepsBenches going own
      (fun unmet after => after = bench ∧ (steady → unmet = none)) bench := by
  induction modules with
  | nil => exact ⟨rfl, fun _ => rfl⟩
  | cons module rest ih =>
    apply Program.Ensures.bind (keepsBenches_unmet small fun calm =>
      filled calm module List.mem_cons_self)
    rintro (_ | ⟨error, more⟩) _ ⟨rfl, met⟩
    · exact ih fun calm other member => filled calm other (List.mem_cons_of_mem _ member)
    · exact ⟨rfl, fun calm => nomatch met calm⟩

/-- A bench after the slots of some delegates are emptied. -/
structure Cleared (emptied : List Handle) (bench after : Bench) : Prop where
  core : after.core = bench.core
  others : after.others = bench.others
  sent : after.sent = bench.sent
  held : ∀ handle ∈ bench.core, handle ∈ emptied ∨ bench.held handle = [] → after.held handle = []

theorem Cleared.refl (bench : Bench) : Cleared [] bench bench where
  core := rfl
  others := rfl
  sent := rfl
  held _ _ empty := by simpa using empty

theorem Cleared.trans {first second : List Handle} {middle after : Bench}
    (earlier : Cleared first bench middle) (later : Cleared second middle after) :
    Cleared (first ++ second) bench after where
  core := later.core.trans earlier.core
  others := later.others.trans earlier.others
  sent := later.sent.trans earlier.sent
  held handle member empty := by
    refine later.held handle (earlier.core ▸ member) ?_
    rcases empty with among | empty
    · rcases List.mem_append.mp among with among | among
      · exact .inr (earlier.held handle member (.inl among))
      · exact .inl among
    · exact .inr (earlier.held handle member (.inr empty))

theorem cleared_emptied (handles : List Handle) : Cleared handles bench (bench.emptied handles) where
  core := rfl
  others := rfl
  sent := rfl
  held handle _ empty := by
    change (bench.toView.emptied handles).held handle = []
    rcases empty with among | empty
    · exact View.emptied_held (List.mem_map_of_mem among)
    · exact emptied_held_of_nil empty handles

theorem keepsBenches_reset (small : own ≤ ConfigError.maxWorkers) {module : Module σ}
    (held : ∀ handle ∈ module.bindings.handles, handle ∈ bench.core) :
    (module.ask .resetAll).KeepsBenches going own
      (fun _ after => after = bench.emptied module.bindings.handles) bench := by
  let scope : Scope := { bindings := module.bindings }
  have asked : (Process.ask (.request scope .resetAll)).KeepsBenches going own
      (fun _ after => after = bench.emptied module.bindings.handles) bench := by
    apply Program.ensures_ask (S := LaneOperations)
    rintro benches observed ⟨returned, live, layout⟩ rfl
    exact ⟨_, ⟨returned, live,
      @Layout.reset going returned live benches observed own scope layout small held⟩, rfl⟩
  exact Program.Ensures.bind asked fun _ _ same => same

theorem Onlooker.keepsBenches_reset (small : own ≤ ConfigError.maxWorkers) {module : Module σ}
    (onlooker : Onlooker steady own bench.others module) :
    (module.ask .resetAll).KeepsBenches going own (fun _ after => after = bench) bench := by
  obtain ⟨lane, mine, knows, among, held, known, observes, free⟩ := onlooker
  have asks : (Program.ask (S := Requests) .resetAll).Observes steady (fun _ now => now = mine) mine := by
    refine ⟨trivial, ?_⟩
    rintro _ _ rfl
    exact List.append_nil mine
  apply Program.Ensures.bind (@keepsBenches_observes _ going steady own bench small _ _
    { bindings := module.bindings } mine asks lane held among free)
  rintro ⟨answer, last⟩ _ ⟨more, same, rfl, _⟩
  obtain rfl := List.append_right_eq_self.mp same
  exact bench.join_nil

end Lane

end Beamline.Run
