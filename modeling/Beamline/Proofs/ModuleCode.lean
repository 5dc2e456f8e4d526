import Beamline.Proofs.LaneView
import Beamline.Proofs.PlainCode

namespace Beamline.Run

open Bus

namespace Program

variable {S T : Signature} {α β γ σ : Type}

theorem bind_assoc (program : Program S α) (first : α → Program S β) (second : β → Program S γ) :
    (program.bind first).bind second = program.bind fun value => (first value).bind second := by
  induction program with
  | done result => rfl
  | call operation next ih =>
    simp only [bind]
    congr 1
    funext answer
    exact ih answer

theorem bind_done (program : Program S α) : program.bind done = program := by
  induction program with
  | done result => rfl
  | call operation next ih =>
    simp only [bind]
    congr 1
    funext answer
    exact ih answer

instance : LawfulMonad (Program S) :=
  LawfulMonad.mk' _ bind_done (fun _ _ => rfl) bind_assoc

/-- A program inside another one does its parts one after the other. -/
theorem within_bind (interpret : (operation : S.Operation) → σ → Program T (S.Answer operation × σ))
    (program : Program S α) (next : α → Program S β) (state : σ) :
    (program.bind next).within interpret state =
      (program.within interpret state).bind fun (value, state) =>
        (next value).within interpret state := by
  induction program generalizing state with
  | done result => rfl
  | call operation rest ih =>
    simp only [bind, within, bind_assoc]
    congr 1
    funext answered
    exact ih _ _

end Program

/-- A module of a lane in the course of an event. -/
structure Situation where
  tally : Nat
  live : List Handle
  lane : LaneId
  bindings : Bindings
  event : UInt64
  watched : Watched tally live
  located : bindings.identity.lane = lane
  unnamed : bindings.identity.output = ""
  mine : Mine live lane bindings.handles
  monitored : ∃ handle ∈ live, handle.Watches tally ∧ handle.lane = lane

/-- What changes while the code of a module runs. -/
structure Moment (σ : Type) where
  state : σ
  stream : Random.Stream
  view : View

namespace Situation

variable (situation : Situation)

/-- What belongs to the module, with a stream. -/
def scope (stream : Random.Stream) : Scope where
  bindings := situation.bindings
  context := some { event := situation.event, stream }

def Shows : LaneId → View → Observed → Prop :=
  Run.Shows situation.tally situation.live

def Finishes {σ α : Type} (code : Code σ α) (before : Moment σ) (result : Except Stop α)
    (after : Moment σ) : Prop :=
  let program : Program Requests (Except Stop α × σ) := code before.state
  let process : Process ((Except Stop α × σ) × Scope) :=
    program.within Process.request (situation.scope before.stream)
  process.Comes LaneOperation.performNoted situation.Shows situation.lane before.view
    ((result, after.state), situation.scope after.stream) after.view

def Leads {σ α : Type} (code : Code σ α) (before : Moment σ) (value : α) (after : Moment σ) :
    Prop :=
  situation.Finishes code before (.ok value) after

variable {situation} {σ α β : Type} {before middle after : Moment σ}

theorem leads_pure (moment : Moment σ) (value : α) :
    situation.Leads (pure value) moment value moment :=
  ⟨rfl, fun _ fits => fits⟩

theorem Leads.then {code : Code σ α} {next : α → Code σ β} {value : α} {result : Except Stop β}
    (first : situation.Leads code before value middle)
    (second : situation.Finishes (next value) middle result after) :
    situation.Finishes (code >>= next) before result after := by
  unfold Finishes
  simp only [Code.bind_apply, Program.within_bind]
  exact Program.Comes.bind first second

theorem Leads.bind {code : Code σ α} {next : α → Code σ β} {value : α} {result : β}
    (first : situation.Leads code before value middle)
    (second : situation.Leads (next value) middle result after) :
    situation.Leads (code >>= next) before result after :=
  first.then second

/-- Code that stops early, and then nothing else. -/
theorem Finishes.bind_of_error {code : Code σ α} {next : α → Code σ β} {stop : Stop}
    (first : situation.Finishes code before (.error stop) after) :
    situation.Finishes (code >>= next) before (.error stop) after := by
  unfold Finishes
  simp only [Code.bind_apply, Program.within_bind]
  exact Program.Comes.bind first ⟨rfl, fun _ fits => fits⟩

theorem finishes_of_computes {code : Code σ α} {moment : Moment σ} {result : Except Stop α}
    {state : σ} (computes : code.Computes moment.state result state) :
    situation.Finishes code moment result { moment with state } := by
  unfold Finishes
  rw [computes]
  exact ⟨rfl, fun _ fits => fits⟩

theorem leads_modify (moment : Moment σ) (change : σ → σ) :
    situation.Leads (modify change : Code σ Unit) moment ()
      { moment with state := change moment.state } :=
  finishes_of_computes (Code.computes_modify change moment.state)

theorem leads_ask {request : Request} {moment : Moment σ} {view : View} {stream : Random.Stream}
    {answer : request.Answer}
    (moves : Program.Moves (S := LaneOperations) LaneOperation.performNoted situation.Shows
      situation.lane (.request (situation.scope moment.stream) request) moment.view view)
    (answers : Program.Answers (S := LaneOperations) LaneOperation.performNoted situation.Shows
      situation.lane (.request (situation.scope moment.stream) request) moment.view
      (answer, situation.scope stream)) :
    situation.Leads (Code.ask request) moment answer { moment with view, stream } := by
  have asked := moves.ask answers
  exact asked.bind ⟨rfl, fun _ fits => fits⟩

theorem leads_read {handle : Handle} (member : handle ∈ situation.live)
    (own : handle.lane = situation.lane) {slot : Slot} (place : handle.place = .slot slot)
    (moment : Moment σ) :
    situation.Leads (Code.ask (.read slot)) moment (moment.view.held handle) moment :=
  leads_ask
    (moves_idle (fun _ => rfl) (fun _ _ => rfl) fun _ => ⟨rfl, rfl, rfl, rfl, rfl⟩)
    fun _ fits => congrArg (·, situation.scope moment.stream)
      (fits.2.held handle member own slot place)

theorem leads_hasReceiver (message : Message) (moment : Moment σ) :
    situation.Leads (Code.ask (.hasReceiver message)) moment true moment := by
  refine leads_ask
    (moves_idle (fun _ => rfl) (fun _ _ => rfl) fun _ => ⟨rfl, rfl, rfl, rfl, rfl⟩)
    fun observed fits => congrArg (·, situation.scope moment.stream) (?_ :
      situation.bindings.hasReceiver observed.1.bus message = true)
  obtain ⟨handle, member, watches, own⟩ := situation.monitored
  have takes : handle.Takes situation.bindings.identity.lane message :=
    watches.takes_iff.mpr (own.trans situation.located.symm)
  have candidate : handle ∈ observed.1.bus.messenger.candidates situation.bindings.identity message
      situation.bindings.identity.output := by
    rw [situation.unnamed]
    exact fits.1.sound.lists.mem_candidates.mpr ⟨member, takes⟩
  unfold Bindings.hasReceiver Messenger.hasReceiver
  rw [Bool.not_eq_true', List.isEmpty_eq_false_iff]
  exact List.ne_nil_of_mem candidate

/-- No filled slot stands in the way of a message. -/
def Free (situation : Situation) (view : View) (message : Message) : Prop :=
  ∀ handle ∈ situation.live, handle.Takes situation.lane message → ∀ slot,
    handle.place = .slot slot → slot.kind = .single → view.held handle = []

/-- A view after messages of the event are dispatched. -/
def sendAll (situation : Situation) (view : View) (messages : List Message) : View :=
  view.sendAll situation.lane situation.event messages

theorem leads_dispatch {message : Message} (moment : Moment σ)
    (free : situation.Free moment.view message) : ∃ report,
      situation.Leads (Code.dispatch message) moment report
        { moment with view := situation.sendAll moment.view [message] } := by
  obtain ⟨moves, answers⟩ := moves_dispatch (situation.scope moment.stream)
    situation.watched situation.located situation.unnamed rfl free situation.monitored
  exact ⟨_, (leads_ask moves answers).bind (leads_pure _ _)⟩

theorem leads_dispatchWanted {message : Message} (moment : Moment σ)
    (free : situation.Free moment.view message) :
    situation.Leads (Code.dispatchWanted message) moment ()
      { moment with view := situation.sendAll moment.view [message] } := by
  obtain ⟨report, dispatched⟩ := leads_dispatch moment free
  exact (leads_hasReceiver message moment).bind (dispatched.bind (leads_pure _ ()))

/-- Code of a module as its lane calls it. -/
theorem Finishes.call {code : Code σ α} {result : Except Stop α}
    (finishes : situation.Finishes code before result after) {module : Module σ}
    (same : situation.bindings = module.bindings) (begins : before.state = module.state) :
    (module.call code (some { event := situation.event, stream := before.stream })).Comes
      LaneOperation.performNoted situation.Shows situation.lane before.view
      (result, { module with state := after.state },
        some { event := situation.event, stream := after.stream }) after.view := by
  have own : situation.scope before.stream = {
      bindings := module.bindings
      context := some { event := situation.event, stream := before.stream } } :=
    congrArg (fun bindings : Bindings => (⟨bindings, _⟩ : Scope)) same
  unfold Finishes at finishes
  rw [own, begins] at finishes
  refine finishes.bind ⟨?_, fun _ fits => fits⟩
  exact congrArg (fun bindings : Bindings =>
    ((result, { module with state := after.state, bindings }, _) :
      Except Stop α × Module σ × Option EventContext)) same

end Situation

/-! ## Random numbers -/

/-- A random number from a range, without the fault of an empty one. -/
def drawNumber (low high : Float) (inclusive : Bool) : StateM Random.Stream Float := fun stream =>
  match (Random.Draw.range low high inclusive).perform stream with
  | (.ok (.number value), stream) => (value, stream)
  | (_, stream) => (low, stream)

/-- A program that does nothing but draw from a stream: what it comes to, and what it leaves of the
stream. -/
inductive Program.Draws {α : Type} :
    Program Requests α → Random.Stream → α → Random.Stream → Prop
  | done (result : α) (stream : Random.Stream) : Draws (.done result) stream result stream
  | draw {wanted : Random.Draw} {next : Requests.Answer (.draw wanted) → Program Requests α}
      {stream rest last : Random.Stream} {drawn : Except Fault Random.Drawn} {result : α}
      (draws : wanted.perform stream = (drawn, rest))
      (further : Draws (next (some drawn)) rest result last) :
      Draws (.call (.draw wanted) next) stream result last

theorem Program.Draws.bind {α β : Type} {program : Program Requests α}
    {next : α → Program Requests β} {stream middle last : Random.Stream} {value : α} {result : β}
    (first : program.Draws stream value middle) (second : (next value).Draws middle result last) :
    (program.bind next).Draws stream result last := by
  induction first with
  | done value stream => exact second
  | draw draws further ih => exact .draw draws (ih second)

private theorem Situation.answers_draw {situation : Situation} {wanted : Random.Draw}
    {stream rest : Random.Stream} {drawn : Except Fault Random.Drawn}
    (draws : wanted.perform stream = (drawn, rest)) (view : View) :
    Program.Answers (S := LaneOperations) LaneOperation.performNoted situation.Shows
      situation.lane (.request (situation.scope stream) (.draw wanted)) view
      (some drawn, situation.scope rest) := by
  intro observed _
  have next : drawFrom wanted (situation.scope stream).context =
      (some drawn, (situation.scope rest).context) := by
    simp only [drawFrom, Situation.scope, draws]
  exact congrArg (fun result => (result.1,
    { bindings := situation.bindings, context := result.2 : Scope })) next

/-- Whatever others do, such a program draws the same. -/
theorem Program.Draws.comes {α : Type} {program : Program Requests α}
    {stream last : Random.Stream} {result : α} (draws : program.Draws stream result last)
    (situation : Situation) (view : View) :
    let process : Process (α × Scope) :=
      program.within Process.request (situation.scope stream)
    process.Comes LaneOperation.performNoted situation.Shows situation.lane view
      (result, situation.scope last) view := by
  induction draws with
  | done result stream => exact Program.comes_done
  | draw draws further ih =>
    refine Program.Comes.bind (Program.Moves.ask ?_ (Situation.answers_draw draws view)) ih
    exact moves_idle (fun _ => rfl) (fun _ _ => rfl) fun _ => ⟨rfl, rfl, rfl, rfl, rfl⟩

/-- Code that does nothing but draw random numbers. -/
def Code.OnlyDraws {σ α : Type} (code : Code σ α) (drawn : StateM Random.Stream α) : Prop :=
  ∀ (state : σ) (stream : Random.Stream),
    let program : Program Requests (Except Stop α × σ) := code state
    program.Draws stream (.ok (drawn stream).1, state) (drawn stream).2

namespace Code

variable {σ α β : Type}

/-- Such code leaves the view of its lane alone. -/
theorem OnlyDraws.leads {code : Code σ α} {drawn : StateM Random.Stream α}
    (draws : code.OnlyDraws drawn) (situation : Situation) (moment : Moment σ) :
    situation.Leads code moment (drawn moment.stream).1
      { moment with stream := (drawn moment.stream).2 } :=
  (draws moment.state moment.stream).comes situation moment.view

theorem draws_pure (value : α) : OnlyDraws (pure value : Code σ α) (pure value) :=
  fun _ _ => .done _ _

theorem OnlyDraws.bind {code : Code σ α} {drawn : StateM Random.Stream α} {next : α → Code σ β}
    {then_ : α → StateM Random.Stream β} (first : code.OnlyDraws drawn)
    (second : ∀ value, (next value).OnlyDraws (then_ value)) :
    (code >>= next).OnlyDraws (drawn >>= then_) :=
  fun state stream => (first state stream).bind (second _ state _)

theorem draws_mapM {f : α → Code σ β} {drawn : α → StateM Random.Stream β}
    (each : ∀ value, (f value).OnlyDraws (drawn value)) (values : List α) :
    (values.mapM f).OnlyDraws (values.mapM drawn) := by
  induction values with
  | nil =>
    rw [List.mapM_nil, List.mapM_nil]
    exact draws_pure _
  | cons value rest ih =>
    rw [List.mapM_cons, List.mapM_cons]
    exact (each value).bind fun first => ih.bind fun others => draws_pure _

def Ranges (low high : Float) (inclusive : Bool) : Prop :=
  if inclusive then low ≤ high else low < high

private theorem perform_range {low high : Float} {inclusive : Bool}
    (range : Ranges low high inclusive)
    (stream : Random.Stream) : ∃ value rest,
      (Random.Draw.range low high inclusive).perform stream = (.ok (.number value), rest) := by
  unfold Ranges at range
  unfold Random.Draw.perform
  cases inclusive with
  | true =>
    simp only [if_true] at range ⊢
    simp only [Random.Stream.upTo, if_pos range]
    exact ⟨_, _, rfl⟩
  | false =>
    simp only [Bool.false_eq_true, if_false] at range ⊢
    simp only [Random.Stream.within, if_pos range]
    exact ⟨_, _, rfl⟩

theorem draws_number {low high : Float} {inclusive : Bool} (range : Ranges low high inclusive) :
    OnlyDraws (number low high inclusive : Code σ Float) (drawNumber low high inclusive) := by
  intro state stream
  obtain ⟨value, rest, drawn⟩ := perform_range range stream
  have told : drawNumber low high inclusive stream = (value, rest) := by
    simp only [drawNumber, drawn]
  rw [told]
  exact .draw drawn (.done _ _)

end Code

end Beamline.Run
