import Beamline.Proofs.ModuleCode
import Beamline.Proofs.StageCode

namespace Beamline.Run

open Bus

variable {σ α β : Type}

namespace Code

variable {before middle : Setting σ}

/-- What code comes to, and what it leaves. -/
def outcome (code : Code σ α) (before : Setting σ) : Except Stop α × Setting σ :=
  let program : Program Requests (Except Stop α × σ) := code before.state
  let process : Process ((Except Stop α × σ) × Scope) :=
    program.within Process.request before.scope
  let ended := process.finish before.world
  (ended.1.1.1, { state := ended.1.1.2, scope := ended.1.2, world := ended.2 })

theorem finish_of_outcome {code : Code σ α} {result : Except Stop α}
    (ended : code.outcome before = (result, middle)) :
    let program : Program Requests (Except Stop α × σ) := code before.state
    let process : Process ((Except Stop α × σ) × Scope) :=
      program.within Process.request before.scope
    process.finish before.world = (((result, middle.state), middle.scope), middle.world) := by
  cases ended
  rfl

theorem Does.outcome {code : Code σ α} {value : α} (does : code.Does before value middle) :
    code.outcome before = (.ok value, middle) := by
  have ended : Process.finish _ _ = _ := does
  unfold Code.outcome
  simp only [ended]

theorem Computes.outcome {code : Code σ α} {result : Except Stop α} {state : σ}
    (computes : code.Computes before.state result state) :
    code.outcome before = (result, { before with state }) := by
  unfold Code.outcome
  rw [computes]
  rfl

theorem outcome_bind_of_ok {code : Code σ α} {next : α → Code σ β} {value : α}
    (first : code.outcome before = (.ok value, middle)) :
    (code >>= next).outcome before = (next value).outcome middle := by
  unfold Code.outcome
  simp only [Code.bind_apply, Program.within_bind, Process.finish_bind (finish_of_outcome first)]
  rfl

theorem outcome_bind_of_error {code : Code σ α} {next : α → Code σ β} {stop : Stop}
    (first : code.outcome before = (.error stop, middle)) :
    (code >>= next).outcome before = (.error stop, middle) := by
  unfold Code.outcome
  simp only [Code.bind_apply, Program.within_bind, Process.finish_bind (finish_of_outcome first)]
  rfl

theorem outcome_ask {request : Request} {answer : request.Answer} {scope : Scope} {world : World}
    (performed : request.perform before.scope before.world = ((answer, scope), world)) :
    (ask request).outcome before = (.ok answer, { before with scope, world }) :=
  (does_ask performed).outcome

/-- What a result of the bus comes to in code. -/
def attempted (result : Except BusError α) : Except Stop α :=
  result.mapError fun error => .error (.bus error)

private theorem outcome_dispatch (message : Message) (before : Setting σ) :
    let sent := before.scope.bindings.dispatch before.world.bus message none
    (dispatch message : Code σ Report).outcome before =
      (attempted sent.1, { before with world := { before.world with bus := sent.2 } }) := by
  intro sent
  unfold dispatch
  rw [outcome_bind_of_ok (outcome_ask rfl)]
  cases sent.1 <;> rfl

end Code

/-! ## Random numbers -/

/-- A program that only draws changes the stream alone. -/
theorem Program.Draws.finish {program : Program Requests α} {stream last : Random.Stream}
    {result : α} (draws : program.Draws stream result last) (bindings : Bindings) (event : UInt64)
    (world : World) :
    Process.finish (program.within Process.request
      { bindings, context := some { event, stream } }) world =
        ((result, { bindings, context := some { event, stream := last } }), world) := by
  induction draws with
  | done result stream => rfl
  | @draw wanted next stream rest last drawn result draws further ih =>
    have asked : Process.finish
        (Process.request (.draw wanted) { bindings, context := some { event, stream } }) world =
          ((some drawn, { bindings, context := some { event, stream := rest } }), world) := by
      have drew : drawFrom wanted (some { event, stream }) =
          (some drawn, some { event, stream := rest }) := by simp only [drawFrom, draws]
      exact congrArg (fun drew : Option (Except Fault Random.Drawn) × Option EventContext =>
        ((drew.1, { bindings, context := drew.2 : Scope }), world)) drew
    exact (Process.finish_bind asked).trans ih

namespace Code

variable {before middle : Setting σ}

theorem OnlyDraws.outcome {code : Code σ α} {drawn : StateM Random.Stream α}
    (draws : code.OnlyDraws drawn) {event : UInt64} {stream : Random.Stream}
    (inEvent : before.scope.context = some { event, stream }) :
    code.outcome before = (.ok (drawn stream).1, { before with
      scope.context := some { event, stream := (drawn stream).2 } }) := by
  obtain ⟨state, ⟨bindings, context⟩, world⟩ := before
  subst inEvent
  have ended := (draws state stream).finish bindings event world
  unfold Code.outcome
  simp only [ended]

end Code

/-! ## Messages that are offered -/

/-- What comes of a message that is dispatched if it has a receiver. -/
inductive Offered (bindings : Bindings) (message : Message) (world : World) :
    Except Stop Unit → World → Prop
  | unwanted (none : bindings.hasReceiver world.bus message = false) :
      Offered bindings message world (.ok ()) world
  | sent {report : Report} {bus : Bus} (wanted : bindings.hasReceiver world.bus message = true)
      (dispatch : bindings.dispatch world.bus message none = (.ok report, bus)) :
      Offered bindings message world (.ok ()) { world with bus }
  | failed {error : BusError} {bus : Bus} (wanted : bindings.hasReceiver world.bus message = true)
      (dispatch : bindings.dispatch world.bus message none = (.error error, bus)) :
      Offered bindings message world (.error (.error (.bus error))) { world with bus }

/-- What comes of messages that are offered one after the other, up to the first that cannot be
dispatched. -/
inductive Offers (bindings : Bindings) : List Message → World → Except Stop Unit → World → Prop
  | nil (world : World) : Offers bindings [] world (.ok ()) world
  | cons {message : Message} {rest : List Message} {world middle last : World}
      {ended : Except Stop Unit} (offered : Offered bindings message world (.ok ()) middle)
      (later : Offers bindings rest middle ended last) :
      Offers bindings (message :: rest) world ended last
  | failed {message : Message} {rest : List Message} {world last : World} {stop : Stop}
      (offered : Offered bindings message world (.error stop) last) :
      Offers bindings (message :: rest) world (.error stop) last

namespace Offers

variable {bindings : Bindings} {first second : List Message} {world middle last : World}

theorem append {ended : Except Stop Unit} (earlier : Offers bindings first world (.ok ()) middle)
    (later : Offers bindings second middle ended last) :
    Offers bindings (first ++ second) world ended last := by
  generalize completed : Except.ok () = result at earlier
  induction earlier with
  | nil => exact later
  | cons offered _ ih => exact .cons offered (ih later completed)
  | failed => cases completed

private theorem append_of_stopped {stop : Stop}
    (stopped : Offers bindings first world (.error stop) last)
    (second : List Message) : Offers bindings (first ++ second) world (.error stop) last := by
  generalize failed : Except.error stop = result at stopped
  induction stopped with
  | nil => cases failed
  | cons offered _ ih => exact .cons offered (ih failed)
  | failed offered =>
    cases failed
    exact .failed offered

end Offers

/-- Code that draws random numbers and offers messages. What it offers depends on what it draws, and
what it draws does not depend on what comes of the messages. -/
def Code.Presents (code : Code σ Unit) (drawn : StateM Random.Stream α)
    (messages : α → List Message) : Prop :=
  ∀ (before : Setting σ) (event : UInt64) (stream : Random.Stream),
    before.scope.context = some { event, stream } → ∃ ended after,
      code.outcome before = (ended, after) ∧
      Offers before.scope.bindings (messages (drawn stream).1) before.world ended after.world ∧
      after.scope.bindings = before.scope.bindings ∧
      (ended = .ok () → after.scope.context = some { event, stream := (drawn stream).2 })

namespace Code

private theorem presents_pure (value : α) {messages : α → List Message}
    (none : messages value = []) :
    Presents (pure () : Code σ Unit) (pure value) messages :=
  fun before _ _ inEvent => ⟨.ok (), before, rfl, none ▸ .nil before.world, rfl, fun _ => inEvent⟩

theorem OnlyDraws.presents {code : Code σ α} {drawn : StateM Random.Stream α}
    (draws : code.OnlyDraws drawn) {next : α → Code σ Unit} {further : α → StateM Random.Stream β}
    {messages : β → List Message}
    (later : ∀ value, (next value).Presents (further value) messages) :
    (code >>= next).Presents (drawn >>= further) messages := by
  intro before event stream inEvent
  rw [outcome_bind_of_ok (draws.outcome inEvent)]
  exact later _ _ event _ rfl

/-- Code that offers messages before other code does. -/
theorem Presents.then {γ : Type} {first second : Code σ Unit} {drawn : StateM Random.Stream α}
    {further : StateM Random.Stream β} {earlier : α → List Message} {later : β → List Message}
    (before : first.Presents drawn earlier) (after : second.Presents further later)
    (combine : α → β → γ) {messages : γ → List Message}
    (split : ∀ value other, messages (combine value other) = earlier value ++ later other) :
    (first >>= fun _ => second).Presents
      (do let value ← drawn; let other ← further; return combine value other) messages := by
  intro setting event stream inEvent
  obtain ⟨ended, middle, reached, offers, same, kept⟩ := before setting event stream inEvent
  cases ended with
  | error stop =>
    refine ⟨_, middle, outcome_bind_of_error reached, ?_, same, fun completed => by cases completed⟩
    exact split _ _ ▸ offers.append_of_stopped _
  | ok _ =>
    obtain ⟨ended, final, finished, others, still, left⟩ := after middle event _ (kept rfl)
    rw [outcome_bind_of_ok reached]
    exact ⟨ended, final, finished, split _ _ ▸ offers.append (same ▸ others), still.trans same,
      left⟩

theorem presents_forM {f : β → Code σ Unit} {drawn : β → StateM Random.Stream α}
    {messages : α → List Message} (each : ∀ value, (f value).Presents (drawn value) messages)
    (values : List β) :
    (values.forM f).Presents (values.mapM drawn) fun drew => drew.flatMap messages := by
  induction values with
  | nil =>
    rw [List.mapM_nil]
    exact presents_pure [] rfl
  | cons value rest ih =>
    rw [List.mapM_cons]
    exact (each value).then ih List.cons fun first others => List.flatMap_cons

theorem presents_offer {message : Message} {sending : Code σ Unit}
    (sends : ∀ before : Setting σ,
      let sent := before.scope.bindings.dispatch before.world.bus message none
      ∃ state, sending.outcome before = ((attempted sent.1).map fun _ => (),
        { before with state, world := { before.world with bus := sent.2 } })) :
    Presents ((ask (.hasReceiver message) : Code σ Bool) >>= fun wanted : Bool =>
      if wanted then sending else pure ()) (pure ()) fun _ => [message] := by
  intro before event stream inEvent
  have asked : (ask (.hasReceiver message) : Code σ Bool).outcome before =
      (.ok (before.scope.bindings.hasReceiver before.world.bus message), before) := outcome_ask rfl
  cases wanted : before.scope.bindings.hasReceiver before.world.bus message <;>
    rw [wanted] at asked
  · exact ⟨.ok (), before, outcome_bind_of_ok asked,
      .cons (.unwanted wanted) (.nil before.world), rfl, fun _ => inEvent⟩
  · obtain ⟨state, sent⟩ := sends before
    rcases dispatch : before.scope.bindings.dispatch before.world.bus message none with
      ⟨error | report, bus⟩
    all_goals
      rw [dispatch] at sent
      refine ⟨_, { before with state, world := { before.world with bus } },
        (outcome_bind_of_ok asked).trans sent, ?_, rfl, ?_⟩
    · exact .failed (.failed wanted dispatch)
    · exact fun completed => by cases completed
    · exact .cons (.sent wanted dispatch) (.nil _)
    · exact fun _ => inEvent

theorem outcome_dispatch_unit (message : Message) (before : Setting σ) :
    let sent := before.scope.bindings.dispatch before.world.bus message none
    (do let _ ← dispatch message : Code σ Unit).outcome before =
      ((attempted sent.1).map fun _ => (),
        { before with world := { before.world with bus := sent.2 } }) := by
  intro sent
  have ended : (dispatch message : Code σ Report).outcome before = (attempted sent.1,
    { before with world := { before.world with bus := sent.2 } }) := outcome_dispatch message before
  cases result : attempted sent.1 <;> rw [result] at ended
  · exact outcome_bind_of_error ended
  · exact outcome_bind_of_ok ended

theorem outcome_modify_dispatch (change : σ → σ) (message : Message) (before : Setting σ) :
    let sent := before.scope.bindings.dispatch before.world.bus message none
    (do modify change; let _ ← dispatch message : Code σ Unit).outcome before =
      ((attempted sent.1).map fun _ => (), { before with
        state := change before.state, world := { before.world with bus := sent.2 } }) :=
  outcome_dispatch_unit message { before with state := change before.state }

theorem presents_dispatchWanted (message : Message) :
    Presents (dispatchWanted message : Code σ Unit) (pure ()) fun _ => [message] :=
  presents_offer fun before => ⟨before.state, outcome_dispatch_unit message before⟩

end Code

end Beamline.Run
