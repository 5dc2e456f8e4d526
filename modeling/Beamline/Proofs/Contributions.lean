import Beamline.Proofs.BenchCode
import Beamline.Proofs.DemoCrew

namespace Beamline.Demo

open Bus Run

/-! ## The messages of an event, role by role -/

/-- The roles whose modules dispatch messages, in order. -/
def acting (detectors : List Detector) : List Role :=
  .generator :: (detectors.map .transfer ++ detectors.map .digitizer)

/-- The messages of a type that concern a detector. -/
def about (type : PayloadType) (detector : Detector) (messages : List Message) : List Message :=
  messages.filter fun message => message.type = type ∧ Suits detector message

/-- What a module in a role dispatches after some messages of the event. -/
def Role.act (detectors : List Detector) (pipeline : Pipeline) (done : List Message) :
    Role → StateM Random.Stream (List Message)
  | generator => do
    let (tracks, shots) ← Event.drawShots detectors pipeline
    return { payload := .tracks tracks } ::
      shots.flatMap fun shot => [shot.particlesMessage, shot.depositsMessage]
  | transfer detector =>
    let charges := Transfer.chargesOf detector (depositsOf (about .deposit detector done))
    return [{ payload := .pixelCharges charges.records, detector := some detector }]
  | digitizer detector =>
    match about .pixelCharge detector done with
    | [] => return []
    | message :: _ => do
      let charges := Digitizer.aboveThreshold pipeline message.payload.pixelCharges?
      let hits ← charges.mapM (Digitizer.hit pipeline)
      return [{ payload := .pixelHits hits, detector := some detector }]
  | reader | monitor => return []

/-- The charge that a module in a role finds outside the pixel matrix then. -/
def Role.loses (done : List Message) : Role → Nat
  | transfer detector => Transfer.lostOf detector (depositsOf (about .deposit detector done))
  | _ => 0

/-- What is dispatched after modules in roles acted one after the other. -/
def play (detectors : List Detector) (pipeline : Pipeline) :
    List Role → List Message → StateM Random.Stream (List Message)
  | [], done => return done
  | role :: rest, done => do
    let more ← role.act detectors pipeline done
    play detectors pipeline rest (done ++ more)

/-! ## Messages that are left out -/

/-- The messages that modules need, or that are a result. -/
def physics (messages : List Message) : List Message :=
  messages.filter fun message => message.type ∈ [PayloadType.deposit, .pixelCharge, .pixelHit]

theorem physics_append (messages more : List Message) :
    physics (messages ++ more) = physics messages ++ physics more :=
  List.filter_append ..

/-- Some messages in order, all but some tracks and particles. -/
structure Thinned (part full : List Message) : Prop where
  sublist : part.Sublist full
  physics : physics part = physics full

namespace Thinned

variable {part full more rest : List Message} {message : Message}

theorem refl (messages : List Message) : Thinned messages messages :=
  ⟨.refl messages, rfl⟩

theorem append (first : Thinned part full) (second : Thinned more rest) :
    Thinned (part ++ more) (full ++ rest) where
  sublist := first.sublist.append second.sublist
  physics := by rw [physics_append, physics_append, first.physics, second.physics]

theorem leave (spare : message.type = .track ∨ message.type = .particle) :
    Thinned [] [message] where
  sublist := List.nil_sublist _
  physics := by
    rcases spare with type | type <;> simp [Demo.physics, type]

end Thinned

/-! ## A lane in an event -/

/-- How far a lane is in an event, from a bench without messages on. -/
structure Reached (base : Bench) (lane : LaneId) (event : UInt64) (done : List Message)
    (bench : Bench) : Prop where
  core : bench.core = base.core
  others : bench.others = base.others
  held : ∀ handle ∈ base.core, bench.held handle = done.filter fun message =>
    handle.Takes lane message
  sent : ∃ part, Thinned part done ∧
    bench.sent = base.sent ++ part.map fun message => (event, message)

namespace Reached

variable {base bench : Bench} {lane : LaneId} {event : UInt64} {done : List Message}
  {message : Message}

theorem start (rested : ∀ handle ∈ base.core, base.held handle = []) :
    Reached base lane event [] base where
  core := rfl
  others := rfl
  held := rested
  sent := ⟨[], .refl [], by simp⟩

theorem send (reached : Reached base lane event done bench) :
    Reached base lane event (done ++ [message]) (bench.send lane event message) where
  core := reached.core
  others := reached.others
  held handle member := by
    have before := reached.held handle member
    change (bench.toView.send lane event message).held handle = _
    rw [List.filter_append, ← before]
    by_cases takes : handle.Takes lane message
    · rw [View.send_held takes]
      simp [takes]
    · rw [View.send_held_of_other takes]
      simp [takes]
  sent := by
    obtain ⟨part, thinned, sent⟩ := reached.sent
    refine ⟨part ++ [message], thinned.append (.refl _), ?_⟩
    change bench.sent ++ [(event, message)] = _
    simp [sent]

/-- A message that is not dispatched, since nobody would have got it. -/
theorem leave (reached : Reached base lane event done bench)
    (spare : message.type = .track ∨ message.type = .particle)
    (unwanted : ∀ handle ∈ base.core, ¬handle.Takes lane message) :
    Reached base lane event (done ++ [message]) bench where
  core := reached.core
  others := reached.others
  held handle member := by
    rw [reached.held handle member, List.filter_append]
    simp [unwanted handle member]
  sent := by
    obtain ⟨part, thinned, sent⟩ := reached.sent
    exact ⟨part, by simpa using thinned.append (.leave spare), sent⟩

/-- Observers may get more delegates. -/
theorem join (reached : Reached base lane event done bench) (more : List Handle) :
    Reached (base.join more) lane event done (bench.join more) where
  core := reached.core
  others := congrArg (· ++ more) reached.others
  held := reached.held
  sent := reached.sent

end Reached

/-- The delegates of the modules that act in a lane. -/
structure Equipment (lane : LaneId) (detectors : List Detector) (core : List Handle) : Prop where
  /-- A slot that is filled once is for the charges of a detector. -/
  single : ∀ handle ∈ core, ∀ slot, handle.place = .slot slot → slot.kind = .single →
    ∃ detector, ∀ message, handle.Takes lane message ↔
      message.type = .pixelCharge ∧ Suits detector message
  /-- Somebody takes the deposits of each detector. -/
  deposits : ∀ detector ∈ detectors, ∃ handle ∈ core, ∀ message,
    message.type = .deposit → Suits detector message → handle.Takes lane message

/-! ## The code of the modules -/

/-- Code that adds messages to an event that came so far, and loses no charge. -/
def Contributes {α : Type} (steady : Prop) (workplace : Workplace) (base : Bench)
    (done : List Message) (code : DemoCode α) (drawn : StateM Random.Stream (List Message)) : Prop :=
  ∀ counters stream bench, Reached base workplace.lane workplace.event done bench →
    workplace.Goes steady (fun _ later last after => later.lost = counters.lost ∧
      last = (drawn stream).2 ∧
        Reached base workplace.lane workplace.event (done ++ (drawn stream).1) after)
      code counters stream bench

section Code

variable {α β : Type} {steady : Prop} {workplace : Workplace} {base bench : Bench}
  {done : List Message} {detectors : List Detector} {drawn : StateM Random.Stream (List Message)}

theorem Contributes.of_eq {code : DemoCode α} {other : StateM Random.Stream (List Message)}
    (contributes : Contributes steady workplace base done code drawn) (same : drawn = other) :
    Contributes steady workplace base done code other :=
  same ▸ contributes

theorem contributes_pure (value : α) :
    Contributes steady workplace base done (pure value : DemoCode α) (pure []) :=
  fun _ _ _ reached => Workplace.goes_pure ⟨rfl, rfl, (List.append_nil done).symm ▸ reached⟩

/-- One part of the code and then another. -/
theorem Contributes.bind {code : DemoCode α} {next : α → DemoCode β}
    {later : StateM Random.Stream (List Message)}
    (first : Contributes steady workplace base done code drawn)
    (second : ∀ value more, Contributes steady workplace base (done ++ more) (next value) later) :
    Contributes steady workplace base done (code >>= next)
      (do return (← drawn) ++ (← later)) := by
  intro counters stream bench reached
  refine (first counters stream bench reached).bind ?_
  rintro value between _ middle ⟨kept, rfl, reached⟩
  have rest := second value _ between (drawn stream).2 middle reached
  rw [List.append_assoc, kept] at rest
  exact rest

theorem contributes_draws {code : DemoCode α} {next : α → DemoCode β}
    {value : StateM Random.Stream α} {later : α → StateM Random.Stream (List Message)}
    (draws : code.OnlyDraws value)
    (further : ∀ value, Contributes steady workplace base done (next value) (later value)) :
    Contributes steady workplace base done (code >>= next) (value >>= later) := by
  intro counters stream bench reached
  have drawing : workplace.Goes steady (fun result between last after =>
      result = (value stream).1 ∧ between = counters ∧ last = (value stream).2 ∧ after = bench)
      code counters stream bench := Workplace.goes_draws draws ⟨rfl, rfl, rfl, rfl⟩
  refine drawing.bind ?_
  rintro _ _ _ _ ⟨rfl, rfl, rfl, rfl⟩
  exact further _ _ _ _ reached

theorem contributes_modify {change : Counters → Counters} {next : Unit → DemoCode β}
    (kept : ∀ counters, (change counters).lost = counters.lost)
    (further : Contributes steady workplace base done (next ()) drawn) :
    Contributes steady workplace base done (modify change >>= next) drawn := by
  intro counters stream bench reached
  have changed : workplace.Goes steady (fun _ between last after =>
      between = change counters ∧ last = stream ∧ after = bench)
      (modify change : DemoCode Unit) counters stream bench :=
    Workplace.goes_modify ⟨rfl, rfl, rfl⟩
  refine changed.bind ?_
  rintro _ _ stream bench ⟨rfl, rfl, rfl⟩
  have rest := further (change counters) stream bench reached
  rw [kept] at rest
  exact rest

/-- The slot of an acting module holds what the module takes of the event so far. -/
theorem Reached.goes_read (reached : Reached base workplace.lane workplace.event done bench)
    {handle : Handle} {slot : Slot} {type : PayloadType} {detector : Detector}
    (member : handle ∈ base.core) (place : handle.place = .slot slot)
    (takes : ∀ message, handle.Takes workplace.lane message ↔
      message.type = type ∧ Suits detector message) (counters : Counters) (stream : Random.Stream) :
    workplace.Goes steady (fun messages later last after =>
      messages = about type detector done ∧ later = counters ∧ last = stream ∧ after = bench)
      (Code.ask (.read slot) : DemoCode (List Message)) counters stream bench := by
  have holds : bench.held handle = about type detector done := by
    rw [reached.held handle member]
    simp only [takes, about]
  exact Workplace.goes_read (reached.core ▸ member) place ⟨holds, rfl, rfl, rfl⟩

private theorem contributes_read {handle : Handle} {slot : Slot} {type : PayloadType}
    {detector : Detector}
    {next : List Message → DemoCode β} (member : handle ∈ base.core)
    (place : handle.place = .slot slot) (takes : ∀ message, handle.Takes workplace.lane message ↔
      message.type = type ∧ Suits detector message)
    (further : Contributes steady workplace base done (next (about type detector done)) drawn) :
    Contributes steady workplace base done (Code.ask (.read slot) >>= next) drawn := by
  intro counters stream bench reached
  refine (reached.goes_read member place takes counters stream).bind ?_
  rintro _ _ _ _ ⟨rfl, rfl, rfl, rfl⟩
  exact further _ _ _ reached

/-- A message that an acting module takes is wanted, whoever else looks on. -/
theorem contributes_hasReceiver {handle : Handle} {message : Message} {next : Bool → DemoCode β}
    (member : handle ∈ base.core) (takes : handle.Takes workplace.lane message)
    (further : Contributes steady workplace base done (next true) drawn) :
    Contributes steady workplace base done (Code.ask (.hasReceiver message) >>= next) drawn := by
  intro counters stream bench reached
  have asked : workplace.Goes steady (fun wanted between last after =>
      wanted = true ∧ between = counters ∧ last = stream ∧ after = bench)
      (Code.ask (.hasReceiver message) : DemoCode Bool) counters stream bench :=
    Workplace.goes_hasReceiver fun wanted received =>
      ⟨received handle (reached.core ▸ member) takes, rfl, rfl, rfl⟩
  refine asked.bind ?_
  rintro _ _ _ _ ⟨rfl, rfl, rfl, rfl⟩
  exact further _ _ _ reached

section Dispatch

variable {message : Message} (equipment : Equipment workplace.lane detectors base.core)

include equipment

/-- No filled slot of an acting module refuses a message, if it is the first one of charges for its
detector. -/
theorem contributes_dispatch (clear : message.type = .pixelCharge → ∀ detector,
      Suits detector message → about .pixelCharge detector done = []) :
    Contributes steady workplace base done (Code.dispatch message : DemoCode Report)
      (pure [message]) := by
  intro counters stream bench reached
  refine Workplace.goes_dispatch ?_ fun _ => ⟨rfl, rfl, reached.send⟩
  intro handle member takes slot place single
  rw [reached.core] at member
  obtain ⟨detector, only⟩ := equipment.single handle member slot place single
  obtain ⟨type, suits⟩ := (only message).mp takes
  rw [reached.held handle member]
  simp only [only]
  exact clear type detector suits

theorem contributes_dispatchWanted
    (spare : message.type = .track ∨ message.type = .particle) :
    Contributes steady workplace base done (Code.dispatchWanted message : DemoCode Unit)
      (pure [message]) := by
  intro counters stream bench reached
  have other : message.type ≠ .pixelCharge := by
    rcases spare with type | type <;> simp [type]
  have asked : workplace.Goes steady (fun wanted between last after =>
      between = counters ∧ last = stream ∧ after = bench ∧
      (wanted = false → ∀ handle ∈ base.core, ¬handle.Takes workplace.lane message))
      (Code.ask (.hasReceiver message) : DemoCode Bool) counters stream bench := by
    refine Workplace.goes_hasReceiver fun wanted received => ⟨rfl, rfl, rfl, ?_⟩
    rintro rfl handle member takes
    cases received handle (reached.core ▸ member) takes
  refine asked.bind ?_
  rintro (_ | _) _ _ _ ⟨rfl, rfl, rfl, unwanted⟩
  · exact Workplace.goes_pure ⟨rfl, rfl, reached.leave spare (unwanted rfl)⟩
  · refine (contributes_dispatch equipment (fun same => absurd same other) _ _ _ reached).bind ?_
    exact fun _ _ _ _ ends => Workplace.goes_pure ends

end Dispatch

end Code

/-! ## The modules -/

/-- A role that a module has, with the charge that the module lost so far. -/
structure Duty where
  role : Role
  lost : Nat := 0

namespace Duty

/-- There is room for the charge that a module loses after some messages of the event. -/
def Fits (duty : Duty) (done : List Message) : Prop :=
  duty.lost + duty.role.loses done < UInt64.size

instance (duty : Duty) (done : List Message) : Decidable (duty.Fits done) :=
  inferInstanceAs (Decidable (_ < _))

def after (duty : Duty) (done : List Message) : Duty :=
  { duty with lost := duty.lost + duty.role.loses done }

/-- What a module comes to in an event: it dispatches its messages if there is room for the charge
that it loses, and otherwise meets a fault. -/
structure Ends (detectors : List Detector) (pipeline : Pipeline) (base : Bench) (lane : LaneId)
    (event : UInt64) (done : List Message) (stream : Random.Stream) (duty : Duty)
    (result : Except Stop Unit) (later : Counters) (last : Random.Stream) (after : Bench) :
    Prop where
  completes : duty.Fits done → result = .ok () ∧ later.lostCharge = (duty.after done).lost ∧
    last = (duty.role.act detectors pipeline done stream).2 ∧
    Reached base lane event (done ++ (duty.role.act detectors pipeline done stream).1) after
  faults : ¬duty.Fits done → result = .error (.fault .addition) ∧ Reached base lane event done after

end Duty

/-- A module with room for its charge. -/
theorem Contributes.completes {steady : Prop} {workplace : Workplace} {base bench : Bench}
    {detectors : List Detector} {pipeline : Pipeline} {done : List Message} {duty : Duty}
    {code : DemoCode Unit} (contributes : Contributes steady workplace base done code
      (duty.role.act detectors pipeline done)) (fits : duty.Fits done)
    (reached : Reached base workplace.lane workplace.event done bench) {counters : Counters}
    (lost : counters.lostCharge = (duty.after done).lost) (stream : Random.Stream) :
    workplace.Does steady (duty.Ends detectors pipeline base workplace.lane workplace.event done
      stream) code counters stream bench := by
  refine Program.Ensures.mono ?_ (contributes counters stream bench reached)
  rintro _ after ⟨last, scope, _, ran, kept, drawn, sent⟩
  refine ⟨last, scope, fun _ => ⟨ran, ?_, drawn, sent⟩, fun crowded => absurd fits crowded⟩
  exact (congrArg UInt64.toNat kept).trans lost

section Roles

variable {steady : Prop} {workplace : Workplace} {base : Bench} {done : List Message}
  {detectors : List Detector} (pipeline : Pipeline)
  (equipment : Equipment workplace.lane detectors base.core)

include equipment

namespace Generator

/-- Somebody gets the deposits of every detector, so they are dispatched. -/
theorem contributes_sendPassages (trajectories : List Trajectory) {detector : Detector}
    (member : detector ∈ detectors) :
    Contributes steady workplace base done (sendPassages pipeline trajectories detector) do
      let shot ← shot pipeline trajectories detector
      return [shot.particlesMessage, shot.depositsMessage] := by
  have deposits : (drawAllDeposits detector pipeline (passages detector trajectories)).OnlyDraws _ :=
    (Code.draws_mapM (draws_depositsOf detector pipeline) _).bind fun _ => Code.draws_pure _
  obtain ⟨handle, among, takes⟩ := equipment.deposits detector member
  have suits (deposits : List Deposit) :
      Suits detector { payload := .deposits deposits, detector := some detector } := by
    rintro _ ⟨⟩
    rfl
  refine Contributes.of_eq (contributes_draws deposits fun deposits =>
    (contributes_dispatchWanted equipment (.inr rfl)).bind fun _ _ =>
      contributes_hasReceiver among (takes _ rfl (suits deposits)) (contributes_modify
        (fun _ => rfl) ((contributes_dispatch equipment (by rintro ⟨⟩)).bind fun _ _ =>
          contributes_pure ()))) rfl

private theorem contributes_forM (trajectories : List Trajectory) {some : List Detector}
    (among : ∀ one ∈ some, one ∈ detectors) :
    Contributes steady workplace base done (some.forM (sendPassages pipeline trajectories)) do
      let shots ← some.mapM (shot pipeline trajectories)
      return shots.flatMap fun shot => [shot.particlesMessage, shot.depositsMessage] := by
  induction some generalizing done with
  | nil => exact contributes_pure ()
  | cons detector rest ih =>
    rw [List.forall_mem_cons] at among
    rw [List.mapM_cons]
    exact .of_eq ((contributes_sendPassages pipeline equipment trajectories among.1).bind
      fun _ _ => ih among.2) rfl

theorem contributes_run :
    Contributes steady workplace base done (run detectors pipeline)
      (Role.generator.act detectors pipeline done) :=
  .of_eq (contributes_draws (draws_trajectories _ _) fun trajectories =>
    (contributes_dispatchWanted equipment (.inl rfl)).bind fun _ _ =>
      contributes_forM pipeline equipment trajectories fun _ member => member) rfl

end Generator

variable {detector : Detector} {handle : Handle} {slot : Slot} (member : handle ∈ base.core)
  (place : handle.place = .slot slot)

include member place

theorem Digitizer.contributes_run (takes : ∀ message, handle.Takes workplace.lane message ↔
      message.type = .pixelCharge ∧ Suits detector message) :
    Contributes steady workplace base done (run detector pipeline slot)
      ((Role.digitizer detector).act detectors pipeline done) := by
  refine contributes_read member place takes ?_
  simp only [Role.act]
  cases about .pixelCharge detector done with
  | nil => exact contributes_pure ()
  | cons message rest =>
    exact .of_eq (contributes_draws (Code.draws_mapM (draws_hit pipeline) _) fun hits =>
      contributes_modify (fun _ => rfl) ((contributes_dispatch equipment (by rintro ⟨⟩)).bind
        fun _ _ => contributes_pure ())) rfl

/-- A transfer sends the charge of its pixels if there is room for the rest. -/
theorem Transfer.does_run (filled : detector.Filled)
    (takes : ∀ message, handle.Takes workplace.lane message ↔
      message.type = .deposit ∧ Suits detector message)
    (clear : about .pixelCharge detector done = [])
    (reached : Reached base workplace.lane workplace.event done bench) (counters : Counters)
    (stream : Random.Stream) :
    let duty : Duty := { role := .transfer detector, lost := counters.lostCharge }
    workplace.Does steady (duty.Ends detectors pipeline base workplace.lane workplace.event done
      stream) (run detector slot) counters stream bench := by
  intro duty
  let deposits := depositsOf (about .deposit detector done)
  let gain : Totals := { lostCharge := lostOf detector deposits }
  have collects := adds_collectAll filled deposits counters
  have room : counters.Holds gain ↔ duty.Fits done :=
    ⟨Counters.Holds.lost, fun fits => ⟨fits, counters.received.toNat_lt⟩⟩
  have first (message : Message) (its : message.detector = some detector) (other : Detector)
      (suits : Suits other message) : about .pixelCharge other done = [] := by
    have same : other.name = detector.name := suits detector its
    have equal : about .pixelCharge other done = about .pixelCharge detector done := by
      refine List.filter_congr fun message _ => ?_
      simp [Suits, same]
    exact equal.trans clear
  refine (reached.goes_read member place takes counters stream).does ?_
  rintro _ counters stream bench ⟨rfl, rfl, rfl, rfl⟩
  by_cases holds : counters.Holds gain
  · have summed : workplace.Goes steady (fun charges later last after =>
        charges = chargesOf detector deposits ∧ later = counters.plus gain ∧ last = stream ∧
          after = bench) (deposits.foldlM (collect detector) ∅) counters stream bench :=
      Workplace.does_computes (collects.computes holds) ⟨_, rfl, rfl, rfl, rfl, rfl⟩
    refine summed.does ?_
    rintro _ _ stream bench ⟨rfl, rfl, rfl, rfl⟩
    have sends : Contributes steady workplace base done _ (duty.role.act detectors pipeline done) :=
      (contributes_dispatch equipment fun _ => first _ rfl).bind fun _ _ => contributes_pure ()
    exact sends.completes (room.mp holds) reached
      (congrArg Totals.lostCharge holds.totals_plus) stream
  · obtain ⟨after, stopped⟩ := collects.faults holds
    refine Workplace.does_computes stopped.bind_of_error ⟨fun fits => ?_, fun _ => ⟨rfl, reached⟩⟩
    exact absurd (room.mpr fits) holds

end Roles

/-! ## Modules in their roles -/

/-- No charges are dispatched yet for the detectors of the transfers among some roles. -/
def Uncharged (roles : List Role) (done : List Message) : Prop :=
  ∀ detector, .transfer detector ∈ roles → about .pixelCharge detector done = []

/-- A part of a state in which counters are kept. -/
structure CounterLens (σ : Type) where
  part : σ → Counters
  put : Counters → σ → σ
  part_put : ∀ counters state, part (put counters state) = counters

/-- A module with a duty in the chain. What it counts is kept in a part of its state. -/
structure Acts {σ : Type} (lens : CounterLens σ) (lane : LaneId) (detectors : List Detector)
    (pipeline : Pipeline) (duty : Duty) (module : Module σ) : Prop where
  among : duty.role ∈ acting detectors
  matrices : ∀ detector ∈ detectors, detector.Filled
  lost : (lens.part module.state).lostCharge = duty.lost
  plays : ∃ inner, Plays 0 lane detectors pipeline duty.role inner ∧
    module.bindings = inner.bindings ∧
      module.behaviour = inner.behaviour.zoom lens.part lens.put

section Acts

variable {σ : Type} {steady : Prop} {own : Nat} {base bench : Bench} {done : List Message}
  {detectors : List Detector} {pipeline : Pipeline} {role : Role} {duty : Duty}
  {lens : CounterLens σ} {module : Module σ}

theorem Plays.does_run {tally : Nat} {workplace : Workplace} {module : Module Counters}
    (plays : Plays tally workplace.lane detectors pipeline role module)
    (among : role ∈ acting detectors) (matrices : ∀ detector ∈ detectors, detector.Filled)
    (equipment : Equipment workplace.lane detectors base.core)
    (held : ∀ handle ∈ module.bindings.handles, handle ∈ base.core)
    (uncharged : Uncharged [role] done)
    (reached : Reached base workplace.lane workplace.event done bench) (event : UInt64)
    (counters : Counters) (stream : Random.Stream) :
    let duty : Duty := { role, lost := counters.lostCharge }
    workplace.Does steady (duty.Ends detectors pipeline base workplace.lane workplace.event done
      stream) (module.behaviour.run event) counters stream bench := by
  intro duty
  have fits (lossless : role.loses done = 0) : duty.Fits done :=
    (congrArg (counters.lostCharge + ·) lossless).trans_lt counters.lost.toNat_lt
  cases plays with
  | generator state identity unnamed =>
    exact (Generator.contributes_run pipeline equipment).completes (fits rfl) reached rfl
      stream
  | transfer state detector identity unnamed id slot kind payload =>
    have filled := matrices detector (by simpa [acting] using among)
    refine Transfer.does_run pipeline equipment (held _ List.mem_cons_self) rfl filled ?_
      (uncharged detector List.mem_cons_self) reached counters stream
    exact fun message => payload ▸ unnamed.takes_iff_suits
  | digitizer state detector identity unnamed id slot kind payload =>
    refine (Digitizer.contributes_run pipeline equipment (held _ List.mem_cons_self) rfl
      ?_).completes (fits rfl) reached rfl stream
    exact fun message => payload ▸ unnamed.takes_iff_suits
  | reader state identity unnamed => simp [acting] at among
  | monitor state identity unnamed => simp [acting] at among

/-- What the call of a module with a duty comes to in an event. -/
structure Acts.Ends (lens : CounterLens σ) (own : Nat) (detectors : List Detector)
    (pipeline : Pipeline) (base : Bench) (event : UInt64) (done : List Message)
    (stream : Random.Stream) (duty : Duty) (module : Module σ)
    (ended : Except Stop Unit × Module σ × Option EventContext) (after : Bench) : Prop where
  completes : duty.Fits done → let drawn := duty.role.act detectors pipeline done stream
    ∃ state, ended = (.ok (), { module with state }, some { event, stream := drawn.2 }) ∧
      Acts lens (laneOf own) detectors pipeline (duty.after done) { module with state } ∧
      Reached base (laneOf own) event (done ++ drawn.1) after
  faults : ¬duty.Fits done →
    ended.1 = .error (.fault .addition) ∧ Reached base (laneOf own) event done after

/-- A module adds its messages to an event, and keeps its duty, if there is room. -/
theorem Acts.keepsBenches_run (acts : Acts lens (laneOf own) detectors pipeline duty module)
    (small : own ≤ ConfigError.maxWorkers) (equipment : Equipment (laneOf own) detectors base.core)
    (held : ∀ handle ∈ module.bindings.handles, handle ∈ base.core)
    (uncharged : Uncharged [duty.role] done) {event : UInt64} (stream : Random.Stream)
    (reached : Reached base (laneOf own) event done bench) :
    (module.call (module.behaviour.run event) (some { event, stream })).KeepsBenches steady own
      (Acts.Ends lens own detectors pipeline base event done stream duty module) bench := by
  obtain ⟨among, matrices, lost, inner, plays, bindings, behaviour⟩ := acts
  obtain ⟨located, unnamed⟩ := plays.located
  rw [← bindings] at located unnamed
  let workplace : Workplace :=
    { own, bindings := module.bindings, event, small, located, unnamed }
  have does := @Plays.does_run steady base bench done detectors pipeline duty.role 0 workplace inner
    plays among matrices equipment (bindings ▸ held) uncharged reached event
    (lens.part module.state) stream
  rw [lost] at does
  have ran : (module.behaviour.run event) =
      (inner.behaviour.run event).zoom lens.part lens.put := by
    rw [behaviour]
    rfl
  rw [ran]
  apply Program.Ensures.bind does.zoom
  rintro ⟨⟨result, _⟩, _⟩ after ⟨last, rfl, later, rfl, completes, faults⟩
  refine ⟨fun fits => ?_, faults⟩
  obtain ⟨rfl, kept, rfl, sent⟩ := completes fits
  refine ⟨_, rfl, ⟨among, matrices, ?_, inner, plays, bindings, behaviour⟩, sent⟩
  exact (congrArg Counters.lostCharge (lens.part_put later module.state)).trans kept

end Acts

end Beamline.Demo
