import Beamline.Demo.Chain
import Beamline.Proofs.ChargeSums
import Beamline.Proofs.ModuleCode

namespace Beamline.Demo

open Bus Run

/-! ## What is drawn in an event -/

/-- What the tracks of an event leave in one detector: the particles that cross it and the charge
that they deposit. -/
structure Shot where
  detector : Detector
  particles : List Particle
  deposits : List Deposit

namespace Generator

/-- A track that starts at a place along the beam. -/
def trajectory (z : Float) : StateM Random.Stream Trajectory := do
  let x ← drawNumber (-beamSpot) beamSpot true
  let y ← drawNumber (-beamSpot) beamSpot true
  let slopeX ← drawNumber (-maxSlope) maxSlope true
  let slopeY ← drawNumber (-maxSlope) maxSlope true
  return { origin := { x, y, z }, slopeX, slopeY }

def trajectories (z : Float) (count : Nat) : StateM Random.Stream (List Trajectory) :=
  (List.replicate count z).mapM trajectory

def depositsOf (detector : Detector) (pipeline : Pipeline) :
    (Trajectory × Particle) × Nat → StateM Random.Stream (List Deposit)
  | ((trajectory, particle), index) =>
    (List.range pipeline.depositsPerParticle.toNat).mapM fun step => do
      let fluctuation ← drawNumber 0.7 1.6 false
      return depositAt detector pipeline trajectory particle index step fluctuation

def shot (pipeline : Pipeline) (trajectories : List Trajectory) (detector : Detector) :
    StateM Random.Stream Shot := do
  let passages := passages detector trajectories
  let deposits ← passages.zipIdx.mapM (depositsOf detector pipeline)
  return { detector, particles := passages.map Prod.snd, deposits := deposits.flatten }

private theorem draws_trajectory (z : Float) : (drawTrajectory z).OnlyDraws (trajectory z) := by
  have spot : Code.Ranges (-beamSpot) beamSpot true := by
    change -beamSpot ≤ beamSpot
    decide
  have slope : Code.Ranges (-maxSlope) maxSlope true := by
    change -maxSlope ≤ maxSlope
    decide
  exact (Code.draws_number spot).bind fun _ => (Code.draws_number spot).bind fun _ =>
    (Code.draws_number slope).bind fun _ => (Code.draws_number slope).bind fun _ =>
      Code.draws_pure _

theorem draws_trajectories (z : Float) (count : Nat) :
    (drawTrajectories z count).OnlyDraws (trajectories z count) :=
  Code.draws_mapM draws_trajectory _

theorem draws_depositsOf (detector : Detector) (pipeline : Pipeline)
    (passage : (Trajectory × Particle) × Nat) :
    (drawDeposits detector pipeline passage).OnlyDraws
      (depositsOf detector pipeline passage) := by
  have fluctuation : Code.Ranges 0.7 1.6 false := by
    change (0.7 : Float) < 1.6
    decide
  exact Code.draws_mapM (fun _ => (Code.draws_number fluctuation).bind fun _ =>
    Code.draws_pure _) _

end Generator

namespace Digitizer

def hit (pipeline : Pipeline) (record : PixelCharge) : StateM Random.Stream PixelHit := do
  let time ← drawNumber 0 clockPeriod false
  return { pixel := record.pixel, time
           signal := Number.roundWord (record.charge / pipeline.gain) }

theorem draws_hit (pipeline : Pipeline) (record : PixelCharge) :
    (digitize pipeline record).OnlyDraws (hit pipeline record) := by
  have clock : Code.Ranges 0 clockPeriod false := by
    change (0 : Float) < clockPeriod
    decide
  exact (Code.draws_number clock).bind fun _ => Code.draws_pure _

end Digitizer

namespace Shot

variable (shot : Shot)

def particlesMessage : Message where
  payload := .particles shot.particles
  detector := some shot.detector

def depositsMessage : Message where
  payload := .deposits shot.deposits
  detector := some shot.detector

def charges : Transfer.Charges :=
  Transfer.chargesOf shot.detector shot.deposits

def chargesMessage : Message where
  payload := .pixelCharges shot.charges.records
  detector := some shot.detector

@[simp]
theorem depositsOf_depositsMessage : depositsOf [shot.depositsMessage] = shot.deposits :=
  List.append_nil _

@[simp]
theorem particlesMessage_type : shot.particlesMessage.type = .particle := rfl

@[simp]
theorem depositsMessage_type : shot.depositsMessage.type = .deposit := rfl

@[simp]
theorem chargesMessage_type : shot.chargesMessage.type = .pixelCharge := rfl

/-- The hits of the pixels above the threshold. -/
def hits (pipeline : Pipeline) : StateM Random.Stream (List PixelHit) :=
  (Digitizer.aboveThreshold pipeline shot.charges.records).mapM (Digitizer.hit pipeline)

end Shot

/-- The readout of one detector in an event. -/
structure Readout where
  shot : Shot
  hits : List PixelHit

def Shot.readout (pipeline : Pipeline) (shot : Shot) : StateM Random.Stream Readout := do
  return { shot, hits := ← shot.hits pipeline }

def Readout.message (readout : Readout) : Message where
  payload := .pixelHits readout.hits
  detector := some readout.shot.detector

@[simp]
theorem Readout.message_type (readout : Readout) : readout.message.type = .pixelHit := rfl

structure Event where
  tracks : List Track
  shots : List Shot
  readouts : List Readout

namespace Event

/-- Draws the tracks of an event and what they leave in the detectors. -/
def drawShots (detectors : List Detector) (pipeline : Pipeline) :
    StateM Random.Stream (List Track × List Shot) := do
  let trajectories ← Generator.trajectories (Generator.firstZ detectors - Generator.runUp)
    pipeline.particlesPerEvent.toNat
  let shots ← detectors.mapM (Generator.shot pipeline trajectories)
  return (trajectories.map Generator.track, shots)

def draw (detectors : List Detector) (pipeline : Pipeline) : StateM Random.Stream Event := do
  let (tracks, shots) ← drawShots detectors pipeline
  let readouts ← shots.mapM (Shot.readout pipeline)
  return { tracks, shots, readouts }

/-- The event of a number in a run with a seed. -/
def ofNumber (detectors : List Detector) (pipeline : Pipeline) (seed number : UInt64) : Event :=
  (draw detectors pipeline (.ofEvent seed number)).1

theorem ofNumber_drawn (detectors : List Detector) (pipeline : Pipeline) (seed number : UInt64) :
    let event := ofNumber detectors pipeline seed number
    ∃ middle last,
      drawShots detectors pipeline (.ofEvent seed number) = ((event.tracks, event.shots), middle) ∧
        event.shots.mapM (Shot.readout pipeline) middle = (event.readouts, last) :=
  ⟨_, _, rfl, rfl⟩

def generated (event : Event) : List Message :=
  { payload := .tracks event.tracks } ::
    event.shots.flatMap fun shot => [shot.particlesMessage, shot.depositsMessage]

/-- All messages, in the order in which they are dispatched. -/
def messages (event : Event) : List Message :=
  event.generated ++ event.shots.map Shot.chargesMessage ++ event.readouts.map Readout.message

end Event

/-! ## The messages of an event by type -/

theorem map_mapM {α β : Type} {part : β → α} {drawn : α → StateM Random.Stream β}
    (kept : ∀ value stream, part (drawn value stream).1 = value) (values : List α)
    (stream : Random.Stream) : (values.mapM drawn stream).1.map part = values := by
  induction values generalizing stream with
  | nil => rfl
  | cons value rest ih =>
    rw [List.mapM_cons]
    exact congrArg₂ List.cons (kept value stream) (ih (drawn value stream).2)

theorem length_mapM {α β : Type} (drawn : α → StateM Random.Stream β) (values : List α)
    (stream : Random.Stream) : (values.mapM drawn stream).1.length = values.length := by
  induction values generalizing stream with
  | nil => rfl
  | cons value rest ih =>
    rw [List.mapM_cons]
    exact congrArg (· + 1) (ih (drawn value stream).2)

theorem forall_mem_mapM {α β : Type} {holds : β → Prop} {drawn : α → StateM Random.Stream β}
    (each : ∀ value stream, holds (drawn value stream).1) (values : List α)
    (stream : Random.Stream) : ∀ result ∈ (values.mapM drawn stream).1, holds result := by
  induction values generalizing stream with
  | nil => exact nofun
  | cons value rest ih =>
    rw [List.mapM_cons]
    exact List.forall_mem_cons.mpr ⟨each value stream, ih (drawn value stream).2⟩

namespace Event

/-- An event of detectors: one shot and one readout for each of them, in their order. -/
structure Covers (event : Event) (detectors : List Detector) : Prop where
  shots : event.shots.map Shot.detector = detectors
  readouts : event.readouts.map Readout.shot = event.shots

theorem covers_draw (detectors : List Detector) (pipeline : Pipeline) (stream : Random.Stream) :
    (draw detectors pipeline stream).1.Covers detectors where
  shots := map_mapM (fun _ _ => rfl) _ _
  readouts := map_mapM (fun _ _ => rfl) _ _

theorem Covers.lengths {event : Event} {detectors : List Detector}
    (covers : event.Covers detectors) :
    event.shots.length = detectors.length ∧ event.readouts.length = detectors.length := by
  have shots := congrArg List.length covers.shots
  have readouts := congrArg List.length covers.readouts
  simp only [List.length_map] at shots readouts
  exact ⟨shots, readouts.trans shots⟩

theorem Covers.length_messages {event : Event} {detectors : List Detector}
    (covers : event.Covers detectors) : event.messages.length = 1 + 4 * detectors.length := by
  obtain ⟨shots, readouts⟩ := covers.lengths
  have first : event.generated.length = event.shots.length * 2 + 1 := by
    rw [generated, List.length_cons, List.length_flatMap]
    exact congrArg (· + 1) (sum_map_const fun _ _ => rfl)
  simp only [messages, List.length_append, List.length_map, first]
  omega

/-- The messages until the charges of some detectors and the hits of some are dispatched. -/
def messagesUntil (event : Event) (charged : List Shot) (read : List Readout) : List Message :=
  event.generated ++ charged.map Shot.chargesMessage ++ read.map Readout.message

def messagesOf (event : Event) (charged : List Shot) (read : List Readout) :
    PayloadType → List Message
  | .track => [{ payload := .tracks event.tracks }]
  | .particle => event.shots.map Shot.particlesMessage
  | .deposit => event.shots.map Shot.depositsMessage
  | .pixelCharge => charged.map Shot.chargesMessage
  | .pixelHit => read.map Readout.message
  | .declared .. => []

variable (event : Event) (charged : List Shot) (read : List Readout)

theorem messagesUntil_charge (shot : Shot) :
    event.messagesUntil charged [] ++ [shot.chargesMessage] =
      event.messagesUntil (charged ++ [shot]) [] := by
  simp [messagesUntil]

theorem messagesUntil_hit (readout : Readout) :
    event.messagesUntil charged read ++ [readout.message] =
      event.messagesUntil charged (read ++ [readout]) := by
  simp [messagesUntil]

theorem filter_type {α : Type} {message : α → Message} {type : PayloadType}
    (uniform : ∀ value, (message value).type = type) (values : List α) (wanted : PayloadType) :
    ((values.map message).filter fun message => message.type = wanted) =
      if type = wanted then values.map message else [] := by
  split
  · exact List.filter_eq_self.mpr (by simp [*])
  · exact List.filter_eq_nil_iff.mpr (by simp [*])

theorem filter_messagesUntil (wanted : PayloadType) :
    ((event.messagesUntil charged read).filter fun message => message.type = wanted) =
      event.messagesOf charged read wanted := by
  have sent : ((event.shots.flatMap fun shot =>
      [shot.particlesMessage, shot.depositsMessage]).filter fun message =>
        message.type = wanted) =
      if wanted = .particle then event.shots.map Shot.particlesMessage
      else if wanted = .deposit then event.shots.map Shot.depositsMessage else [] := by
    cases wanted <;> simp [List.filter_flatMap, List.map_eq_flatMap]
  have tracks : ({ payload := .tracks event.tracks } : Message).type = .track := rfl
  rw [messagesUntil, List.filter_append, List.filter_append, generated, List.filter_cons, tracks,
    sent, filter_type Shot.chargesMessage_type, filter_type Readout.message_type]
  cases wanted <;> simp [messagesOf]

variable {event}

theorem Covers.detector_of_mem {detectors : List Detector} (covers : event.Covers detectors)
    {message : Message} (listed : message ∈ event.messages)
    (type : message.type = .deposit ∨ message.type = .pixelCharge) :
    ∃ detector ∈ detectors, message.detector = some detector := by
  have among : message ∈ event.messagesOf event.shots event.readouts message.type := by
    rw [← filter_messagesUntil, List.mem_filter]
    exact ⟨listed, by simp⟩
  rcases type with type | type <;> rw [type] at among
  · obtain ⟨shot, member, rfl⟩ := List.mem_map.mp among
    exact ⟨shot.detector, covers.shots ▸ List.mem_map_of_mem member, rfl⟩
  · obtain ⟨shot, member, rfl⟩ := List.mem_map.mp among
    exact ⟨shot.detector, covers.shots ▸ List.mem_map_of_mem member, rfl⟩

end Event

/-! ## What modules count in an event -/

def Shot.transferGain (shot : Shot) : Totals where
  lostCharge := Transfer.lostOf shot.detector shot.deposits

def Readout.gain (readout : Readout) : Totals where
  hits := readout.hits.length
  belowThreshold := readout.shot.charges.records.length - readout.hits.length

namespace Event

def generatorGain (event : Event) : Totals where
  depositsSent := (event.shots.map fun shot => shot.deposits.length).sum

def deposits (event : Event) : List Deposit :=
  event.shots.flatMap Shot.deposits

def readerGain (event : Event) : Totals :=
  Reader.gainOf event.deposits

/-- What the modules of the chain count, in the order of the modules. -/
def gains (event : Event) : List Totals :=
  event.generatorGain ::
    (event.shots.map Shot.transferGain ++ event.readouts.map Readout.gain ++ [event.readerGain, 0])

theorem depositsOf_shots (event : Event) :
    depositsOf (event.shots.map Shot.depositsMessage) = event.deposits := by
  rw [depositsOf, List.flatMap_map]
  rfl

theorem Covers.length_gains {event : Event} {detectors : List Detector}
    (covers : event.Covers detectors) : event.gains.length = 3 + 2 * detectors.length := by
  obtain ⟨shots, readouts⟩ := covers.lengths
  simp [gains]
  omega

end Event

/-! ## The code of the modules -/

section Code

variable {situation : Situation}

private theorem leads_count {change : Counters → Counters} {moment : Moment Counters}
    {gain : Totals} (same : change moment.state = moment.state.plus gain) :
    situation.Leads (modify change : DemoCode Unit) moment ()
      { moment with state := moment.state.plus gain } := by
  rw [← same]
  exact Situation.leads_modify moment change

namespace Generator

variable (plain : ∀ view message, message.type ≠ .pixelCharge → situation.Free view message)
  (pipeline : Pipeline)

include plain

private theorem leads_sendPassages (trajectories : List Trajectory) (detector : Detector)
    (moment : Moment Counters) :
    let drawn := shot pipeline trajectories detector moment.stream
    situation.Leads (sendPassages pipeline trajectories detector) moment () {
      state := moment.state.plus { depositsSent := drawn.1.deposits.length }
      stream := drawn.2
      view := situation.sendAll moment.view
        [drawn.1.particlesMessage, drawn.1.depositsMessage] } := by
  intro drawn
  have deposits : (drawAllDeposits detector pipeline (passages detector trajectories)).OnlyDraws _ :=
    (Code.draws_mapM (draws_depositsOf detector pipeline) _).bind fun _ => Code.draws_pure _
  have particles (moment : Moment Counters) : situation.Leads
      (Code.dispatchWanted drawn.1.particlesMessage) moment ()
      { moment with view := situation.sendAll moment.view [drawn.1.particlesMessage] } :=
    Situation.leads_dispatchWanted moment (plain _ _ (by simp))
  have sent (moment : Moment Counters) : ∃ report, situation.Leads
      (Code.dispatch drawn.1.depositsMessage) moment report
      { moment with view := situation.sendAll moment.view [drawn.1.depositsMessage] } :=
    Situation.leads_dispatch moment (plain _ _ (by simp))
  obtain ⟨report, sent⟩ := sent _
  have sum (counters : Counters) : { counters with
      depositsSent := counters.depositsSent + drawn.1.deposits.length } =
      counters.plus { depositsSent := drawn.1.deposits.length } := by
    simp [Counters.plus]
  exact (deposits.leads situation moment).bind ((particles _).bind
    ((Situation.leads_hasReceiver _ _).bind ((leads_count (sum _)).bind
      (sent.bind (Situation.leads_pure _ ())))))

private theorem leads_forM (trajectories : List Trajectory) (detectors : List Detector)
    (moment : Moment Counters) :
    let drawn := detectors.mapM (shot pipeline trajectories) moment.stream
    situation.Leads (detectors.forM (sendPassages pipeline trajectories)) moment () {
      state := moment.state.plus
        { depositsSent := (drawn.1.map fun shot => shot.deposits.length).sum }
      stream := drawn.2
      view := situation.sendAll moment.view
        (drawn.1.flatMap fun shot => [shot.particlesMessage, shot.depositsMessage]) } := by
  induction detectors generalizing moment with
  | nil =>
    change situation.Leads (pure ()) moment ()
      { moment with state := moment.state.plus 0, view := situation.sendAll moment.view [] }
    rw [Counters.plus_zero]
    exact Situation.leads_pure moment ()
  | cons detector rest ih =>
    have sent := leads_sendPassages plain pipeline trajectories detector moment
    have both : situation.Leads ((detector :: rest).forM (sendPassages pipeline trajectories))
      moment () _ := sent.bind (ih { state := _, stream := _, view := _ })
    rw [List.mapM_cons]
    simp only [Situation.sendAll, ← View.sendAll_append, ← Counters.plus_add] at both
    exact both

theorem leads_run (detectors : List Detector) (moment : Moment Counters) :
    let drawn := Event.drawShots detectors pipeline moment.stream
    situation.Leads (run detectors pipeline) moment () {
      state := moment.state.plus
        { depositsSent := (drawn.1.2.map fun shot => shot.deposits.length).sum }
      stream := drawn.2
      view := situation.sendAll moment.view ({ payload := .tracks drawn.1.1 } ::
        drawn.1.2.flatMap fun shot => [shot.particlesMessage, shot.depositsMessage]) } := by
  intro drawn
  have sent (tracks : List Track) (moment : Moment Counters) : situation.Leads
      (Code.dispatchWanted { payload := .tracks tracks }) moment ()
      { moment with view := situation.sendAll moment.view [{ payload := .tracks tracks }] } :=
    Situation.leads_dispatchWanted moment (plain _ _ (by simp [Message.type, Payload.type]))
  exact ((draws_trajectories _ _).leads situation moment).bind ((sent _ _).bind
    (leads_forM plain pipeline _ detectors _))

end Generator

/-- Code that counts what there is room for. -/
theorem Adds.leads {α : Type} {code : DemoCode α} {value : α} {gain : Totals}
    {moment : Moment Counters} (adds : Adds code moment.state value gain)
    (holds : moment.state.Holds gain) :
    situation.Leads code moment value { moment with state := moment.state.plus gain } :=
  Situation.finishes_of_computes (adds.computes holds)

theorem Adds.stops {α : Type} {code : DemoCode α} {value : α} {gain : Totals}
    {moment : Moment Counters} (adds : Adds code moment.state value gain)
    (overflows : ¬moment.state.Holds gain) : ∃ after,
      situation.Finishes code moment (.error (.fault .addition)) after := by
  obtain ⟨state, stopped⟩ := adds.faults overflows
  exact ⟨_, Situation.finishes_of_computes stopped⟩

section Transfer

variable {handle : Handle} {slot : Slot} {shot : Shot} {moment : Moment Counters}
  (filled : shot.detector.Filled) (member : handle ∈ situation.live)
  (own : handle.lane = situation.lane) (place : handle.place = .slot slot)
  (held : moment.view.held handle = [shot.depositsMessage])

include filled member own place held

theorem Transfer.leads_run (holds : moment.state.Holds shot.transferGain)
    (free : situation.Free moment.view shot.chargesMessage) :
    situation.Leads (Transfer.run shot.detector slot) moment () { moment with
      state := moment.state.plus shot.transferGain
      view := situation.sendAll moment.view [shot.chargesMessage] } := by
  have read := Situation.leads_read member own place moment
  rw [held] at read
  have adds := adds_collectAll filled (depositsOf [shot.depositsMessage]) moment.state
  rw [Shot.depositsOf_depositsMessage] at adds
  obtain ⟨report, sent⟩ := Situation.leads_dispatch
    { moment with state := moment.state.plus shot.transferGain } free
  refine read.bind ?_
  rw [Shot.depositsOf_depositsMessage]
  exact (adds.leads holds).bind (sent.bind (Situation.leads_pure _ ()))

theorem Transfer.stops_run (overflows : ¬moment.state.Holds shot.transferGain) : ∃ after,
    situation.Finishes (Transfer.run shot.detector slot) moment (.error (.fault .addition))
      after := by
  have read := Situation.leads_read member own place moment
  rw [held] at read
  have adds := adds_collectAll filled shot.deposits moment.state
  obtain ⟨after, stopped⟩ := @Adds.stops situation _ _ _ _ moment adds overflows
  refine ⟨after, read.then ?_⟩
  rw [Shot.depositsOf_depositsMessage]
  exact stopped.bind_of_error

end Transfer

theorem Digitizer.leads_run
    (plain : ∀ view message, message.type ≠ .pixelCharge → situation.Free view message)
    (pipeline : Pipeline) {handle : Handle} {slot : Slot} {shot : Shot}
    {moment : Moment Counters} (member : handle ∈ situation.live)
    (own : handle.lane = situation.lane) (place : handle.place = .slot slot)
    (held : moment.view.held handle = [shot.chargesMessage]) :
    let drawn := shot.hits pipeline moment.stream
    let readout : Readout := { shot, hits := drawn.1 }
    situation.Leads (Digitizer.run shot.detector pipeline slot) moment () {
      state := moment.state.plus readout.gain
      stream := drawn.2
      view := situation.sendAll moment.view [readout.message] } := by
  intro drawn readout
  have read := Situation.leads_read member own place moment
  rw [held] at read
  refine read.bind ?_
  have hits := (Code.draws_mapM (draws_hit pipeline)
    (aboveThreshold pipeline shot.charges.records)).leads situation moment
  have sum (counters : Counters) : { counters with
      hits := counters.hits + drawn.1.length
      belowThreshold := counters.belowThreshold +
        (shot.charges.records.length - drawn.1.length) } = counters.plus readout.gain := by
    simp [Counters.plus, Readout.gain, readout]
  obtain ⟨report, sent⟩ := Situation.leads_dispatch
    { moment with state := moment.state.plus readout.gain, stream := drawn.2 }
    (plain moment.view readout.message (by simp))
  exact hits.bind ((leads_count (sum _)).bind (sent.bind (Situation.leads_pure _ ())))

section Reader

variable {event : Event} {handle : Handle} {slot : Slot} {moment : Moment Counters}
  (member : handle ∈ situation.live) (own : handle.lane = situation.lane)
  (place : handle.place = .slot slot)
  (held : moment.view.held handle = event.shots.map Shot.depositsMessage)

include member own place held

theorem Reader.leads_run (holds : moment.state.Holds event.readerGain) :
    situation.Leads (Reader.run slot) moment ()
      { moment with state := moment.state.plus event.readerGain } := by
  have read := Situation.leads_read member own place moment
  rw [held] at read
  have adds := adds_countAll (event.shots.map Shot.depositsMessage) moment.state
  rw [Event.depositsOf_shots] at adds
  exact read.bind (adds.leads holds)

theorem Reader.stops_run (overflows : ¬moment.state.Holds event.readerGain) : ∃ after,
    situation.Finishes (Reader.run slot) moment (.error (.fault .addition)) after := by
  have read := Situation.leads_read member own place moment
  rw [held] at read
  have adds := adds_countAll (event.shots.map Shot.depositsMessage) moment.state
  rw [Event.depositsOf_shots] at adds
  obtain ⟨after, stopped⟩ := @Adds.stops situation _ _ _ _ moment adds overflows
  exact ⟨after, read.then stopped⟩

end Reader

end Code

end Beamline.Demo
