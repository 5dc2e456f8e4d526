import Beamline.Proofs.DemoIndependence
import Beamline.Proofs.EventNumbers
import Mathlib.Algebra.BigOperators.Ring.List
import Mathlib.Algebra.Ring.Nat

/-!
The accounts of a run of the demonstration chain. Generator, reader and digitizers count for
themselves what they send and receive; by every schedule their counts agree with the records of the
messages that were dispatched, and so with each other.
-/

namespace Beamline.Demo

open Bus Run

/-! ## Records of messages -/

def records (messages : List Message) : Nat :=
  (messages.map Message.size).sum

/-- The charge of the deposits in messages. -/
def charge (messages : List Message) : Nat :=
  (messages.map fun message =>
    (message.payload.deposits?.map fun deposit => deposit.charge.toNat).sum).sum

def ofType (type : PayloadType) (messages : List Message) : List Message :=
  messages.filter fun message => message.type = type

/-- The messages that come from a detector. -/
def fromDetector (detector : Detector) (messages : List Message) : List Message :=
  messages.filter fun message => message.detector.map Detector.name = some detector.name

theorem sum_map_flatMap {α β : Type} (weight : β → Nat) (values : α → List β) (owners : List α) :
    ((owners.flatMap values).map weight).sum =
      (owners.map fun owner => ((values owner).map weight).sum).sum := by
  rw [List.map_flatMap, List.flatMap_def, List.sum_flatten, List.map_map]
  rfl

private theorem Shot.length_hits (shot : Shot) (pipeline : Pipeline) (stream : Random.Stream) :
    (shot.hits pipeline stream).1.length ≤ shot.charges.records.length := by
  rw [Shot.hits, length_mapM]
  exact List.length_filter_le _ _

/-! ## The accounts of an event -/

/-- What can be counted on in an event: deposits by the particle, and no more hits than pixels with
charge. -/
structure Event.Regular (event : Event) (pipeline : Pipeline) : Prop where
  deposits : ∀ shot ∈ event.shots,
    shot.deposits.length = pipeline.depositsPerParticle.toNat * shot.particles.length
  hits : ∀ readout ∈ event.readouts,
    readout.hits.length ≤ readout.shot.charges.records.length

theorem Event.regular_draw (detectors : List Detector) (pipeline : Pipeline)
    (stream : Random.Stream) : (Event.draw detectors pipeline stream).1.Regular pipeline where
  deposits := forall_mem_mapM (Generator.length_deposits pipeline _) _ _
  hits := forall_mem_mapM (fun shot stream => shot.length_hits pipeline stream) _ _

namespace Event

variable {event : Event} {detectors : List Detector} {pipeline : Pipeline}

theorem ofType_messages (event : Event) (type : PayloadType) :
    ofType type event.messages = event.messagesOf event.shots event.readouts type :=
  event.filter_messagesUntil event.shots event.readouts type

theorem records_deposits (event : Event) :
    records (ofType .deposit event.messages) =
      (event.shots.map fun shot => shot.deposits.length).sum := by
  rw [ofType_messages, messagesOf, records, List.map_map]
  rfl

private theorem records_particles (event : Event) :
    records (ofType .particle event.messages) =
      (event.shots.map fun shot => shot.particles.length).sum := by
  rw [ofType_messages, messagesOf, records, List.map_map]
  rfl

theorem Regular.proportional (regular : event.Regular pipeline) :
    records (ofType .deposit event.messages) =
      pipeline.depositsPerParticle.toNat * records (ofType .particle event.messages) := by
  rw [records_deposits, records_particles, List.map_congr_left regular.deposits]
  exact List.sum_map_mul_left _ _ _

theorem readerGain_eq (event : Event) :
    event.readerGain.depositsRead = records (ofType .deposit event.messages) ∧
      event.readerGain.chargeRead = charge (ofType .deposit event.messages) := by
  constructor
  · rw [records_deposits]
    exact List.length_flatMap
  · refine (sum_map_flatMap _ _ _).trans ?_
    rw [ofType_messages, messagesOf, charge, List.map_map]
    rfl

theorem fromDetector_map {α : Type} {message : α → Message} {detector : α → Detector}
    (about : ∀ value, (message value).detector = some (detector value)) {values : List α}
    (apart : (values.map fun value => (detector value).name).Nodup) {value : α}
    (listed : value ∈ values) :
    fromDetector (detector value) (values.map message) = [message value] := by
  have own : (values.filter fun other =>
      (message other).detector.map Detector.name = some (detector value).name) = [value] := by
    rw [← filter_key_eq apart listed]
    refine List.filter_congr fun other _ => ?_
    simp [about, eq_comm]
  rw [fromDetector, List.filter_map]
  exact congrArg (List.map message) own

/-- A digitizer counts the pixels of its detector, those with hits and those without. -/
theorem Regular.gain_eq (regular : event.Regular pipeline) (covers : event.Covers detectors)
    (apart : (detectors.map Detector.name).Nodup) {readout : Readout}
    (listed : readout ∈ event.readouts) :
    readout.gain.hits + readout.gain.belowThreshold =
        records (fromDetector readout.shot.detector (ofType .pixelCharge event.messages)) ∧
      readout.gain.hits =
        records (fromDetector readout.shot.detector (ofType .pixelHit event.messages)) := by
  have shots := covers.names_nodup apart
  have readouts : (event.readouts.map fun readout => readout.shot.detector.name).Nodup := by
    rw [← covers.readouts, List.map_map] at shots
    exact shots
  have shot : readout.shot ∈ event.shots := covers.readouts ▸ List.mem_map_of_mem listed
  have few := regular.hits readout listed
  rw [ofType_messages, ofType_messages, messagesOf, messagesOf,
    @fromDetector_map _ Shot.chargesMessage _ (fun _ => rfl) _ shots _ shot,
    @fromDetector_map _ Readout.message _ (fun _ => rfl) _ readouts _ listed]
  constructor
  · exact Nat.add_sub_cancel' few
  · rfl

end Event

/-! ## The accounts of a run -/

/-- A count that adds up over modules. -/
structure Additive (count : Totals → Nat) : Prop where
  none : count 0 = 0
  add : ∀ first second, count (first + second) = count first + count second

theorem Additive.sum {count : Totals → Nat} (additive : Additive count)
    (totals : List Totals) : count totals.sum = (totals.map count).sum := by
  induction totals with
  | nil => exact additive.none
  | cons first rest ih =>
    rw [List.sum_cons, List.map_cons, List.sum_cons, additive.add, ih]

/-- The messages of a type that were dispatched. -/
def sentOf (type : PayloadType) (notes : List Note) : List Message :=
  ofType type ((sendings notes).map Sending.message)

/-- What the modules counted in a run of a chain, of all lanes together, told by the messages that
were dispatched. Modules are told by what is built at their places. -/
structure Accounts (tally : Nat) (pipeline : Pipeline) (detectors : List Detector)
    (notes : List Note) (lanes : List (Lane Counters)) : Prop where
  /-- Every lane has all modules of the chain. -/
  complete : ∀ lane ∈ lanes,
    lane.modules.length = (Blueprint.instances (chain tally) detectors).length
  generated : ∀ place : Nat,
    (Blueprint.instances (chain tally) detectors)[place]? = some (Generator.blueprint, none) →
      (countersAt lanes place).depositsSent = records (sentOf .deposit notes)
  read : ∀ place : Nat,
    (Blueprint.instances (chain tally) detectors)[place]? = some (Reader.blueprint, none) →
      (countersAt lanes place).depositsRead = records (sentOf .deposit notes) ∧
        (countersAt lanes place).chargeRead = charge (sentOf .deposit notes)
  proportional : records (sentOf .deposit notes) =
    pipeline.depositsPerParticle.toNat * records (sentOf .particle notes)
  digitized : ∀ (place : Nat) (detector : Detector),
    (Blueprint.instances (chain tally) detectors)[place]? =
        some (Digitizer.blueprint, some detector) →
      (countersAt lanes place).hits + (countersAt lanes place).belowThreshold =
          records (fromDetector detector (sentOf .pixelCharge notes)) ∧
        (countersAt lanes place).hits = records (fromDetector detector (sentOf .pixelHit notes))

namespace Completes

variable {tally : Nat} {config : Config} {detectors : List Detector}
  {lanes : List (Lane Counters)} {observed : Observed} {outcome : Outcome Counters}
  (completes : Completes tally config detectors lanes observed outcome)

include completes

/-- What the messages of a run that pass a test amount to, event by event. -/
theorem sum_sent (test : Message → Bool) (weight : Message → Nat) :
    ((((sendings observed.2).map Sending.message).filter test).map weight).sum =
      ((Config.plan config).allEvents.map fun number =>
        (((eventsOf config detectors number).messages.filter test).map weight).sum).sum := by
  have sent := ((completes.sent_perm.map Prod.snd).filter test).map weight
  rw [List.map_map] at sent
  refine sent.sum_nat.trans ?_
  rw [sentWith, List.map_flatMap, List.filter_flatMap, sum_map_flatMap]
  simp only [List.map_map, Function.comp_def, List.map_id']

theorem records_sentOf (type : PayloadType) :
    records (sentOf type observed.2) = ((Config.plan config).allEvents.map fun number =>
      records (ofType type (eventsOf config detectors number).messages)).sum :=
  completes.sum_sent _ _

theorem records_sentOf_from (detector : Detector) (type : PayloadType) :
    records (fromDetector detector (sentOf type observed.2)) =
      ((Config.plan config).allEvents.map fun number => records
        (fromDetector detector (ofType type (eventsOf config detectors number).messages))).sum := by
  simp only [fromDetector, sentOf, ofType, List.filter_filter]
  exact completes.sum_sent _ _

private theorem charge_sentOf (type : PayloadType) :
    charge (sentOf type observed.2) = ((Config.plan config).allEvents.map fun number =>
      charge (ofType type (eventsOf config detectors number).messages)).sum :=
  completes.sum_sent _ _

/-- What modules in a role count in a run, event by event. -/
theorem count_countersAt {count : Totals → Nat} (additive : Additive count) {place : Nat}
    {role : Role} (found : (roles detectors)[place]? = some role) (amount : Event → Nat)
    (each : ∀ number gain, Gains (eventsOf config detectors number) role gain →
      count gain = amount (eventsOf config detectors number)) :
    count (countersAt outcome.lanes place) =
      ((Config.plan config).allEvents.map fun number =>
        amount (eventsOf config detectors number)).sum := by
  rw [completes.countersAt_eq, additive.sum, List.map_map]
  refine congrArg List.sum (List.map_congr_left fun number _ => ?_)
  have covers := covers_eventsOf config detectors number
  obtain ⟨gain, same, gains⟩ := forall₂_getElem? covers.gains_of_roles found
  rw [Function.comp_apply, List.getD_eq_getElem?_getD, same]
  exact each number gain gains

end Completes

/-! ## Modules by what they are built from -/

namespace Role

variable {tally : Nat} {role : Role}

private theorem eq_generator (same : role.instance_ tally = (Generator.blueprint, none)) :
    role = .generator := by
  have name := congrArg (fun made => made.1.name) same
  cases role with
  | generator => rfl
  | _ => exact absurd name (of_decide_eq_false rfl)

private theorem eq_reader (same : role.instance_ tally = (Reader.blueprint, none)) :
    role = .reader := by
  have name := congrArg (fun made => made.1.name) same
  cases role with
  | reader => rfl
  | _ => exact absurd name (of_decide_eq_false rfl)

private theorem eq_digitizer {detector : Detector}
    (same : role.instance_ tally = (Digitizer.blueprint, some detector)) :
    role = .digitizer detector := by
  have name := congrArg (fun made => made.1.name) same
  cases role with
  | digitizer other => rw [Option.some.inj (congrArg Prod.snd same)]
  | _ => exact absurd name (of_decide_eq_false rfl)

end Role

theorem role_of_instance {tally place : Nat} {detectors : List Detector}
    {made : Blueprint Counters × Option Detector}
    (found : (Blueprint.instances (chain tally) detectors)[place]? = some made) :
    ∃ role, (roles detectors)[place]? = some role ∧ role.instance_ tally = made := by
  rwa [instances_chain, List.getElem?_map, Option.map_eq_some_iff] at found

namespace Completes

variable {tally : Nat} {config : Config} {detectors : List Detector}
  {lanes : List (Lane Counters)} {observed : Observed} {outcome : Outcome Counters}

theorem accounts (completes : Completes tally config detectors lanes observed outcome) :
    Accounts tally config.pipeline detectors observed.2 outcome.lanes where
  complete := by
    rw [completes.lanes_eq, List.forall_mem_map]
    intro lane listed
    have counted := ((completes.staffed.crewed lane listed).counting
      (covers_eventsOf config detectors) ((Config.plan config).events lane.id)).1
    rw [instances_chain, List.length_map, counted.plays.length_eq]
    exact List.length_map _
  generated place found := by
    obtain ⟨role, played, same⟩ := role_of_instance found
    obtain rfl := role.eq_generator same
    have sent : Additive Totals.depositsSent := ⟨rfl, fun _ _ => rfl⟩
    rw [completes.records_sentOf]
    refine completes.count_countersAt sent played (fun event =>
      records (ofType .deposit event.messages)) fun number gain gains => ?_
    cases gains
    exact (Event.records_deposits _).symm
  read place found := by
    obtain ⟨role, played, same⟩ := role_of_instance found
    obtain rfl := role.eq_reader same
    have deposits : Additive Totals.depositsRead := ⟨rfl, fun _ _ => rfl⟩
    have charges : Additive Totals.chargeRead := ⟨rfl, fun _ _ => rfl⟩
    rw [completes.records_sentOf, completes.charge_sentOf]
    constructor
    · refine completes.count_countersAt deposits played (fun event =>
        records (ofType .deposit event.messages)) fun number gain gains => ?_
      cases gains
      exact (Event.readerGain_eq _).1
    · refine completes.count_countersAt charges played (fun event =>
        charge (ofType .deposit event.messages)) fun number gain gains => ?_
      cases gains
      exact (Event.readerGain_eq _).2
  proportional := by
    rw [completes.records_sentOf, completes.records_sentOf]
    refine Eq.trans ?_ (List.sum_map_mul_left _ _ _)
    refine congrArg List.sum (List.map_congr_left fun number _ => ?_)
    exact (Event.regular_draw detectors config.pipeline _).proportional
  digitized place detector found := by
    obtain ⟨role, played, same⟩ := role_of_instance found
    obtain rfl := role.eq_digitizer same
    have pixels : Additive fun totals => totals.hits + totals.belowThreshold :=
      ⟨rfl, fun first second => Nat.add_add_add_comm _ _ _ _⟩
    have hits : Additive Totals.hits := ⟨rfl, fun _ _ => rfl⟩
    have gain_eq (number : UInt64) (gain : Totals)
        (gains : Gains (eventsOf config detectors number) (.digitizer detector) gain) :
        gain.hits + gain.belowThreshold = records (fromDetector detector
            (ofType .pixelCharge (eventsOf config detectors number).messages)) ∧
          gain.hits = records (fromDetector detector
            (ofType .pixelHit (eventsOf config detectors number).messages)) := by
      cases gains with
      | digitizer listed =>
        exact (Event.regular_draw detectors config.pipeline _).gain_eq
          (covers_eventsOf config detectors number) completes.accepted.apart listed
    rw [completes.records_sentOf_from, completes.records_sentOf_from]
    constructor
    · exact completes.count_countersAt pixels played
        (fun event => records (fromDetector detector (ofType .pixelCharge event.messages)))
        fun number gain gains => (gain_eq number gain gains).1
    · exact completes.count_countersAt hits played
        (fun event => records (fromDetector detector (ofType .pixelHit event.messages)))
        fun number gain gains => (gain_eq number gain gains).2

end Completes

/-- In every run of the chain that succeeds, the modules count what the messages tell. -/
theorem chain_accounts {config : Config} {simulation : Simulation Counters}
    (built : Simulation.ofConfig config = .ok simulation) (tally : Nat) (turns : List Nat)
    (world : World) {summary : Summary}
    (success : ((simulation.add (chain tally)).run turns { world with bus := {} }).result =
      .ok summary) :
    let demo := simulation.add (chain tally)
    Accounts tally config.pipeline simulation.detectors
      (demo.notes turns { world with bus := {} }) (demo.run turns { world with bus := {} }).lanes := by
  intro demo
  obtain ⟨detectors, rfl, accepted⟩ := accepted_of_ofConfig built
  have fits : config.events.toNat + config.workers.toNat ≤ UInt64.size := by
    rcases made : demo.buildLanes demo.config.workers.toNat 0 { world with bus := {} } with
      ⟨stop | lanes, first⟩
    · simp only [Simulation.run, demo, made] at success
      cases success
    · exact Simulation.fits_of_success made accepted.working success
  have range : InRange config detectors := by
    by_contra beyond
    have faulty := fault_of_accepted accepted fits tally turns world beyond
    cases success.symm.trans faulty
  obtain ⟨lanes, observed, completes, noted⟩ :=
    completes_of_accepted accepted fits tally turns world range
  have same : demo.notes turns { world with bus := {} } = observed.2 := noted
  rw [same]
  exact completes.accounts

/-- Three events of the standard planes in two lanes. -/
theorem chain_accounts_two_lanes : ∃ (simulation : Simulation Counters) (summary : Summary),
    Simulation.ofConfig { events := 3, workers := 2 } = .ok simulation ∧
      ((simulation.add (chain 0)).run [1, 0, 1] {}).result = .ok summary ∧
      Accounts 0 {} simulation.detectors ((simulation.add (chain 0)).notes [1, 0, 1] {})
        ((simulation.add (chain 0)).run [1, 0, 1] {}).lanes := by
  obtain ⟨simulation, built⟩ : ∃ simulation : Simulation Counters,
      Simulation.ofConfig { events := 3, workers := 2 } = .ok simulation := ⟨_, rfl⟩
  have range := inRange_of_ofConfig built (by decide)
  obtain ⟨detectors, rfl, accepted⟩ := accepted_of_ofConfig built
  obtain ⟨lanes, observed, completes, _⟩ :=
    completes_of_accepted accepted (by decide) 0 [1, 0, 1] {} range
  exact ⟨_, _, built, completes.result, chain_accounts built 0 [1, 0, 1] {} completes.result⟩

end Beamline.Demo
