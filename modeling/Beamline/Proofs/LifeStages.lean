import Beamline.Proofs.EventLoop
import Beamline.Proofs.LaneWork
import Beamline.Proofs.LifeTold

namespace Beamline.Run

variable {σ : Type}

/-! ## Stations -/

def stationsFrom (lane : LaneId) (place count : Nat) : List Station :=
  (List.range' place count).map fun place => { lane, place }

/-- What stages leave of a lane as it is. -/
def Lane.shape (lane : Lane σ) : LaneId × Nat :=
  (lane.id, lane.modules.length)

/-- The instances of a lane in the order of the chain. -/
def Lane.stations (lane : Lane σ) : List Station :=
  stationsFrom lane.id 0 lane.modules.length

/-- All instances of a run, lane by lane. -/
def stationsOf (lanes : List (Lane σ)) : List Station :=
  lanes.flatMap Lane.stations

private theorem stationsOf_cons (lane : Lane σ) (rest : List (Lane σ)) :
    stationsOf (lane :: rest) = lane.stations ++ stationsOf rest :=
  List.flatMap_cons

theorem Lane.id_of_shape {lane other : Lane σ} (same : other.shape = lane.shape) :
    other.id = lane.id :=
  congrArg Prod.fst same

theorem Lane.stations_of_shape {lane other : Lane σ} (same : other.shape = lane.shape) :
    other.stations = lane.stations :=
  congrArg (fun shape : LaneId × Nat => stationsFrom shape.1 0 shape.2) same

theorem stationsOf_of_shape {lanes others : List (Lane σ)}
    (same : others.map Lane.shape = lanes.map Lane.shape) :
    stationsOf others = stationsOf lanes := by
  have stations (lanes : List (Lane σ)) : stationsOf lanes =
      (lanes.map Lane.shape).flatMap fun shape => stationsFrom shape.1 0 shape.2 := by
    rw [List.flatMap_map]
    rfl
  rw [stations, stations, same]

theorem Lane.shape_with (lane : Lane σ) {modules : List (Module σ)}
    (same : modules.length = lane.modules.length) :
    ({ lane with modules } : Lane σ).shape = lane.shape :=
  congrArg (Prod.mk lane.id) same

/-! ## Stages that end with the first failure -/

/-- A call in a stage, in an event or in none. Only a tear-down counts what is left. -/
structure StageCall.In (stage : Stage) (event : Option UInt64) (call : StageCall) : Prop where
  stage : call.stage = stage
  event : call.event = event
  left : call.left = 0

/-- Instances called one after the other, up to the first that fails: the calls that are made, and
how they end together. -/
inductive InTurn (stage : Stage) (event : Option UInt64) :
    List Station → List StageCall → Except Stop Unit → Prop
  | done : InTurn stage event [] [] (.ok ())
  | failed {call : StageCall} {rest : List Station} {stop : Stop} (within : call.In stage event)
      (failed : call.result = .error stop) :
      InTurn stage event (call.station :: rest) [call] (.error (call.report stop))
  | next {call : StageCall} {rest : List Station} {later : List StageCall}
      {ended : Except Stop Unit} (within : call.In stage event) (succeeded : call.result = .ok ())
      (further : InTurn stage event rest later ended) :
      InTurn stage event (call.station :: rest) (call :: later) ended

namespace InTurn

variable {stage : Stage} {event : Option UInt64} {stations others : List Station}
  {calls more : List StageCall} {ended : Except Stop Unit}

theorem append (first : InTurn stage event stations calls (.ok ()))
    (second : InTurn stage event others more ended) :
    InTurn stage event (stations ++ others) (calls ++ more) ended := by
  generalize succeeded : (.ok () : Except Stop Unit) = result at first
  induction first with
  | done => exact second
  | failed within failed => cases succeeded
  | next within success further ih => exact .next within success (ih succeeded)

theorem stopped {stop : Stop} (first : InTurn stage event stations calls (.error stop))
    (others : List Station) : InTurn stage event (stations ++ others) calls (.error stop) := by
  generalize failed : (.error stop : Except Stop Unit) = result at first
  induction first with
  | done => cases failed
  | failed within unsuccessful => exact Except.error.inj failed ▸ .failed within unsuccessful
  | next within success further ih => exact .next within success (ih failed)

theorem within (inTurn : InTurn stage event stations calls ended) :
    ∀ call ∈ calls, call.In stage event := by
  induction inTurn with
  | done => exact List.forall_mem_nil _
  | failed within failed => simpa using within
  | next within success further ih => simpa using ⟨within, ih⟩

theorem prefix_stations (inTurn : InTurn stage event stations calls ended) :
    calls.map StageCall.station <+: stations := by
  induction inTurn with
  | done => exact List.prefix_rfl
  | failed within failed => simp
  | next within success further ih => simpa using ih

/-- Where none fails, all are called. -/
theorem all_stations (inTurn : InTurn stage event stations calls ended)
    (succeeded : ended = .ok ()) :
    calls.map StageCall.station = stations ∧ ∀ call ∈ calls, call.result = .ok () := by
  induction inTurn with
  | done => exact ⟨rfl, List.forall_mem_nil _⟩
  | failed within failed => cases succeeded
  | next within success further ih =>
    obtain ⟨all, successes⟩ := ih succeeded
    exact ⟨by simp [all], by simpa [success] using successes⟩

end InTurn

/-- How calls end that stop for a reason, if there is one. -/
def endOf : Option Stop → Except Stop Unit
  | none => .ok ()
  | some stop => .error stop

@[simp]
theorem endOf_eq_ok {reason : Option Stop} : endOf reason = .ok () ↔ reason = none := by
  cases reason <;> simp [endOf]

@[simp]
theorem endOf_eq_error {reason : Option Stop} {stop : Stop} :
    endOf reason = .error stop ↔ reason = some stop := by
  cases reason <;> simp [endOf]

theorem InTurn.ended_eq {stage : Stage} {event : Option UInt64} {stations : List Station}
    {calls : List StageCall} {ended : Except Stop Unit}
    (inTurn : InTurn stage event stations calls ended) :
    ended = endOf (calls.findSome? StageCall.stop?) := by
  induction inTurn with
  | done => rfl
  | failed within failed => simp [StageCall.stop?, failed, endOf]
  | @next call rest later ended within success further ih =>
    have none : call.stop? = none := by simp [StageCall.stop?, success, within.left]
    rw [List.findSome?_cons_of_isNone (by simp [none])]
    exact ih

/-! ## Tear-downs -/

def Sane {α : Type} (ended : Except Stop α) : Prop :=
  ∀ fault, ended ≠ .error (.fault fault)

theorem sane_ok {α : Type} (value : α) : Sane (.ok value : Except Stop α) := by
  intro fault same
  cases same

theorem sane_error {α : Type} (error : RunError) : Sane (.error (.error error) : Except Stop α) := by
  intro fault same
  cases same

/-- Instances torn down one after the other, whatever fails; only a fault ends this. -/
inductive TornDown : List Station → List StageCall → Except Stop Unit → Prop
  | done : TornDown [] [] (.ok ())
  | faulty {call : StageCall} {rest : List Station} {fault : Fault}
      (within : call.stage = .tearDown) (faulty : call.result = .error (.fault fault)) :
      TornDown (call.station :: rest) [call] (.error (.fault fault))
  | next {call : StageCall} {rest : List Station} {later : List StageCall}
      {ended : Except Stop Unit} (within : call.stage = .tearDown)
      (sane : Sane (endOf call.stop?)) (further : TornDown rest later ended) :
      TornDown (call.station :: rest) (call :: later) (Stop.both (endOf call.stop?) ended)

theorem Sane.of_both {first later : Except Stop Unit} (sane : Sane (Stop.both first later)) :
    Sane first ∧ Sane later := by
  rcases first with (error | fault) | _
  · rcases later with (other | fault) | _
    · exact ⟨sane_error error, sane_error other⟩
    · exact absurd rfl (sane fault)
    · exact ⟨sane_error error, sane_ok ()⟩
  · exact absurd rfl (sane fault)
  · exact ⟨sane_ok (), sane⟩

theorem both_eq {first later : Option Stop} (sane : Sane (Stop.both (endOf first) (endOf later))) :
    Stop.both (endOf first) (endOf later) = endOf (first.or later) := by
  rcases first with _ | (error | fault)
  · rfl
  · rcases later with _ | (other | fault)
    · rfl
    · rfl
    · exact absurd rfl (sane fault)
  · rfl

namespace TornDown

variable {stations others : List Station} {calls more : List StageCall}
  {ended last : Except Stop Unit}

theorem append (first : TornDown stations calls ended) (sane : Sane ended)
    (second : TornDown others more last) :
    TornDown (stations ++ others) (calls ++ more) (Stop.both ended last) := by
  induction first with
  | done => exact second
  | faulty within faulty => exact absurd rfl (sane _)
  | @next call rest later ended within unbroken further ih =>
    have kept : Stop.both (Stop.both (endOf call.stop?) ended) last =
        Stop.both (endOf call.stop?) (Stop.both ended last) := by
      rcases endOf call.stop? with (_ | _) | _ <;> rcases ended with (_ | _) | _ <;>
        rcases last with (_ | _) | _ <;> rfl
    rw [kept]
    exact .next within unbroken (ih sane.of_both.2)

theorem stopped {fault : Fault} (first : TornDown stations calls (.error (.fault fault)))
    (others : List Station) : TornDown (stations ++ others) calls (.error (.fault fault)) := by
  generalize same : (.error (.fault fault) : Except Stop Unit) = result at first
  induction first with
  | done => cases same
  | faulty within faulty => exact .faulty within faulty
  | @next call rest later ended within unbroken further ih =>
    refine .next within unbroken (ih ?_)
    rcases reason : endOf call.stop? with (error | other) | _
    · rw [reason] at same
      rcases ended with (_ | _) | _
      · cases same
      · exact same
      · cases same
    · exact absurd reason (unbroken other)
    · exact same.trans (by rw [reason]; rfl)

theorem within (tornDown : TornDown stations calls ended) :
    ∀ call ∈ calls, call.stage = .tearDown := by
  induction tornDown with
  | done => exact List.forall_mem_nil _
  | faulty within faulty => simpa using within
  | next within unbroken further ih => simpa using ⟨within, ih⟩

/-- Without a fault, all instances are torn down, and the first failure counts. -/
theorem all_stations (tornDown : TornDown stations calls ended) (sane : Sane ended) :
    calls.map StageCall.station = stations ∧
      ended = endOf (calls.findSome? StageCall.stop?) := by
  induction tornDown with
  | done => exact ⟨rfl, rfl⟩
  | faulty within faulty => exact absurd rfl (sane _)
  | @next call rest later ended within unbroken further ih =>
    obtain ⟨all, rfl⟩ := ih sane.of_both.2
    refine ⟨by simp [all], ?_⟩
    rw [both_eq sane, List.findSome?_cons]
    cases call.stop? <;> rfl

end TornDown

/-! ## Events -/

/-- What an event comes to in a lane: its modules run in turn, and if none fails, something that is
required can still be missing. -/
inductive Round.Of (stations : List Station) : Round → Prop
  | failed {event : UInt64} {calls : List StageCall} {stop : Stop}
      (runs : InTurn .run (some event) stations calls (.error stop)) :
      Of stations { event, calls, result := .error stop }
  | unmet {event : UInt64} {calls : List StageCall} (error : Bus.BusError)
      (runs : InTurn .run (some event) stations calls (.ok ())) :
      Of stations { event, calls, result := .error (.error (.bus error)) }
  | completed {event : UInt64} {calls : List StageCall}
      (runs : InTurn .run (some event) stations calls (.ok ())) :
      Of stations { event, calls, result := .ok () }

theorem Round.Of.inTurn {stations : List Station} {round : Round} (goes : round.Of stations) :
    ∃ ended, InTurn .run (some round.event) stations round.calls ended ∧
      ∀ stop, ended = .error stop → round.result = .error stop := by
  cases goes with
  | failed runs => exact ⟨_, runs, fun _ same => same⟩
  | unmet error runs => exact ⟨_, runs, nofun⟩
  | completed runs => exact ⟨_, runs, nofun⟩

/-- The events of a lane from one on, one after the other, and how they end. -/
inductive Rounds (plan : Plan) (id : LaneId) (stations : List Station) :
    UInt64 → List Round → Except Stop Nat → Prop
  /-- No event is left. -/
  | complete {event : UInt64} {processed : Nat} (late : ¬ event < plan.total) :
      Rounds plan id stations event [] (.ok processed)
  /-- Another lane failed. -/
  | aborted {event : UInt64} (early : event < plan.total) :
      Rounds plan id stations event [] (.error (.error (.aborted id)))
  | failed {round : Round} {stop : Stop} (early : round.event < plan.total)
      (goes : round.Of stations) (failed : round.result = .error stop) :
      Rounds plan id stations round.event [round] (.error stop)
  /-- The number of the next event would be no word. -/
  | overflow {round : Round} (early : round.event < plan.total) (goes : round.Of stations)
      (succeeded : round.result = .ok ()) (turns : ¬ round.event < round.event + plan.stride) :
      Rounds plan id stations round.event [round] (.error (.fault .addition))
  | next {round : Round} {rest : List Round} {ended : Except Stop Nat}
      (early : round.event < plan.total) (goes : round.Of stations)
      (succeeded : round.result = .ok ()) (onward : round.event < round.event + plan.stride)
      (further : Rounds plan id stations (round.event + plan.stride) rest ended) :
      Rounds plan id stations round.event (round :: rest) ended

namespace Rounds

variable {plan : Plan} {id : LaneId} {stations : List Station} {event target : UInt64}
  {rounds : List Round} {ended : Except Stop Nat}

theorem goes (going : Rounds plan id stations event rounds ended) :
    ∀ round ∈ rounds, round.Of stations := by
  induction going with
  | complete late => exact List.forall_mem_nil _
  | aborted early => exact List.forall_mem_nil _
  | failed early goes failed => simpa using goes
  | overflow early goes succeeded turns => simpa using goes
  | next early goes succeeded onward further ih => simpa using ⟨goes, ih⟩

private theorem from_le (going : Rounds plan id stations event rounds ended) :
    ∀ round ∈ rounds, event ≤ round.event := by
  induction going with
  | complete late => exact List.forall_mem_nil _
  | aborted early => exact List.forall_mem_nil _
  | failed early goes failed => simp
  | overflow early goes succeeded turns => simp
  | next early goes succeeded onward further ih =>
    simpa using fun round member => UInt64.le_of_lt (UInt64.lt_of_lt_of_le onward (ih round member))

/-- The events of a lane come in increasing order. -/
theorem increasing (going : Rounds plan id stations event rounds ended) :
    (rounds.map Round.event).Pairwise (· < ·) := by
  induction going with
  | complete late => simp
  | aborted early => simp
  | failed early goes failed => simp
  | overflow early goes succeeded turns => simp
  | next early goes succeeded onward further ih =>
    rw [List.map_cons, List.pairwise_cons]
    refine ⟨fun target member => ?_, ih⟩
    obtain ⟨round, later, rfl⟩ := List.mem_map.mp member
    exact UInt64.lt_of_lt_of_le onward (further.from_le round later)

/-- Only the last event of a lane can fail. -/
theorem succeeded (going : Rounds plan id stations event rounds ended) :
    ∀ round ∈ rounds.dropLast, round.result = .ok () := by
  induction going with
  | complete late => exact List.forall_mem_nil _
  | aborted early => exact List.forall_mem_nil _
  | failed early goes failed => exact List.forall_mem_nil _
  | overflow early goes succeeded turns => exact List.forall_mem_nil _
  | @next round rest ended early goes succeeded onward further ih =>
    cases rest with
    | nil => exact List.forall_mem_nil _
    | cons second rest => simpa using ⟨succeeded, ih⟩

/-- An event that fails ends the lane with its error. -/
theorem ended_of_failed (going : Rounds plan id stations event rounds ended) {round : Round}
    (member : round ∈ rounds) {stop : Stop} (failed : round.result = .error stop) :
    ended = .error stop := by
  induction going with
  | complete late => cases member
  | aborted early => cases member
  | failed early goes reason => simp_all
  | overflow early goes succeeded turns => simp_all
  | next early goes succeeded onward further ih =>
    rcases List.mem_cons.mp member with rfl | later
    · cases succeeded.symm.trans failed
    · exact ih later

/-- The events of a lane are among those of the run. -/
theorem early (going : Rounds plan id stations event rounds ended) :
    ∀ round ∈ rounds, round.event < plan.total := by
  induction going with
  | complete late => exact List.forall_mem_nil _
  | aborted early => exact List.forall_mem_nil _
  | failed early goes failed => simpa using early
  | overflow early goes succeeded turns => simpa using early
  | next early goes succeeded onward further ih => simpa using ⟨early, ih⟩

/-- The events of a lane leave the same remainder. -/
theorem remainder (going : Rounds plan id stations event rounds ended) : ∀ round ∈ rounds,
    round.event.toNat % plan.stride.toNat = event.toNat % plan.stride.toNat := by
  induction going with
  | complete late => exact List.forall_mem_nil _
  | aborted early => exact List.forall_mem_nil _
  | failed early goes failed => simp
  | overflow early goes succeeded turns => simp
  | next early goes succeeded onward further ih =>
    rw [Plan.toNat_next onward, Nat.add_mod_right] at ih
    exact List.forall_mem_cons.mpr ⟨rfl, ih⟩

/-- A lane in which no event failed and which did not stop for another one processed all of its
events. -/
theorem covers_of_fine (going : Rounds plan id stations event rounds ended)
    (fine : ∀ round ∈ rounds, round.result = .ok ())
    (unstopped : ended ≠ .error (.error (.aborted id))) (upTo : event ≤ target)
    (within : target < plan.total)
    (remainder : target.toNat % plan.stride.toNat = event.toNat % plan.stride.toNat) :
    ∃ round ∈ rounds, round.event = target := by
  induction going with
  | complete late => exact absurd (UInt64.lt_of_le_of_lt upTo within) late
  | aborted early => exact absurd rfl unstopped
  | failed early goes failed =>
    cases failed.symm.trans (fine _ List.mem_cons_self)
  | @overflow round early goes succeeded turns =>
    by_cases first : round.event = target
    · exact ⟨round, List.mem_cons_self, first⟩
    · -- A further event of the lane would be a word, and then the next one is.
      have far := Plan.next_le upTo first remainder
      have bound : target.toNat < UInt64.size := target.toNat_lt
      have moving : 0 < plan.stride.toNat := by
        refine Nat.pos_of_ne_zero fun still => first (UInt64.toNat_inj.mp ?_)
        rw [still, Nat.mod_zero, Nat.mod_zero] at remainder
        exact remainder.symm
      have far_off := Plan.turned moving turns
      omega
  | @next round rest ended early goes succeeded onward further ih =>
    by_cases first : round.event = target
    · exact ⟨round, List.mem_cons_self, first⟩
    · have far := Plan.next_le upTo first remainder
      rw [← Plan.toNat_next onward, ← UInt64.le_iff_toNat_le] at far
      obtain ⟨later, member, same⟩ := ih
        (fun round member => fine round (List.mem_cons_of_mem _ member)) unstopped far (by rw [remainder, Plan.toNat_next onward, Nat.add_mod_right])
      exact ⟨later, List.mem_cons_of_mem _ member, same⟩

/-- A lane that comes to its end processed all of its events. -/
theorem covers (going : Rounds plan id stations event rounds ended) {processed : Nat}
    (complete : ended = .ok processed) (upTo : event ≤ target) (within : target < plan.total)
    (remainder : target.toNat % plan.stride.toNat = event.toNat % plan.stride.toNat) :
    ∃ round ∈ rounds, round.event = target := by
  refine going.covers_of_fine (fun round member => ?_) (complete ▸ nofun) upTo within remainder
  rcases result : round.result with stop | _
  · cases complete.symm.trans (going.ended_of_failed member result)
  · rfl

end Rounds

/-! ## Every stage goes one of these ways -/

/-- A process that ends so whatever the operations answer. -/
abbrev Process.Yields {α : Type} (process : Process α) (good : α → Prop) : Prop :=
  Program.Respects (S := LaneOperations) (fun _ => True) good process

theorem yields_recordError (module : Module σ) (stage : Stage) (error : RunError)
    (call : StageCall) (name : call.name = module.identity.uniqueName)
    (within : call.stage = stage) : (module.recordError stage error).Yields fun reported =>
      .error reported = call.report (.error error) := by
  apply (Program.respects_any (Process.ask (.countError _ _))).bind
  intro _ _
  change Stop.error _ = call.report (.error error)
  rw [StageCall.report, name, within]

private theorem yields_recordStop (module : Module σ) (stage : Stage) (stop : Stop)
    (call : StageCall)
    (name : call.name = module.identity.uniqueName) (within : call.stage = stage) :
    (module.recordStop stage stop).Yields fun reported => reported = call.report stop := by
  cases stop with
  | error error =>
    exact (yields_recordError module stage error call name within).bind fun _ same => same
  | fault fault => exact rfl

section Yields

variable (stage : Stage) (code : Behaviour σ → Code σ Unit)

theorem yields_tellInTurn (event : Option UInt64) (lane : LaneId) (place : Nat)
    (modules : List (Module σ)) (context : Option EventContext) :
    (tellInTurn stage code event lane place modules context).Yields fun told =>
      InTurn stage event (stationsFrom lane place modules.length) told.2 told.1.1 ∧
        told.1.2.1.length = modules.length := by
  induction modules generalizing place context with
  | nil => exact ⟨.done, rfl⟩
  | cons module rest ih =>
    apply (Program.respects_any (module.call (code module.behaviour) context)).bind
    rintro ⟨stop | _, called, context⟩ _
    · let call : StageCall := {
        station := { lane, place }, name := called.identity.uniqueName, stage, event
        result := .error stop }
      apply (yields_recordStop called stage stop call rfl rfl).bind
      rintro _ rfl
      exact ⟨@InTurn.failed stage event call _ stop ⟨rfl, rfl, rfl⟩ rfl, rfl⟩
    · let call : StageCall := {
        station := { lane, place }, name := called.identity.uniqueName, stage, event
        result := .ok () }
      apply (ih (place + 1) context).bind
      rintro ⟨⟨result, rest, context⟩, later⟩ ⟨inTurn, length⟩
      exact ⟨@InTurn.next stage event call _ _ _ ⟨rfl, rfl, rfl⟩ rfl inTurn,
        congrArg (· + 1) length⟩

theorem yields_tellStage (lanes : List (Lane σ)) :
    (tellStage stage code lanes).Yields fun told =>
      InTurn stage none (stationsOf lanes) told.2 told.1.1 ∧
        told.1.2.map Lane.shape = lanes.map Lane.shape := by
  induction lanes with
  | nil => exact ⟨.done, rfl⟩
  | cons lane rest ih =>
    apply (yields_tellInTurn stage code none lane.id 0 lane.modules none).bind
    rintro ⟨⟨stop | _, modules, context⟩, calls⟩ ⟨inTurn, length⟩
    · exact ⟨inTurn.stopped _, congrArg (· :: _) (lane.shape_with length)⟩
    · apply ih.bind
      rintro ⟨⟨result, rest⟩, later⟩ ⟨further, same⟩
      exact ⟨inTurn.append further, congrArg₂ (· :: ·) (lane.shape_with length) same⟩

end Yields

private theorem yields_tellTearDown (module : Module σ) (station : Station) :
    module.tellTearDown.Yields fun ((result, torn), returned, left) =>
      let call : StageCall := {
        station, name := torn.identity.uniqueName, stage := .tearDown, result := returned, left }
      endOf call.stop? = result.mapError call.report ∧
        ∀ fault, result = .error (.fault fault) → returned = .error (.fault fault) := by
  apply (Program.respects_any (module.call module.behaviour.tearDown none)).bind
  rintro ⟨stop | _, torn, context⟩ _
  · exact ⟨rfl, fun _ same => same⟩
  · apply (Program.respects_any (Process.ask (.delegatesOf torn.identity))).bind
    rintro (left : Nat) _
    by_cases none : left = 0
    · simp only [if_pos none]
      subst none
      exact ⟨rfl, nofun⟩
    · simp only [if_neg none]
      exact ⟨by simp [StageCall.stop?, none, endOf, Except.mapError, StageCall.report,
        RunError.inModule], nofun⟩

private theorem yields_tellTearDowns (lane : LaneId) (place : Nat) (modules : List (Module σ)) :
    (tellTearDowns lane place modules).Yields fun told =>
      TornDown (stationsFrom lane place modules.length) told.2 told.1.1 := by
  induction modules generalizing place with
  | nil => exact .done
  | cons module rest ih =>
    apply (yields_tellTearDown module { lane, place }).bind
    rintro ⟨⟨result, torn⟩, returned, left⟩ ⟨outcome, faults⟩
    let call : StageCall := {
      station := { lane, place }, name := torn.identity.uniqueName, stage := .tearDown
      result := returned, left }
    change endOf call.stop? = _ at outcome
    rcases result with (error | fault) | _
    · apply (yields_recordError torn .tearDown error call rfl rfl).bind
      rintro reported same
      apply (ih (place + 1)).bind
      rintro ⟨⟨later, rest⟩, calls⟩ tornDown
      have reason : endOf call.stop? = .error (.error reported) :=
        outcome.trans (congrArg Except.error same.symm)
      have further := @TornDown.next call _ _ _ rfl (by rw [reason]; exact sane_error reported) tornDown
      rw [reason] at further
      exact further
    · exact @TornDown.faulty call _ fault rfl (faults fault rfl)
    · apply (ih (place + 1)).bind
      rintro ⟨⟨later, rest⟩, calls⟩ tornDown
      have reason : endOf call.stop? = .ok () := outcome
      have further := @TornDown.next call _ _ _ rfl (by rw [reason]; exact sane_ok ()) tornDown
      rw [reason] at further
      exact further

theorem yields_tellLaneTearDowns (lanes : List (Lane σ)) :
    (tellLaneTearDowns lanes).Yields fun told =>
      TornDown (stationsOf lanes) told.2 told.1.1 := by
  induction lanes with
  | nil => exact .done
  | cons lane rest ih =>
    rw [stationsOf_cons]
    apply (yields_tellTearDowns lane.id 0 lane.modules).bind
    rintro ⟨⟨(error | fault) | _, modules⟩, calls⟩ tornDown
    · apply ih.bind
      rintro ⟨⟨later, rest⟩, more⟩ further
      exact tornDown.append (sane_error error) further
    · exact tornDown.stopped _
    · apply ih.bind
      rintro ⟨⟨later, rest⟩, more⟩ further
      exact tornDown.append (sane_ok ()) further

/-! ## The events of a lane -/

private theorem yields_closeEvent (lane : Lane σ) :
    lane.closeEvent.Yields fun result =>
      result = .ok () ∨ ∃ error, result = .error (.error (.bus error)) := by
  apply (Program.respects_any (firstUnmet lane.modules)).bind
  rintro (_ | ⟨module, error⟩) _
  · apply (Program.respects_any (resetModules lane.modules)).bind
    intro _ _
    apply (Program.respects_any (Process.ask (.clearSent lane.id))).bind
    intro _ _
    apply (Program.respects_any (Process.ask (.countEvent lane.id))).bind
    exact fun _ _ => .inl rfl
  · apply (Program.respects_any (Process.ask (.countError _ _))).bind
    exact fun _ _ => .inr ⟨error, rfl⟩

private theorem Lane.yields_tellEvent (lane : Lane σ) (event seed : UInt64) :
    (lane.tellEvent event seed).Yields fun ((result, later), calls) =>
      Round.Of lane.stations { event, calls, result } ∧ later.shape = lane.shape := by
  apply (yields_tellInTurn _ _ _ _ _ _ _).bind
  rintro ⟨⟨stop | _, modules, context⟩, calls⟩ ⟨inTurn, length⟩
  · apply (Program.respects_any (Process.ask .timeEvent)).bind
    exact fun _ _ => ⟨.failed inTurn, lane.shape_with length⟩
  · apply (yields_closeEvent { lane with modules }).bind
    rintro result closing
    apply (Program.respects_any (Process.ask .timeEvent)).bind
    refine fun _ _ => ⟨?_, lane.shape_with length⟩
    rcases closing with rfl | ⟨error, rfl⟩
    · exact .completed inTurn
    · exact .unmet error inTurn

theorem Lane.yields_tellEvents (plan : Plan) (lane : Lane σ) (event : UInt64) (processed : Nat)
    (past : Chronicle σ) :
    (lane.tellEvents plan event processed past).Yields fun ((ended, later), chronicle) =>
      (∃ rest, chronicle.rounds = past.rounds ++ rest ∧
        Rounds plan lane.id lane.stations event rest ended) ∧ later.shape = lane.shape := by
  fun_induction Lane.tellEvents plan lane event processed past with
  | case1 lane event processed past early ih =>
    apply (Program.respects_any (Process.ask .isAborting)).bind
    rintro (isAborting : Bool) _
    cases isAborting with
    | true =>
      exact ⟨⟨[], (past.rounds_looked true).trans (List.append_nil _).symm, .aborted early⟩, rfl⟩
    | false =>
      apply (lane.yields_tellEvent event plan.seed).bind
      rintro ⟨⟨result, later⟩, calls⟩ ⟨goes, shape⟩
      let round : Round := { event, calls, result }
      have told := past.rounds_processed event calls result later
      rcases result with (error | fault) | _
      · apply (Program.respects_any (Process.ask .abort)).bind
        exact fun _ _ => ⟨⟨[round], told, .failed early goes rfl⟩, shape⟩
      · exact ⟨⟨[round], told, .failed early goes rfl⟩, shape⟩
      · by_cases onward : event < event + plan.stride
        · simp only [if_pos onward]
          apply (ih (.ok ()) later calls onward).mono
          rintro ⟨⟨ended, last⟩, chronicle⟩ ⟨⟨rest, same, further⟩, kept⟩
          rw [Lane.id_of_shape shape, Lane.stations_of_shape shape] at further
          rw [told, List.append_assoc] at same
          exact ⟨⟨round :: rest, same, .next early goes rfl onward further⟩, kept.trans shape⟩
        · simp only [if_neg onward]
          exact ⟨⟨[round], told, .overflow early goes rfl onward⟩, shape⟩
  | case2 lane event processed past late =>
    exact ⟨⟨[], (List.append_nil _).symm, .complete late⟩, rfl⟩

end Beamline.Run
