import Beamline.Proofs.AcceptedConfig
import Beamline.Proofs.Lifecycle
import Beamline.Proofs.LineupBuild

namespace Beamline.Run

open Bus

/-! ## What is told and noted of the events -/

/-- An event is run, and none of the calls in it stops early. -/
def RunThrough (rounds : List (List Round)) (event : UInt64) : Prop :=
  ∃ its ∈ rounds, ∃ round ∈ its, round.event = event ∧ ∀ call ∈ round.calls, call.result = .ok ()

namespace Simulation

variable {σ : Type} {simulation : Simulation σ} {world start ready : World}
  {lanes prepared : List (Lane σ)} {stop : Stop} (turns : List Nat)

theorem rounds_of_built
    (built : simulation.buildLanes simulation.config.workers.toNat 0 world = (.ok lanes, start)) :
    (simulation.life turns world).rounds = (simulation.tellWork turns lanes start).2.rounds := by
  simp only [life, built]
  rcases simulation.tellWork turns lanes start with ⟨⟨(error | fault) | _, _, _⟩, _⟩ <;> rfl

theorem events_of_stages
    (built : simulation.buildLanes simulation.config.workers.toNat 0 world = (.ok lanes, start))
    (begun : (stageInTurn .setUp Behaviour.setUp lanes).finish start =
      ((.ok (), prepared), ready)) :
    let ran := runScheduled LaneOperation.performNoted (simulation.telling prepared) turns
      ({ ready with aborting := false }, [])
    simulation.notes turns world = ran.2.2 ∧
      (simulation.life turns world).rounds = ran.1.map fun ended => ended.2.rounds := by
  intro ran
  constructor
  · have plain : runScheduled LaneOperation.performNoted (simulation.loops prepared) turns
        ({ ready with aborting := false }, []) = (ran.1.map Prod.fst, ran.2) := by
      rw [← telling_map]
      exact runScheduled_map _ _ _ _
    simp only [notes, built, begun, plain]
  · have plain : ran.1 = _ := (runScheduled_of_extends extends_performNoted
      (simulation.telling prepared) turns ({ ready with aborting := false }, [])).1
    have staged := Process.finish_told (tellStage_map .setUp Behaviour.setUp lanes) start
    rw [begun] at staged
    rw [rounds_of_built turns built, plain, tellWork]
    rcases told : (tellStage .setUp Behaviour.setUp lanes).finish start with
      ⟨⟨⟨result, others⟩, setUps⟩, later⟩
    rw [told] at staged
    obtain ⟨same, rfl⟩ := Prod.mk.inj staged
    obtain ⟨rfl, rfl⟩ := Prod.mk.inj same
    dsimp only
    split <;> rfl

private theorem events_of_unbuilt
    (failed : simulation.buildLanes simulation.config.workers.toNat 0 world =
      (.error stop, start)) :
    simulation.notes turns world = [] ∧ (simulation.life turns world).rounds = [] := by
  simp only [notes, life, failed, and_self]

private theorem events_of_unprepared
    (built : simulation.buildLanes simulation.config.workers.toNat 0 world = (.ok lanes, start))
    (failed : (stageInTurn .setUp Behaviour.setUp lanes).finish start =
      ((.error stop, prepared), ready)) :
    simulation.notes turns world = [] ∧ (simulation.life turns world).rounds = [] := by
  constructor
  · simp only [notes, built, failed]
  · have staged := Process.finish_told (tellStage_map .setUp Behaviour.setUp lanes) start
    rw [failed] at staged
    have stopped := congrArg (fun ended => ended.1.1) staged
    rw [rounds_of_built turns built, tellWork]
    rcases told : (tellStage .setUp Behaviour.setUp lanes).finish start with
      ⟨⟨⟨result, others⟩, setUps⟩, later⟩
    rw [told] at stopped
    obtain rfl : Except.error stop = result := stopped
    rfl

end Simulation

/-! ## From the lanes to the run -/

/-- The messages of an event, from the bench of the only lane that has messages of it. -/
theorem Laid.sentIn_eq {steady : Prop} {benches : Nat → Bench} {observed : Observed}
    (laid : Laid steady benches observed) {place : Nat} (small : place ≤ ConfigError.maxWorkers)
    {event : UInt64} (others : ∀ other ≤ ConfigError.maxWorkers, other ≠ place →
      ∀ sent ∈ (benches other).sent, sent.1 ≠ event) :
    sentIn event observed.2 = ((benches place).sent.filter fun sent => sent.1 = event).map
      fun sent => (sent.2, "") := by
  obtain ⟨returned, live, layout⟩ := laid
  have home (sending : Sending) (member : sending ∈ sendings observed.2)
      (same : sending.event = event) : sending.lane = laneOf place := by
    let other := sending.lane.index.toNat
    have own : sending.lane = laneOf other := by simp [other, laneOf]
    have few : other ≤ ConfigError.maxWorkers := Nat.le_of_lt_succ sending.lane.index.toNat_lt
    refine Decidable.byContradiction fun different => ?_
    have apart : other ≠ place := fun equal => different (equal ▸ own)
    have listed : (sending.event, sending.message, sending.name) ∈
        sentBy (laneOf other) observed.2 :=
      List.mem_map_of_mem (List.mem_filter.mpr ⟨member, decide_eq_true own⟩)
    rw [(layout.shown other few).sent] at listed
    obtain ⟨sent, among, equal⟩ := List.mem_map.mp listed
    exact others other few apart sent among ((congrArg Prod.fst equal).trans same)
  have shown := congrArg (fun sent => (sent.filter fun sent => sent.1 = event).map Prod.snd)
    (layout.shown place small).sent
  dsimp only [sentBy] at shown
  rw [List.filter_map, List.filter_map, List.map_map, List.map_map] at shown
  rw [sentIn, filter_sendings_of_event home]
  exact shown

end Beamline.Run

namespace Beamline.Demo

open Bus Run

/-! ## The log of a lane -/

def toldIn (event : UInt64) (entries : List (UInt64 × List Message)) : List Message :=
  (entries.filter fun entry => entry.1 = event).flatMap Prod.snd

theorem toldIn_snoc (event number : UInt64) (entries : List (UInt64 × List Message))
    (told : List Message) : toldIn event (entries ++ [(number, told)]) =
      toldIn event entries ++ if number = event then told else [] := by
  rw [toldIn, List.filter_append, List.flatMap_append, List.filter_singleton]
  by_cases same : number = event <;> simp [toldIn, same]

section Logged

variable {messages : UInt64 → List Message} {rounds : List Round}
  {entries : List (UInt64 × List Message)} {sent : List (UInt64 × Message)}

theorem Logged.round_of_sent (logged : Logged messages rounds entries sent) :
    ∀ one ∈ sent, ∃ round ∈ rounds, round.event = one.1 := by
  induction logged with
  | nil => exact nofun
  | snoc earlier thinned begins complete ih =>
    intro one member
    rcases List.mem_append.mp member with old | new
    · obtain ⟨round, among, same⟩ := ih one old
      exact ⟨round, List.mem_append_left _ among, same⟩
    · obtain ⟨message, _, rfl⟩ := List.mem_map.mp new
      exact ⟨_, List.mem_append_right _ (List.mem_singleton_self _), rfl⟩

theorem Logged.toldIn_of_absent (logged : Logged messages rounds entries sent) {event : UInt64}
    (absent : ∀ round ∈ rounds, round.event ≠ event) : toldIn event entries = [] := by
  induction logged with
  | nil => rfl
  | snoc earlier thinned begins complete ih =>
    obtain ⟨others, last⟩ := List.forall_mem_append.mp absent
    rw [toldIn_snoc, ih others, if_neg (last _ (List.mem_singleton_self _))]
    rfl

theorem Logged.of_event (logged : Logged messages rounds entries sent)
    (once : (rounds.map Round.event).Nodup) (event : UInt64) :
    ∃ part, (sent.filter fun one => one.1 = event) = part.map (fun message => (event, message)) ∧
      Thinned part (toldIn event entries) ∧ toldIn event entries <+: messages event ∧
      ∀ round ∈ rounds, round.event = event → (∀ call ∈ round.calls, call.result = .ok ()) →
        toldIn event entries = messages event := by
  induction logged with
  | nil => exact ⟨[], rfl, .refl [], List.nil_prefix, nofun⟩
  | @snoc rounds entries sent round part told earlier thinned begins complete ih =>
    rw [List.map_append, List.nodup_append] at once
    obtain ⟨once, _, apart⟩ := once
    have others : ∀ one ∈ rounds, one.event ≠ round.event := fun one member =>
      apart _ (List.mem_map_of_mem member) _ (List.mem_singleton_self _)
    by_cases same : round.event = event
    · subst same
      have none : (sent.filter fun one => one.1 = round.event) = [] := by
        refine List.filter_eq_nil_iff.mpr fun one member equal => ?_
        obtain ⟨other, among, same⟩ := earlier.round_of_sent one member
        exact others other among (same.trans (of_decide_eq_true equal))
      have all : ((part.map fun message => (round.event, message)).filter
          fun one => one.1 = round.event) = part.map fun message => (round.event, message) :=
        List.filter_eq_self.mpr (by simp)
      rw [toldIn_snoc, earlier.toldIn_of_absent others, if_pos rfl, List.nil_append]
      refine ⟨part, ?_, thinned, begins, fun other member same => ?_⟩
      · rw [List.filter_append, none, all, List.nil_append]
      · rcases List.mem_append.mp member with old | new
        · exact absurd same (others other old)
        · exact List.mem_singleton.mp new ▸ complete
    · obtain ⟨before, filtered, thin, start, whole⟩ := ih once
      have none : ((part.map fun message => (round.event, message)).filter
          fun one => one.1 = event) = [] :=
        List.filter_eq_nil_iff.mpr (by simp [same])
      rw [toldIn_snoc, if_neg same, List.append_nil]
      refine ⟨before, ?_, thin, start, fun other member equal => ?_⟩
      · rw [List.filter_append, filtered, none, List.append_nil]
      · rcases List.mem_append.mp member with old | new
        · exact whole other old equal
        · exact absurd (List.mem_singleton.mp new ▸ equal) same

end Logged

/-! ## The events of a run -/

/-- What is dispatched in an event if only the modules that act are in the chain. -/
def scriptOf (detectors : List Detector) (pipeline : Pipeline) (plan : Plan) (event : UInt64) :
    List Message :=
  let place := event.toNat % plan.stride.toNat
  toldIn event (toldFrom detectors pipeline plan (fresh (acting detectors))
    (laneOf place).index.toUInt64)

/-- What is dispatched in an event of a run: its messages in order, up to the call that stopped early
if there was one, and without some tracks and particles. -/
structure Dispatched (steady through : Prop) (script messages part told : List Message) :
    Prop where
  thinned : Thinned part told
  begins : told <+: messages
  complete : through → told = messages
  calm : steady → told = script

section Run

variable {σ : Type} {lens : CounterLens σ} {steady : Prop}
  {detectors : List Detector} {pipeline : Pipeline} {benches : Nat → Bench} {world : World}
  {simulation : Simulation σ} {lanes : List (Lane σ)}

/-- Each lane keeps its log. -/
theorem AllReady.logs
    (ready : AllReady lens steady detectors pipeline benches 0 lanes)
    (staged : Staged benches world) (apart : (detectors.map Detector.name).Nodup)
    (simulation : Simulation σ) (turns : List Nat) :
    let ran := runScheduled LaneOperation.performNoted (simulation.telling lanes) turns
      ({ world with aborting := false }, [])
    ∃ last, Laid steady last ran.2 ∧ (∀ place ended, ran.1[place]? = some ended →
        ∃ entries, Logged (messagesIn detectors pipeline simulation.config.seed) ended.2.rounds
            entries (last place).sent ∧
          (steady → entries = toldFrom detectors pipeline (simulation.plan lanes)
            (fresh (acting detectors)) (laneOf place).index.toUInt64)) ∧
      ∀ place, lanes.length ≤ place → (last place).sent = [] := by
  have blank (place : Nat) : (benches place).sent = [] := congrArg View.sent (staged.clear place)
  have laid : Laid steady benches ({ world with aborting := false }, []) := by
    obtain ⟨returned, live, layout⟩ := staged.laid
    refine ⟨returned, live, layout.separate, fun place few => ?_, fun _ => rfl⟩
    have shown := layout.shown place few
    exact ⟨shown.core, shown.others, shown.opened, shown.held, shown.sent⟩
  have each (place : Nat) (loop : Process ((Except Stop Nat × Lane σ) × Chronicle σ))
      (found : (simulation.telling lanes)[place]? = some loop) :
      loop.KeepsBenches steady place (fun ended after =>
        ∃ entries, Logged (messagesIn detectors pipeline simulation.config.seed) ended.2.rounds
            entries after.sent ∧
          (steady → entries = toldFrom detectors pipeline (simulation.plan lanes)
            (fresh (acting detectors)) (laneOf place).index.toUInt64)) (benches place) := by
    rw [Simulation.telling, List.getElem?_map, Option.map_eq_some_iff] at found
    obtain ⟨lane, listed, rfl⟩ := found
    obtain ⟨small, resting⟩ := ready place lane listed
    rw [Nat.zero_add] at small resting
    have empty : Logged (messagesIn detectors pipeline simulation.config.seed)
        (Chronicle.rounds ([] : Chronicle σ)) [] (benches place).sent := blank place ▸ .nil
    rw [← resting.id]
    exact resting.keepsBenches_tellEvents small apart (simulation.plan lanes) _ 0 empty
  obtain ⟨last, fits, good, rest⟩ := runScheduled_ensures laid each turns
  refine ⟨last, fits, good, fun place outside => ?_⟩
  rw [rest place ((List.length_map _).trans_le outside)]
  exact blank place

/-- Each lane goes through events of its own. -/
theorem AllReady.goes
    (ready : AllReady lens steady detectors pipeline benches 0 lanes)
    (simulation : Simulation σ) (turns : List Nat) {observed : Observed} {place : Nat}
    {ended : (Except Stop Nat × Lane σ) × Chronicle σ}
    (found : (runScheduled LaneOperation.performNoted (simulation.telling lanes) turns
      observed).1[place]? = some ended) :
    ∃ stations, Rounds (simulation.plan lanes) (laneOf place) stations
      (laneOf place).index.toUInt64 ended.2.rounds ended.1.1 := by
  have each (place : Nat) (loop : Process ((Except Stop Nat × Lane σ) × Chronicle σ))
      (found : (simulation.telling lanes)[place]? = some loop) :
      loop.Yields fun ended => ∃ stations, Rounds (simulation.plan lanes) (laneOf place) stations
        (laneOf place).index.toUInt64 ended.2.rounds ended.1.1 := by
    rw [Simulation.telling, List.getElem?_map, Option.map_eq_some_iff] at found
    obtain ⟨lane, listed, rfl⟩ := found
    have id := (ready place lane listed).2.id
    rw [Nat.zero_add] at id
    rw [← id]
    apply (lane.yields_tellEvents (simulation.plan lanes) _ 0 []).mono
    rintro ended ⟨⟨rounds, all, goes⟩, _⟩
    obtain rfl : ended.2.rounds = rounds := all.trans (List.nil_append _)
    exact ⟨_, goes⟩
  exact runScheduled_respects each LaneOperation.performNoted turns observed found

theorem AllReady.place_of_round
    (ready : AllReady lens steady detectors pipeline benches 0 lanes)
    (few : lanes.length ≤ ConfigError.maxWorkers) (simulation : Simulation σ) (turns : List Nat)
    {observed : Observed} {place : Nat} {ended : (Except Stop Nat × Lane σ) × Chronicle σ}
    (found : (runScheduled LaneOperation.performNoted (simulation.telling lanes) turns
      observed).1[place]? = some ended) {round : Round} (member : round ∈ ended.2.rounds) :
    place = round.event.toNat % lanes.length := by
  have within : place < lanes.length := (List.getElem?_eq_some_iff.mp found).1.trans_eq
    ((runScheduled_length _ _ _ _).trans (List.length_map _))
  obtain ⟨_, goes⟩ := ready.goes simulation turns found
  have remainder := goes.remainder round member
  rw [Simulation.toNat_stride (Nat.le_succ_of_le few), toNat_laneOf (by omega),
    Nat.mod_eq_of_lt within] at remainder
  exact remainder.symm

/-- Which messages are dispatched in an event. -/
theorem AllReady.dispatched
    (ready : AllReady lens steady detectors pipeline benches 0 lanes)
    (staged : Staged benches world) (apart : (detectors.map Detector.name).Nodup)
    (simulation : Simulation σ) (manned : 0 < lanes.length)
    (few : lanes.length ≤ ConfigError.maxWorkers) (turns : List Nat) (event : UInt64) :
    let ran := runScheduled LaneOperation.performNoted (simulation.telling lanes) turns
      ({ world with aborting := false }, [])
    ∃ sent told, sentIn event ran.2.2 = sent.map (fun message => (message, "")) ∧
      Dispatched steady (RunThrough (ran.1.map fun ended => ended.2.rounds) event)
        (scriptOf detectors pipeline (simulation.plan lanes) event)
        (messagesIn detectors pipeline simulation.config.seed event) sent told := by
  intro ran
  obtain ⟨last, laid, logs, rest⟩ := ready.logs staged apart simulation turns
  have length : ran.1.length = lanes.length :=
    (runScheduled_length _ _ _ _).trans (List.length_map _)
  let place := event.toNat % lanes.length
  have within : place < lanes.length := Nat.mod_lt _ manned
  -- Only one lane has the event.
  have home {other : Nat} {ended : (Except Stop Nat × Lane σ) × Chronicle σ}
      (found : ran.1[other]? = some ended) {round : Round} (member : round ∈ ended.2.rounds)
      (same : round.event = event) : other = place := by
    subst same
    exact ready.place_of_round few simulation turns found member
  obtain ⟨ended, own⟩ : ∃ ended, ran.1[place]? = some ended :=
    ⟨_, List.getElem?_eq_getElem (length.symm ▸ within)⟩
  obtain ⟨stations, goes⟩ := ready.goes simulation turns own
  obtain ⟨entries, logged, calm⟩ := logs place ended own
  obtain ⟨sent, filtered, thinned, begins, complete⟩ := logged.of_event
    (goes.increasing.imp UInt64.ne_of_lt) event
  refine ⟨sent, toldIn event entries, ?_, thinned, begins, ?_, fun steadily => ?_⟩
  · have others : ∀ other ≤ ConfigError.maxWorkers, other ≠ place →
        ∀ sent ∈ (last other).sent, sent.1 ≠ event := by
      intro other _ different one member same
      by_cases inside : other < ran.1.length
      · obtain ⟨_, found, _⟩ := logs other _ (List.getElem?_eq_getElem inside)
        obtain ⟨round, among, equal⟩ := found.round_of_sent one member
        exact different (home (List.getElem?_eq_getElem inside) among (equal.trans same))
      · rw [rest other (length ▸ Nat.not_lt.mp inside)] at member
        cases member
    have all : sentIn event ran.2.2 = _ := laid.sentIn_eq (Nat.le_of_lt (within.trans_le few)) others
    rw [all, filtered, List.map_map]
    rfl
  · rintro ⟨its, among, round, member, same, fine⟩
    obtain ⟨other, listed, rfl⟩ := List.mem_map.mp among
    obtain ⟨number, found⟩ := List.getElem?_of_mem listed
    obtain rfl := home found member same
    obtain rfl := Option.some.inj (found.symm.trans own)
    exact complete round member same fine
  · rw [scriptOf, Simulation.toNat_stride (Nat.le_succ_of_le few), calm steadily]

/-- A run that does not come to its events. -/
theorem Dispatched.nothing (stopped : ¬steady) {event : UInt64} {script messages : List Message} :
    Dispatched steady (RunThrough [] event) script messages [] [] where
  thinned := .refl []
  begins := List.nil_prefix
  complete through := by
    obtain ⟨_, none, _⟩ := through
    cases none
  calm steadily := absurd steadily stopped

/-- Which messages are dispatched in an event of a run. -/
theorem Scripted.dispatched {start : σ}
    (scripted : Scripted lens steady start simulation.detectors (acting simulation.detectors)
      (Blueprint.instances simulation.blueprints simulation.detectors))
    (accepted : Accepted simulation.config simulation.detectors) (new : world.bus.New)
    (turns : List Nat) (event : UInt64) :
    ∃ sent told, sentIn event (simulation.notes turns world) =
        sent.map (fun message => (message, "")) ∧
      Dispatched steady (RunThrough (simulation.life turns world).rounds event)
        (scriptOf simulation.detectors simulation.config.pipeline (Config.plan simulation.config)
          event)
        (messagesIn simulation.detectors simulation.config.pipeline simulation.config.seed event)
        sent told := by
  have few : 0 + simulation.config.workers.toNat ≤ ConfigError.maxWorkers + 1 := by
    rw [Nat.zero_add]
    exact Nat.le_succ_of_le accepted.few
  have matrices := fun detector member => (accepted.checked detector member).filled
  have made := scripted.buildLanes (.start new) few matrices fun _ _ => rfl
  rcases built : simulation.buildLanes simulation.config.workers.toNat 0 world with
    ⟨stop | lanes, begun⟩
  · obtain ⟨notes, rounds⟩ := Simulation.events_of_unbuilt turns built
    rw [built] at made
    rw [notes, rounds]
    exact ⟨[], [], rfl, .nothing made⟩
  · rw [built] at made
    obtain ⟨length, benches, staged, ready, _⟩ := made
    have prepared := ready.setUp staged
    rcases stage : (stageInTurn .setUp Behaviour.setUp lanes).finish begun with
      ⟨⟨stop | _, standing⟩, later⟩
    · obtain ⟨notes, rounds⟩ := Simulation.events_of_unprepared turns built stage
      rw [stage] at prepared
      rw [notes, rounds]
      exact ⟨[], [], rfl, .nothing prepared⟩
    · obtain ⟨notes, rounds⟩ := Simulation.events_of_stages turns built stage
      rw [stage] at prepared
      obtain ⟨same, last, staged, ready, _⟩ := prepared
      have count : standing.length = simulation.config.workers.toNat := same.trans length
      rw [notes, rounds, ← Simulation.plan_of_length count]
      exact ready.dispatched staged accepted.apart simulation (count ▸ accepted.working)
        (count ▸ accepted.few) turns event

end Run

end Beamline.Demo
