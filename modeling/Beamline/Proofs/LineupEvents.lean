import Beamline.Proofs.Lineups

namespace Beamline.Demo

open Bus Run

/-- What a lane dispatched in some rounds: in each one the messages of its event in order, up to the
call that stopped early if there was one, and without some tracks and particles. -/
inductive Logged (messages : UInt64 → List Message) :
    List Round → List (UInt64 × List Message) → List (UInt64 × Message) → Prop
  | nil : Logged messages [] [] []
  | snoc {rounds : List Round} {entries : List (UInt64 × List Message)}
      {sent : List (UInt64 × Message)} {round : Round} {part told : List Message}
      (earlier : Logged messages rounds entries sent) (thinned : Thinned part told)
      (begins : told <+: messages round.event)
      (complete : (∀ call ∈ round.calls, call.result = .ok ()) → told = messages round.event) :
      Logged messages (rounds ++ [round]) (entries ++ [(round.event, told)])
        (sent ++ part.map fun message => (round.event, message))

section Lineup

variable {σ : Type} {lens : CounterLens σ} {steady : Prop} {own : Nat} {detectors : List Detector}
  {pipeline : Pipeline} {others core : List Handle} {duties : List Duty}
  {modules : List (Module σ)} {bench : Bench} {event : UInt64}

/-! ## Requirements -/

/-- After a complete event every required slot of the chain holds a message. -/
theorem Plays.satisfied {tally : Nat} {lane : LaneId} {role : Role} {inner : Module Counters}
    (plays : Plays tally lane detectors pipeline role inner) (among : role ∈ acting detectors)
    {event : Event} (covers : event.Covers detectors) {handle : Handle}
    (member : handle ∈ inner.bindings.handles) (required : handle.isRequired = true) :
    ∃ slot, handle.place = .slot slot ∧
      (event.messages.filter fun message => handle.Takes lane message) ≠ [] := by
  cases plays with
  | generator state identity unnamed => cases member
  | transfer state detector identity unnamed id slot kind payload =>
    cases List.mem_singleton.mp member
    cases required
  | digitizer state detector identity unnamed id slot kind payload =>
    cases List.mem_singleton.mp member
    have listed : detector ∈ detectors := by simpa [acting] using among
    obtain ⟨message, sent, type, suits⟩ := covers.exists_charges listed
    refine ⟨slot, rfl, List.ne_nil_of_mem (List.mem_filter.mpr ⟨sent, ?_⟩)⟩
    exact decide_eq_true (unnamed.takes_iff_suits.mpr ⟨type.trans payload.symm, suits⟩)
  | reader state identity unnamed => simp [acting] at among
  | monitor state identity unnamed => simp [acting] at among

/-- The modules of a steady lane find what they require. -/
theorem Lineup.filled
    (lineup : Lineup lens steady own detectors pipeline others duties core modules)
    (calm : steady) {event : Event}
    (covers : event.Covers detectors) (held : ∀ handle ∈ core, handle ∈ bench.core ∧
      bench.held handle = event.messages.filter fun message => handle.Takes (laneOf own) message) :
    ∀ module ∈ modules, ∀ handle ∈ module.bindings.handles, handle.isRequired = true →
      handle ∈ bench.core ∧ ∃ slot, handle.place = .slot slot ∧ bench.held handle ≠ [] := by
  induction lineup with
  | nil => simp
  | watch onlooker further ih =>
    refine List.forall_mem_cons.mpr ⟨fun handle member required => ?_, ih held⟩
    obtain ⟨mine, _, _, bound, _, _, free⟩ := onlooker.watching
    cases required.symm.trans (free calm handle (bound handle member))
  | act acts further ih =>
    refine List.forall_mem_cons.mpr ⟨fun handle member required => ?_, ih fun handle member =>
      held handle (List.mem_append_right _ member)⟩
    obtain ⟨among, holds⟩ := held handle (List.mem_append_left _ member)
    obtain ⟨inner, plays, bindings, _⟩ := acts.plays
    obtain ⟨slot, place, some⟩ := plays.satisfied acts.among covers (bindings ▸ member) required
    exact ⟨among, slot, place, holds ▸ some⟩

/-! ## The end of an event -/

private theorem Lineup.keepsBenches_resetModules
    (lineup : Lineup lens steady own detectors pipeline others duties core modules)
    (small : own ≤ ConfigError.maxWorkers) (known : ∀ handle ∈ others, handle ∈ bench.others)
    (held : ∀ handle ∈ core, handle ∈ bench.core) :
    (resetModules modules).KeepsBenches steady own (fun _ after => Cleared core bench after)
      bench := by
  induction lineup generalizing bench with
  | nil => exact .refl bench
  | watch onlooker further ih =>
    apply Program.Ensures.bind ((onlooker.mono known).keepsBenches_reset small)
    rintro _ _ rfl
    exact ih known held
  | act acts further ih =>
    have mine := fun handle member => held handle (List.mem_append_left _ member)
    have later := fun handle member => held handle (List.mem_append_right _ member)
    apply Program.Ensures.bind (keepsBenches_reset small mine)
    rintro _ _ rfl
    refine Program.Ensures.mono (fun _ _ cleared => ?_) (ih known later)
    exact (cleared_emptied _).trans cleared

/-- A lane between two events. -/
structure Resting (lens : CounterLens σ) (steady : Prop) (own : Nat) (detectors : List Detector)
    (pipeline : Pipeline) (duties : List Duty) (bench : Bench) (lane : Lane σ) : Prop where
  id : lane.id = laneOf own
  roles : duties.map Duty.role = acting detectors
  lineup : Lineup lens steady own detectors pipeline bench.others duties bench.core lane.modules
  empty : ∀ handle ∈ bench.core, bench.held handle = []

private theorem keepsBenches_closeEvent {lane : Lane σ} (id : lane.id = laneOf own)
    (roles : duties.map Duty.role = acting detectors)
    (lineup : Lineup lens steady own detectors pipeline bench.others duties bench.core lane.modules)
    (small : own ≤ ConfigError.maxWorkers) {event : Event} (covers : event.Covers detectors)
    (held : ∀ handle ∈ bench.core, bench.held handle =
      event.messages.filter fun message => handle.Takes (laneOf own) message) :
    lane.closeEvent.KeepsBenches steady own (fun result after =>
      (result = .ok () → Resting lens steady own detectors pipeline duties after lane) ∧
        after.sent = bench.sent ∧ (steady → result = .ok ())) bench := by
  have filled := fun calm : steady => lineup.filled calm covers
    fun handle member => ⟨member, held handle member⟩
  apply Program.Ensures.bind (keepsBenches_firstUnmet small filled)
  rintro (_ | ⟨module, error⟩) _ ⟨rfl, met⟩
  · apply Program.Ensures.bind
      (lineup.keepsBenches_resetModules small (fun _ member => member) fun _ member => member)
    rintro _ after cleared
    apply Program.Ensures.bind (@keepsBenches_still steady own after (.clearSent lane.id)
      (fun _ => rfl) (fun _ => ⟨rfl, rfl, rfl, rfl⟩) fun _ _ => rfl)
    rintro _ _ rfl
    apply Program.Ensures.bind (@keepsBenches_still steady own _ (.countEvent lane.id)
      (fun _ => rfl) (fun _ => ⟨rfl, rfl, rfl, rfl⟩) fun _ _ => rfl)
    rintro _ after rfl
    refine ⟨fun _ => ⟨id, roles, ?_, fun handle member => ?_⟩, cleared.sent, fun _ => rfl⟩
    · rw [cleared.core, cleared.others]
      exact lineup
    · rw [cleared.core] at member
      exact cleared.held handle member (.inl member)
  · apply Program.Ensures.bind (keepsBenches_recordError module .run (.bus error))
    rintro _ _ rfl
    refine ⟨?_, rfl, fun calm => ?_⟩
    · rintro ⟨⟩
    · cases met calm

/-! ## Events -/

def messagesIn (detectors : List Detector) (pipeline : Pipeline) (seed event : UInt64) :
    List Message :=
  (Event.ofNumber detectors pipeline seed event).messages

/-- What an event comes to in a lane, given what its modules with duties come to alone. -/
structure Told (lens : CounterLens σ) (steady : Prop) (own : Nat) (detectors : List Detector)
    (pipeline : Pipeline) (bench : Bench) (event : UInt64) (messages : List Message)
    (performed : List Message × Except Fault (List Duty))
    (ended : (Except Stop Unit × Lane σ) × List StageCall) (after : Bench) : Prop where
  sent : ∃ some told, after.sent = bench.sent ++ some.map (fun message => (event, message)) ∧
    Thinned some told ∧ told <+: messages ∧
    ((∀ call ∈ ended.2, call.result = .ok ()) → told = messages) ∧ (steady → told = performed.1)
  resting : ended.1.1 = .ok () → ∃ later, performed.2 = .ok later ∧
    Resting lens steady own detectors pipeline later after ended.1.2
  calm : steady → ended.1.1 = endOf performed.2

private theorem Resting.keepsBenches_tellEvent {lane : Lane σ}
    (resting : Resting lens steady own detectors pipeline duties bench lane)
    (small : own ≤ ConfigError.maxWorkers) (apart : (detectors.map Detector.name).Nodup)
    (event seed : UInt64) :
    (lane.tellEvent event seed).KeepsBenches steady own
      (Told lens steady own detectors pipeline bench event
        (messagesIn detectors pipeline seed event)
        (perform detectors pipeline duties [] (.ofEvent seed event))) bench := by
  obtain ⟨id, roles, lineup, empty⟩ := resting
  have reached : Reached bench (laneOf own) event [] bench := .start empty
  have ran := lineup.keepsBenches_tellInTurn small (fun _ member => member)
    (lineup.equipment roles) (fun _ member => member) (uncharged_nil _)
    (roles ▸ transfersApart_acting apart) reached (.ofEvent seed event) 0
  have played := @perform_prefix_play detectors pipeline duties []
    (.ofEvent seed event)
  rw [roles, play_acting apart] at played
  generalize perform detectors pipeline duties [] (.ofEvent seed event) = performed at ran played ⊢
  obtain ⟨bounded, whole⟩ := played
  rw [← id] at ran
  apply Program.Ensures.bind ran
  rintro ⟨⟨result, modules, context⟩, calls⟩ middle
    ⟨⟨more, told, reached, begins, steadily, all⟩, called, calm⟩
  obtain ⟨some, thinned, sent⟩ := reached.sent
  rw [Bench.join] at sent
  rcases result with stop | _
  · apply Program.Ensures.bind (@keepsBenches_still steady own middle .timeEvent
      (fun _ => rfl) (fun _ => ⟨rfl, rfl, rfl, rfl⟩) fun _ _ => rfl)
    rintro _ _ rfl
    have failed (fine : ∀ call ∈ calls, call.result = .ok ()) :
        told = messagesIn detectors pipeline seed event := by
      cases called.mp fine
    exact ⟨⟨some, told, sent, thinned, begins.trans bounded, failed, steadily⟩, by rintro ⟨⟩, calm⟩
  · obtain ⟨rfl, later, kept, after⟩ := all rfl
    obtain ⟨complete, same⟩ := whole later kept
    rw [← reached.others] at after
    have closed := @keepsBenches_closeEvent σ lens steady own detectors pipeline later middle
      { lane with modules } id (same.trans rfl) (reached.core ▸ after) small
      (Event.ofNumber detectors pipeline seed event) (Event.covers_draw ..) fun handle member =>
        (reached.held handle (reached.core ▸ member)).trans (complete ▸ rfl)
    apply Program.Ensures.bind closed
    rintro result last ⟨rested, same, closing⟩
    apply Program.Ensures.bind (@keepsBenches_still steady own last .timeEvent
      (fun _ => rfl) (fun _ => ⟨rfl, rfl, rfl, rfl⟩) fun _ _ => rfl)
    rintro _ _ rfl
    refine ⟨⟨some, _, same.trans sent, thinned, bounded, fun _ => complete, fun _ => rfl⟩,
      fun fine => ⟨later, kept, rested fine⟩, fun going => ?_⟩
    exact (closing going).trans (kept ▸ rfl)

/-- A lane logs its messages round by round. What a steady one dispatches follows from the duties of
its modules. -/
theorem Resting.keepsBenches_tellEvents {lane : Lane σ}
    (resting : Resting lens steady own detectors pipeline duties bench lane)
    (small : own ≤ ConfigError.maxWorkers) (apart : (detectors.map Detector.name).Nodup)
    (plan : Plan) (event : UInt64) (processed : Nat) {past : Chronicle σ}
    {entries : List (UInt64 × List Message)}
    (logged : Logged (messagesIn detectors pipeline plan.seed) past.rounds entries bench.sent) :
    (lane.tellEvents plan event processed past).KeepsBenches steady own (fun ended after =>
      ∃ more, Logged (messagesIn detectors pipeline plan.seed) ended.2.rounds (entries ++ more)
          after.sent ∧
        (steady → more = toldFrom detectors pipeline plan duties event)) bench := by
  fun_induction Lane.tellEvents plan lane event processed past generalizing bench duties entries with
  | case1 lane event processed past early ih =>
    have looked : (Process.ask .isAborting).KeepsBenches steady own
        (fun isAborting after => after = bench ∧ (steady → isAborting = false)) bench :=
      keepsBenches_idle (fun _ => rfl) (fun _ => ⟨rfl, rfl, rfl, rfl⟩) (fun _ _ => rfl)
        fun _ _ _ _ layout _ => ⟨rfl, layout.going⟩
    apply looked.bind
    rintro (isAborting : Bool) _ ⟨rfl, going⟩
    cases isAborting with
    | true =>
      refine ⟨[], ?_, fun calm => Bool.noConfusion (going calm)⟩
      rw [List.append_nil, Chronicle.rounds_looked]
      exact logged
    | false =>
      apply (resting.keepsBenches_tellEvent small apart event plan.seed).bind
      rintro ⟨⟨result, later⟩, calls⟩ after
        ⟨⟨some, told, sent, thinned, begins, complete, steadily⟩, rested, calm⟩
      dsimp only at complete rested calm ⊢
      let milestones : Chronicle σ := [.looked false, .processed event calls result later]
      have longer : Logged (messagesIn detectors pipeline plan.seed)
          (Chronicle.rounds (past ++ milestones)) (entries ++ [(event, told)]) after.sent := by
        rw [Chronicle.rounds_processed, sent]
        exact logged.snoc thinned begins complete
      let performed := perform detectors pipeline duties [] (.ofEvent plan.seed event)
      rcases result with (error | fault) | _
      · have wild (going : steady) : False := by
          have ends := calm going
          cases kept : performed.2 <;> rw [kept] at ends <;> cases ends
        apply (@keepsBenches_still steady own after .abort (fun _ => rfl)
          (fun _ => ⟨rfl, rfl, rfl, rfl⟩) fun _ going => (wild going).elim).bind
        rintro _ _ rfl
        exact ⟨[(event, told)], longer, fun going => (wild going).elim⟩
      · refine ⟨[(event, told)], longer, fun going => ?_⟩
        have ends := calm going
        cases kept : performed.2 with
        | error fault => exact (toldFrom_of_fault early (Prod.ext (steadily going).symm kept)).symm
        | ok later =>
          rw [kept] at ends
          cases ends
      · obtain ⟨kept, same, rested⟩ := rested rfl
        have script (going : steady) :=
          toldFrom_of_ok early (Prod.ext (steadily going).symm same : performed = (told, .ok kept))
        by_cases onward : event < event + plan.stride
        · simp only [if_pos onward] at script ⊢
          apply (ih (.ok ()) later calls onward rested longer).mono
          rintro ended last ⟨more, logged, others⟩
          rw [List.append_assoc] at logged
          refine ⟨(event, told) :: more, logged, fun going => ?_⟩
          rw [script going, others going]
        · simp only [if_neg onward] at script ⊢
          exact ⟨[(event, told)], longer, fun going => (script going).symm⟩
  | case2 lane event processed past late =>
    exact ⟨[], (List.append_nil _).symm ▸ logged, fun _ => (toldFrom_of_late late).symm⟩

end Lineup

end Beamline.Demo
