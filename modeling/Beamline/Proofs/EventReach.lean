import Beamline.Proofs.AbortProtocol

namespace Beamline.Run

variable {σ : Type} {count own : Nat}

/-! ## Where the words end -/

/-- The number after the last event of a number's remainder would be no word: there is such an
event, but no word from the total on has the remainder. -/
def Spills (total : UInt64) (lanes number : Nat) : Prop :=
  number < total.toNat ∧ ∀ word : UInt64, total ≤ word → word.toNat % lanes ≠ number % lanes

namespace Plan

variable {plan : Plan} {event : UInt64}

/-- The same, for the events of a lane from one on. -/
abbrev SpillsFrom (plan : Plan) (event : UInt64) : Prop :=
  Spills plan.total plan.stride.toNat event.toNat

theorem not_spillsFrom_of_late (late : ¬ event < plan.total) : ¬ plan.SpillsFrom event :=
  fun spills => late (UInt64.lt_iff_toNat_lt.mpr spills.1)

private theorem spillsFrom_of_turns (moving : 0 < plan.stride.toNat) (early : event < plan.total)
    (turns : ¬ event < event + plan.stride) : plan.SpillsFrom event := by
  refine ⟨UInt64.lt_iff_toNat_lt.mp early, fun word beyond same => ?_⟩
  have later := UInt64.lt_of_lt_of_le early beyond
  have far := next_le (UInt64.le_of_lt later) (UInt64.ne_of_lt later) same
  have last := turned moving turns
  have small := word.toNat_lt_size
  omega

theorem spillsFrom_next (early : event < plan.total) (onward : event < event + plan.stride) :
    plan.SpillsFrom (event + plan.stride) ↔ plan.SpillsFrom event := by
  have same : (event + plan.stride).toNat % plan.stride.toNat =
      event.toNat % plan.stride.toNat := by
    rw [toNat_next onward, Nat.add_mod_right]
  constructor
  · rintro ⟨_, none⟩
    exact ⟨UInt64.lt_iff_toNat_lt.mp early, same ▸ none⟩
  · rintro ⟨_, none⟩
    refine ⟨?_, same.symm ▸ none⟩
    by_contra late
    exact none _ (UInt64.le_iff_toNat_le.mpr (Nat.not_lt.mp late)) same

theorem overflows_of_spillsFrom (moving : 0 < plan.stride.toNat)
    (spills : plan.SpillsFrom event) : plan.Overflows := by
  -- From event to event of the lane: all but the last one are followed by a word.
  induction event using Plan.eventsFrom.induct plan with
  | case1 event early ih =>
    by_cases onward : event < event + plan.stride
    · exact ih onward ((spillsFrom_next early onward).mpr spills)
    · exact overflows_of_turns moving early onward
  | case2 event late => exact absurd spills (not_spillsFrom_of_late late)

theorem Fits.not_spillsFrom (fits : plan.Fits) : ¬ plan.SpillsFrom event :=
  fun spills => absurd (overflows_of_spillsFrom fits.positive spills) (Nat.not_lt.mpr fits.bounded)

end Plan

/-! ## Events in which nothing touches the flag -/

theorem Process.OfModules.leavesFlag {α : Type} {process : Process α}
    (ofModules : process.OfModules) : process.LeavesFlag fun _ => True :=
  Program.Respects.allow (fun _ => LaneOperation.OfModule.leavesFlag) ofModules

theorem Lane.leavesFlag_runEvent_any (lane : Lane σ) (event seed : UInt64) :
    (lane.runEvent event seed).LeavesFlag fun _ => True := by
  apply (ofModules_callInTurn lane.modules _).leavesFlag.bind
  rintro ⟨result, modules, context⟩ _
  have timed (result : Except Stop Unit) : Process.LeavesFlag
      ((Process.ask .timeEvent).bind fun _ => .done (result, { lane with modules }))
      fun _ => True :=
    (leavesFlag_ask .timeEvent nofun).bind fun _ _ => trivial
  cases result with
  | error stop => exact timed _
  | ok _ =>
    have closed : Process.LeavesFlag (Lane.closeEvent { lane with modules }) fun _ => True := by
      apply (ofModules_firstUnmet modules).leavesFlag.bind
      rintro (_ | ⟨module, error⟩) _
      · apply (ofModules_resetModules modules).leavesFlag.bind
        intro _ _
        apply (leavesFlag_ask (.clearSent lane.id) nofun).bind
        intro _ _
        exact (leavesFlag_ask (.countEvent lane.id) nofun).bind fun _ _ => trivial
      · exact (module.ofModules_recordError .run _).leavesFlag.bind fun _ _ => trivial
    exact closed.bind fun result _ => timed result

/-! ## Loops that nothing stops -/

namespace Chronicle

/-- A chronicle of events that were completed. -/
def Fine (chronicle : Chronicle σ) : Prop :=
  ∀ processed ∈ chronicle.results, processed.2 = .ok ()

theorem not_fine (event : UInt64) (calls : List StageCall) (stop : Stop) (lane : Lane σ) :
    ¬ Chronicle.Fine [.looked false, .processed event calls (.error stop) lane] :=
  fun fine => nomatch fine (event, .error stop) List.mem_cons_self

/-- The chronicle of a loop that nothing stops: no event failed, and the flag was not found
raised. -/
structure Unstopped (chronicle : Chronicle σ) : Prop where
  fine : chronicle.Fine
  unnoticed : .looked true ∉ chronicle

variable {event : UInt64} {calls : List StageCall} {lane : Lane σ} {rest : Chronicle σ}

theorem fine_round :
    Chronicle.Fine (.looked false :: .processed event calls (.ok ()) lane :: rest) ↔ rest.Fine := by
  rw [Fine, results_round, List.forall_mem_cons]
  exact and_iff_right rfl

theorem noticed_round :
    .looked true ∈ (.looked false :: .processed event calls (.ok ()) lane :: rest : Chronicle σ) ↔
      .looked true ∈ rest := by
  simp

theorem unstopped_round :
    Chronicle.Unstopped (.looked false :: .processed event calls (.ok ()) lane :: rest) ↔
      rest.Unstopped := by
  constructor
  · rintro ⟨fine, unnoticed⟩
    exact ⟨fine_round.mp fine, mt noticed_round.mpr unnoticed⟩
  · rintro ⟨fine, unnoticed⟩
    exact ⟨fine_round.mpr fine, mt noticed_round.mp unnoticed⟩

/-- An event of the chronicle was completed after which the number of the next one would be no
word. -/
def Overflows (chronicle : Chronicle σ) (lanes : Nat) : Prop :=
  ∃ event, (event, .ok ()) ∈ chronicle.results ∧ UInt64.size ≤ event.toNat + lanes

end Chronicle

/-- What a loop did from an event on: its end, what happened until then, and the signal it gave. -/
structure Pursued (plan : Plan) (event : UInt64) (processed : Nat) (ended : Except Stop Nat)
    (rest : Chronicle σ) (signal : Signal) : Prop where
  inOrder : rest.results.map Prod.fst <+: plan.eventsFrom event
  through : rest.Unstopped → rest.results.map Prod.fst = plan.eventsFrom event
  completes : rest.Unstopped → ¬ plan.SpillsFrom event →
    ended = .ok (processed + (plan.eventsFrom event).length)
  spills : rest.Unstopped → plan.SpillsFrom event → ended = .error (.fault .addition)
  overflows_iff : rest.Overflows plan.stride.toNat ↔ rest.Unstopped ∧ plan.SpillsFrom event
  noticed : .looked true ∈ rest → signal = .noticed
  raised : signal = .raised → ¬ rest.Fine

namespace Pursued

variable {plan : Plan} {event : UInt64} {processed : Nat} {signal : Signal} {lane : Lane σ}
  {calls : List StageCall}

theorem late (late : ¬ event < plan.total) :
    Pursued plan event processed (.ok processed) ([] : Chronicle σ) .none := by
  have none : plan.eventsFrom event = [] := by rw [Plan.eventsFrom, if_neg late]
  have stays := Plan.not_spillsFrom_of_late late
  constructor
  · exact List.nil_prefix
  · exact fun _ => none.symm
  · exact fun _ _ => by rw [none]; rfl
  · exact fun _ spills => absurd spills stays
  · constructor
    · rintro ⟨_, member, _⟩
      cases member
    · exact fun both => absurd both.2 stays
  · intro member
    cases member
  · intro raised
    cases raised

/-- A loop that is stopped before it completes an event. -/
theorem stopped {ended : Except Stop Nat} {rest : Chronicle σ}
    (stopped : ¬ rest.Unstopped) (none : ∀ event, (event, .ok ()) ∉ rest.results)
    (inOrder : rest.results.map Prod.fst <+: plan.eventsFrom event)
    (noticed : .looked true ∈ rest → signal = .noticed)
    (raised : signal = .raised → ¬ rest.Fine) :
    Pursued plan event processed ended rest signal where
  inOrder := inOrder
  through unstopped := absurd unstopped stopped
  completes unstopped := absurd unstopped stopped
  spills unstopped := absurd unstopped stopped
  overflows_iff := by
    constructor
    · rintro ⟨event, member, _⟩
      exact absurd member (none event)
    · exact fun both => absurd both.1 stopped
  noticed := noticed
  raised := raised

theorem aborted {ended : Except Stop Nat} :
    Pursued plan event processed ended ([.looked true] : Chronicle σ) .noticed := by
  apply stopped
  · exact fun unstopped => unstopped.unnoticed List.mem_cons_self
  · exact fun _ => List.not_mem_nil
  · exact List.nil_prefix
  · exact fun _ => rfl
  · intro raised
    cases raised

theorem failed (early : event < plan.total) {ended : Except Stop Nat} (stop : Stop) :
    Pursued plan event processed ended
      [.looked false, .processed event calls (.error stop) lane] signal := by
  apply stopped
  · exact fun unstopped => Chronicle.not_fine _ _ _ _ unstopped.fine
  · simp
  · rw [Plan.eventsFrom, if_pos early]
    exact List.cons_prefix_cons.mpr ⟨rfl, List.nil_prefix⟩
  · simp
  · exact fun _ => Chronicle.not_fine _ _ _ _

/-- The loop ends where the words do. -/
theorem turned (moving : 0 < plan.stride.toNat) (early : event < plan.total)
    (turns : ¬ event < event + plan.stride) :
    Pursued plan event processed (.error (.fault .addition))
      [.looked false, .processed event calls (.ok ()) lane] .none := by
  have only : plan.eventsFrom event = [event] := by
    rw [Plan.eventsFrom, if_pos early, if_neg turns]
  have spills := Plan.spillsFrom_of_turns moving early turns
  constructor
  · exact only ▸ List.prefix_rfl
  · exact fun _ => only.symm
  · exact fun _ stays => absurd spills stays
  · exact fun _ _ => rfl
  · refine ⟨fun _ => ⟨⟨?_, ?_⟩, spills⟩, fun _ => ⟨event, ?_, Plan.turned moving turns⟩⟩
    · exact Chronicle.fine_round.mpr (List.forall_mem_nil _)
    · simp
    · simp
  · simp
  · intro raised
    cases raised

/-- A round after which the loop goes on. -/
theorem round (early : event < plan.total) (onward : event < event + plan.stride)
    {ended : Except Stop Nat} {rest : Chronicle σ}
    (pursued : Pursued plan (event + plan.stride) (processed + 1) ended rest signal) :
    Pursued plan event processed ended
      (.looked false :: .processed event calls (.ok ()) lane :: rest) signal := by
  have events : plan.eventsFrom event = event :: plan.eventsFrom (event + plan.stride) := by
    rw [Plan.eventsFrom, if_pos early, if_pos onward]
  have here : ¬ UInt64.size ≤ event.toNat + plan.stride.toNat := by
    have small := (event + plan.stride).toNat_lt_size
    rw [Plan.toNat_next onward] at small
    omega
  have spills := Plan.spillsFrom_next early onward
  constructor
  · rw [events, Chronicle.results_round]
    exact List.cons_prefix_cons.mpr ⟨rfl, pursued.inOrder⟩
  · intro unstopped
    rw [events, Chronicle.results_round]
    exact congrArg (event :: ·) (pursued.through (Chronicle.unstopped_round.mp unstopped))
  · intro unstopped stays
    rw [pursued.completes (Chronicle.unstopped_round.mp unstopped) (mt spills.mp stays), events,
      List.length_cons]
    congr 1
    omega
  · intro unstopped ends
    exact pursued.spills (Chronicle.unstopped_round.mp unstopped) (spills.mpr ends)
  · rw [Chronicle.unstopped_round, ← spills, ← pursued.overflows_iff]
    constructor
    · rintro ⟨last, member, far⟩
      rw [Chronicle.results_round, List.mem_cons] at member
      rcases member with same | member
      · obtain ⟨rfl, _⟩ := Prod.mk.inj same
        exact absurd far here
      · exact ⟨last, member, far⟩
    · rintro ⟨last, member, far⟩
      exact ⟨last, List.mem_cons_of_mem _ member, far⟩
  · exact fun member => pursued.noticed (Chronicle.noticed_round.mp member)
  · exact fun raised => mt Chronicle.fine_round.mp (pursued.raised raised)

end Pursued

/-- Whatever its modules and the other lanes do, the event loop of a lane goes on like this. -/
theorem Lane.pursued_tellEvents (within : own < count) {plan : Plan}
    (moving : 0 < plan.stride.toNat) (lane : Lane σ) (event : UInt64) (processed : Nat)
    (past : Chronicle σ) :
    (lane.tellEvents plan event processed past).KeepsSignals count own (fun ended signal =>
      ∃ rest, ended.2 = past ++ rest ∧
        Pursued plan event processed ended.1.1 rest signal) .none := by
  fun_induction Lane.tellEvents plan lane event processed past with
  | case1 lane event processed past early ih =>
    apply Program.Ensures.bind keepsSignals_isAborting
    rintro (isAborting : Bool) signal rfl
    cases isAborting with
    | true => exact ⟨_, rfl, .aborted⟩
    | false =>
      apply Program.Ensures.bind (Lane.ensures_tellEvent
        ((lane.leavesFlag_runEvent_any event plan.seed).keepsSignals .none))
      rintro ⟨⟨result, later⟩, calls⟩ signal ⟨_, rfl⟩
      rcases result with (error | fault) | _
      · apply Program.Ensures.bind (keepsSignals_abort within)
        rintro _ signal rfl
        exact ⟨_, rfl, .failed early _⟩
      · exact ⟨_, rfl, .failed early _⟩
      · by_cases onward : event < event + plan.stride
        · simp only [if_pos onward]
          apply (ih (.ok ()) later calls onward).mono
          rintro ended signal ⟨rest, told, pursued⟩
          refine ⟨.looked false :: .processed event calls (.ok ()) later :: rest, ?_,
            pursued.round early onward⟩
          rw [told, List.append_assoc]
          rfl
        · simp only [if_neg onward]
          exact ⟨_, rfl, .turned moving early onward⟩
  | case2 lane event processed past late =>
    exact ⟨[], (List.append_nil _).symm, .late late⟩

/-! ## By every schedule -/

namespace Simulation

variable {simulation : Simulation σ} {lanes : List (Lane σ)}

section Ended

variable (numbered : lanes.map Lane.id = (List.range lanes.length).map laneOf)
  (few : lanes.length ≤ UInt16.size)

include numbered few

/-- By every schedule, the event loops of all lanes go on like this, and keep the flag and the lanes
together. -/
theorem pursued_ended (some : 0 < lanes.length) (turns : List Nat) (world : World) :
    ∃ (signals : Nat → Signal) (later : World), Signalled lanes.length signals later ∧
      ∀ place loop, (simulation.ended turns lanes world)[place]? = .some loop →
        Pursued (simulation.plan lanes) (laneOf place).index.toUInt64 0 loop.1.1 loop.2
          (signals place) := by
  have stride : (simulation.plan lanes).stride.toNat = lanes.length := toNat_stride few
  have each (place : Nat) (loop : Process (Ended σ))
      (found : (simulation.telling lanes)[place]? = .some loop) :
      loop.KeepsSignals lanes.length place (fun ended signal => ∃ rest, ended.2 = [] ++ rest ∧
        Pursued (simulation.plan lanes) (laneOf place).index.toUInt64 0 ended.1.1 rest signal)
        .none := by
    rw [telling, List.getElem?_map, Option.map_eq_some_iff] at found
    obtain ⟨lane, present, rfl⟩ := found
    rw [← id_of_numbered numbered present]
    exact lane.pursued_tellEvents (List.getElem?_eq_some_iff.mp present).1 (stride ▸ some) _ _ _
  obtain ⟨signals, signalled, good, _⟩ :=
    runScheduled_ensures (signalled_begin lanes.length world) each turns
  refine ⟨signals, _, signalled, fun place loop found => ?_⟩
  obtain ⟨rest, told, pursued⟩ := good place loop found
  rwa [told]

/-- Where no event of any lane fails nobody raises the flag, so nobody finds it raised. -/
theorem unstopped_of_fine (some : 0 < lanes.length) (turns : List Nat) (world : World)
    (fine : ∀ chronicle ∈ simulation.chronicles turns lanes world, chronicle.Fine) :
    ∀ chronicle ∈ simulation.chronicles turns lanes world, chronicle.Unstopped := by
  obtain ⟨signals, later, signalled, pursued⟩ :=
    @pursued_ended _ simulation lanes numbered few some turns world
  rw [forall_chronicles] at fine ⊢
  -- A lane that found the flag raised knows of one that raised it, after an event that failed.
  refine fun loop member => ⟨fine loop member, fun noticed => ?_⟩
  obtain ⟨place, found⟩ := List.mem_iff_getElem?.mp member
  have aborting := signalled.lasting place ((pursued place loop found).noticed noticed)
  obtain ⟨other, within, raised⟩ := signalled.raised aborting
  have present := List.getElem?_eq_getElem (l := simulation.ended turns lanes world)
    ((length_ended turns world).symm ▸ within)
  exact (pursued other _ present).raised raised (fine _ (List.mem_of_getElem? present))

end Ended

end Simulation

end Beamline.Run
