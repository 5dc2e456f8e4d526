import Beamline.Proofs.DemoCrew

namespace Beamline.Demo

open Bus Run

/-! ## The messages that the slots hold -/

section Held

variable {detectors : List Detector} {event : Event} {charged : List Shot} {read : List Readout}
  {sent : List (UInt64 × Message)} {number : UInt64} {lane : LaneId} {handle : Handle}
  {type : PayloadType} {detector : Detector} {shot : Shot}

private theorem held_of_type (takes : ∀ message, handle.Takes lane message ↔ message.type = type) :
    (View.during sent lane number (event.messagesUntil charged read)).held handle =
      event.messagesOf charged read type := by
  rw [View.during_held]
  simp only [takes]
  exact event.filter_messagesUntil charged read type

theorem held_of_suits (takes : ∀ message, handle.Takes lane message ↔
      message.type = type ∧ Suits detector message) :
    (View.during sent lane number (event.messagesUntil charged read)).held handle =
      (event.messagesOf charged read type).filter fun message => Suits detector message := by
  rw [View.during_held, ← event.filter_messagesUntil, List.filter_filter]
  apply List.filter_congr
  intro message _
  simp [takes, Bool.and_comm]

theorem filter_suits {message : Shot → Message}
    (about : ∀ shot, (message shot).detector = some shot.detector) (shots : List Shot) :
    ((shots.map message).filter fun message => Suits detector message) =
      (shots.filter fun shot => detector.name = shot.detector.name).map message := by
  rw [List.filter_map]
  congr 1
  apply List.filter_congr
  intro shot _
  simp [Suits, about]

variable (covers : event.Covers detectors) (apart : (detectors.map Detector.name).Nodup)

include covers apart

theorem Event.Covers.names_nodup :
    (event.shots.map fun shot => shot.detector.name).Nodup := by
  have names := congrArg (List.map Detector.name) covers.shots
  rw [List.map_map] at names
  exact names ▸ apart

theorem held_own (message : Shot → Message)
    (about : ∀ shot, (message shot).detector = some shot.detector)
    (sends : event.messagesOf charged read type = event.shots.map message)
    (takes : ∀ message, handle.Takes lane message ↔
      message.type = type ∧ Suits shot.detector message) (member : shot ∈ event.shots) :
    (View.during sent lane number (event.messagesUntil charged read)).held handle =
      [message shot] := by
  rw [held_of_suits takes, sends, filter_suits about,
    filter_key_eq (covers.names_nodup apart) member]
  rfl

private theorem held_before_charges {rest : List Shot}
    (split : event.shots = charged ++ shot :: rest)
    (takes : ∀ message, handle.Takes lane message ↔
      message.type = .pixelCharge ∧ Suits detector message)
    (same : detector.name = shot.detector.name) :
    (View.during sent lane number (event.messagesUntil charged read)).held handle = [] := by
  have names := covers.names_nodup apart
  rw [split, List.map_append, List.map_cons, List.nodup_append] at names
  rw [held_of_suits takes, Event.messagesOf, filter_suits fun _ => rfl, List.map_eq_nil_iff,
    List.filter_eq_nil_iff]
  intro earlier member
  rw [decide_eq_true_eq, same, eq_comm]
  exact names.2.2 _ (List.mem_map_of_mem member) _ List.mem_cons_self

end Held

/-! ## Modules with and without room -/

/-- The counters of modules have room for what the modules count. -/
def Room (modules : List (Module Counters)) (gains : List Totals) : Prop :=
  List.Forall₂ (fun module gain => module.state.Holds gain) modules gains

/-- A module completes an event if it has room for what it counts, and otherwise meets a fault. -/
structure Attempts (tally : Nat) (live : List Handle) (lane : LaneId) (event : UInt64)
    (module : Module Counters) (gain : Totals) (stream : Random.Stream) (view : View)
    (middle : Random.Stream) (seen : View) : Prop where
  ends : module.state.Holds gain → Ends tally live lane
    (module.call (module.behaviour.run event) (some { event, stream })) view
    (.ok (), counted module gain, some { event, stream := middle }) seen
  faults : ¬module.state.Holds gain → ∃ stopped context after, Ends tally live lane
    (module.call (module.behaviour.run event) (some { event, stream })) view
    (.error (.fault .addition), stopped, context) after

/-- Modules attempt an event one after the other. -/
inductive AttemptsAll (tally : Nat) (live : List Handle) (lane : LaneId) (event : UInt64) :
    List (Module Counters) → List Totals → Random.Stream → View → Random.Stream → View → Prop
  | nil (stream : Random.Stream) (view : View) :
    AttemptsAll tally live lane event [] [] stream view stream view
  | cons {module : Module Counters} {gain : Totals} {rest : List (Module Counters)}
      {gains : List Totals} {stream middle last : Random.Stream} {view seen final : View}
      (first : Attempts tally live lane event module gain stream view middle seen)
      (further : AttemptsAll tally live lane event rest gains middle seen last final) :
    AttemptsAll tally live lane event (module :: rest) (gain :: gains) stream view last final

namespace AttemptsAll

variable {tally : Nat} {live : List Handle} {lane : LaneId} {event : UInt64}
  {modules others : List (Module Counters)} {gains more : List Totals}
  {stream middle last : Random.Stream} {view seen final : View}

theorem append (first : AttemptsAll tally live lane event modules gains stream view middle seen)
    (second : AttemptsAll tally live lane event others more middle seen last final) :
    AttemptsAll tally live lane event (modules ++ others) (gains ++ more) stream view last
      final := by
  induction first with
  | nil stream view => exact second
  | cons head further ih => exact .cons head (ih second)

theorem passes (attempts : AttemptsAll tally live lane event modules gains stream view last final)
    (room : Room modules gains) : Passes tally live lane event modules stream view
      (List.zipWith counted modules gains) last final := by
  induction attempts with
  | nil stream view => exact .nil stream view
  | cons head further ih =>
    obtain ⟨first, others⟩ := List.forall₂_cons.mp room
    exact .cons (head.ends first) (ih others)

theorem faults (attempts : AttemptsAll tally live lane event modules gains stream view last final)
    (crowded : ¬Room modules gains) :
    Faults tally live lane event .addition modules stream view := by
  induction attempts with
  | nil stream view => exact absurd .nil crowded
  | @cons module gain _ _ _ _ _ _ _ _ head further ih =>
    by_cases first : module.state.Holds gain
    · have rest := ih fun others => crowded (.cons first others)
      exact (Passes.cons (head.ends first) (.nil _ _)).faults rest
    · obtain ⟨stopped, context, after, ended⟩ := head.faults first
      exact faults_cons ended _

end AttemptsAll

/-! ## The modules in an event -/

section Event

variable {tally : Nat} {live : List Handle} {detectors : List Detector} {pipeline : Pipeline}
  {lane : LaneId} {modules : List (Module Counters)} {event : Event}
  (crewed : Crewed tally live detectors pipeline lane modules) (covers : event.Covers detectors)
  (number : UInt64) (sent : List (UInt64 × Message))

theorem Attempts.of_ends {module : Module Counters} {gain : Totals}
    {stream middle : Random.Stream} {view seen : View}
    (ends : Ends tally live lane
      (module.call (module.behaviour.run number) (some { event := number, stream })) view
      (.ok (), counted module gain, some { event := number, stream := middle }) seen)
    (lost : gain.lostCharge = 0) (received : gain.chargeRead = 0) :
    Attempts tally live lane number module gain stream view middle seen where
  ends _ := ends
  faults overflows := absurd (Counters.holds_of_free lost received) overflows

include crewed covers

private theorem Crewed.attempts_transfer {module : Module Counters} (member : module ∈ modules)
    (stream : Random.Stream) {charged rest : List Shot} {shot : Shot}
    (split : event.shots = charged ++ shot :: rest)
    (plays : Plays tally lane detectors pipeline (.transfer shot.detector) module) :
    Attempts tally live lane number module shot.transferGain
      stream (.during sent lane number (event.messagesUntil charged []))
      stream (.during sent lane number (event.messagesUntil (charged ++ [shot]) [])) := by
  cases plays with
  | transfer state detector identity unnamed id slot kind payload =>
    have listed : shot ∈ event.shots := split ▸ List.mem_append_right _ List.mem_cons_self
    have filled := crewed.matrices shot.detector (covers.shots ▸ List.mem_map_of_mem listed)
    obtain ⟨registered, own⟩ := crewed.mine member _ List.mem_cons_self
    have takes (message : Message) : (Handle.ofSlot id identity slot {}).Takes lane message ↔
        message.type = .deposit ∧ Suits shot.detector message :=
      payload ▸ unnamed.takes_iff_suits
    have held : (View.during sent lane number (event.messagesUntil charged [])).held _ = _ :=
      held_own covers crewed.apart Shot.depositsMessage (fun _ => rfl) rfl takes listed
    have free : (crewed.situation member number).Free
        (.during sent lane number (event.messagesUntil charged [])) shot.chargesMessage := by
      intro handle present takes storage place single
      obtain ⟨receiver, only⟩ := crewed.digitizer_of_single present takes.1 place single
      have same : receiver.name = shot.detector.name := ((only _).mp takes).2 _ rfl
      exact held_before_charges covers crewed.apart split only same
    rw [← Event.messagesUntil_charge, View.during_append]
    exact {
      ends := fun holds => (@Transfer.leads_run (crewed.situation member number) _ slot shot
        { state, stream, view := .during .. } filled registered own rfl held holds free).call rfl rfl
      faults := fun overflows => by
        obtain ⟨after, stopped⟩ := @Transfer.stops_run (crewed.situation member number) _ slot shot
          { state, stream, view := .during .. } filled registered own rfl held overflows
        exact ⟨_, _, _, stopped.call rfl rfl⟩ }

private theorem Crewed.attempts_transfers (stream : Random.Stream) {charged later : List Shot}
    (split : event.shots = charged ++ later) {transfers : List (Module Counters)}
    (among : ∀ module ∈ transfers, module ∈ modules)
    (plays : List.Forall₂ (Plays tally lane detectors pipeline)
      (later.map fun shot => .transfer shot.detector) transfers) :
    AttemptsAll tally live lane number transfers (later.map Shot.transferGain)
      stream (.during sent lane number (event.messagesUntil charged []))
      stream (.during sent lane number (event.messagesUntil event.shots [])) := by
  induction later generalizing charged transfers with
  | nil =>
    cases plays
    rw [split, List.append_nil]
    exact .nil _ _
  | cons shot rest ih =>
    cases plays with
    | cons first further =>
      have ran := crewed.attempts_transfer covers number sent (among _ List.mem_cons_self) stream
        split first
      refine .cons ran (ih (by simp [split]) (fun other present => ?_) further)
      exact among other (List.mem_cons_of_mem _ present)

private theorem Crewed.attempts_digitizer {module : Module Counters} (member : module ∈ modules)
    (stream : Random.Stream) (read : List Readout) {shot : Shot} (listed : shot ∈ event.shots)
    (plays : Plays tally lane detectors pipeline (.digitizer shot.detector) module) :
    let drawn := shot.readout pipeline stream
    Attempts tally live lane number module drawn.1.gain
      stream (.during sent lane number (event.messagesUntil event.shots read))
      drawn.2 (.during sent lane number (event.messagesUntil event.shots (read ++ [drawn.1]))) := by
  intro drawn
  cases plays with
  | digitizer state detector identity unnamed id slot kind payload =>
    obtain ⟨registered, own⟩ := crewed.mine member _ List.mem_cons_self
    have takes (message : Message) :
        (Handle.ofSlot id identity slot { required := true }).Takes lane message ↔
          message.type = .pixelCharge ∧ Suits shot.detector message :=
      payload ▸ unnamed.takes_iff_suits
    have held : (View.during sent lane number (event.messagesUntil event.shots read)).held _ = _ :=
      held_own covers crewed.apart Shot.chargesMessage (fun _ => rfl) rfl takes listed
    have ran := @Digitizer.leads_run _ (crewed.plain member number) pipeline _ slot shot
      { state, stream, view := .during .. } registered own rfl held
    rw [← Event.messagesUntil_hit, View.during_append]
    exact .of_ends number (ran.call rfl rfl) rfl rfl

private theorem Crewed.attempts_digitizers {stream : Random.Stream} {read : List Readout}
    {later : List Shot} (split : event.shots = read.map Readout.shot ++ later)
    {digitizers : List (Module Counters)} (among : ∀ module ∈ digitizers, module ∈ modules)
    (plays : List.Forall₂ (Plays tally lane detectors pipeline)
      (later.map fun shot => .digitizer shot.detector) digitizers) :
    let drawn := later.mapM (Shot.readout pipeline) stream
    AttemptsAll tally live lane number digitizers (drawn.1.map Readout.gain)
      stream (.during sent lane number (event.messagesUntil event.shots read))
      drawn.2 (.during sent lane number (event.messagesUntil event.shots (read ++ drawn.1))) := by
  induction later generalizing stream read digitizers with
  | nil =>
    cases plays
    change AttemptsAll tally live lane number [] [] stream _ stream
      (.during sent lane number (event.messagesUntil event.shots (read ++ [])))
    rw [List.append_nil]
    exact .nil _ _
  | cons shot rest ih =>
    cases plays with
    | cons first further =>
      have listed : shot ∈ event.shots := split ▸ List.mem_append_right _ List.mem_cons_self
      have ran := crewed.attempts_digitizer covers number sent (among _ List.mem_cons_self) stream
        read listed first
      have others := @ih (shot.readout pipeline stream).2
        (read ++ [(shot.readout pipeline stream).1])
        (by rw [split, List.map_append, List.append_assoc]; rfl) _
        (fun other present => among other (List.mem_cons_of_mem _ present)) further
      simp only [List.append_assoc] at others
      rw [List.mapM_cons]
      exact .cons ran others

omit covers

private theorem Crewed.attempts_reader {module : Module Counters} (member : module ∈ modules)
    (stream : Random.Stream) (read : List Readout)
    (plays : Plays tally lane detectors pipeline .reader module) :
    Attempts tally live lane number module event.readerGain
      stream (.during sent lane number (event.messagesUntil event.shots read))
      stream (.during sent lane number (event.messagesUntil event.shots read)) := by
  cases plays with
  | reader state identity unnamed first second deposits particles depositsKind depositsPayload
      particlesKind particlesPayload =>
    obtain ⟨registered, own⟩ := crewed.mine member _ List.mem_cons_self
    have takes (message : Message) : (Handle.ofSlot first identity deposits {}).Takes lane message ↔
        message.type = .deposit := depositsPayload ▸ unnamed.takes_iff
    have held : (View.during sent lane number (event.messagesUntil event.shots read)).held _ = _ :=
      held_of_type takes
    exact {
      ends := fun holds => (@Reader.leads_run (crewed.situation member number) event _ deposits
        { state, stream, view := .during .. } registered own rfl held holds).call rfl rfl
      faults := fun overflows => by
        obtain ⟨after, stopped⟩ := @Reader.stops_run (crewed.situation member number) event _
          deposits { state, stream, view := .during .. } registered own rfl held overflows
        exact ⟨_, _, _, stopped.call rfl rfl⟩ }

private theorem Crewed.attempts_monitor {module : Module Counters} (member : module ∈ modules)
    (stream : Random.Stream) (view : View)
    (plays : Plays tally lane detectors pipeline .monitor module) :
    Attempts tally live lane number module 0 stream view stream view := by
  cases plays with
  | monitor state identity unnamed id filter =>
    have ran := @Situation.leads_pure (crewed.situation member number) Counters Unit
      { state := state.plus 0, stream, view } ()
    exact .of_ends number (ran.call rfl (Counters.plus_zero state)) rfl rfl

private theorem Crewed.attempts_generator {module : Module Counters} (member : module ∈ modules)
    {stream middle : Random.Stream}
    (drawn : Event.drawShots detectors pipeline stream = ((event.tracks, event.shots), middle))
    (plays : Plays tally lane detectors pipeline .generator module) :
    Attempts tally live lane number module event.generatorGain
      stream (.during sent lane number [])
      middle (.during sent lane number (event.messagesUntil [] [])) := by
  have messages : event.messagesUntil [] [] = event.generated := by simp [Event.messagesUntil]
  cases plays with
  | generator state identity unnamed =>
    have ran := Generator.leads_run (crewed.plain member number) pipeline detectors
      { state, stream, view := .during sent lane number [] }
    simp only [drawn] at ran
    rw [messages]
    exact .of_ends number (ran.call rfl rfl) rfl rfl

end Event

section Lane

variable {tally : Nat} {live : List Handle} {detectors : List Detector} {pipeline : Pipeline}
  {lane : LaneId} {modules : List (Module Counters)}

/-- The modules of a lane attempt every event that begins with empty storage. -/
theorem Crewed.attempts (crewed : Crewed tally live detectors pipeline lane modules)
    (seed number : UInt64) (sent : List (UInt64 × Message)) : ∃ last,
      AttemptsAll tally live lane number modules
        (Event.ofNumber detectors pipeline seed number).gains
        (.ofEvent seed number) (.during sent lane number []) last
        (.during sent lane number (Event.ofNumber detectors pipeline seed number).messages) := by
  obtain ⟨middle, last, shot, readout⟩ := Event.ofNumber_drawn detectors pipeline seed number
  have covers : (Event.ofNumber detectors pipeline seed number).Covers detectors :=
    Event.covers_draw detectors pipeline _
  generalize Event.ofNumber detectors pipeline seed number = event at shot readout covers ⊢
  obtain ⟨generator, _, generates, others, rfl⟩ := List.forall₂_cons_left_iff.mp crewed.plays
  obtain ⟨_, _, chained, ending, rfl⟩ := forall₂_append_left others
  obtain ⟨transfers, digitizers, transfer, digitize, rfl⟩ := forall₂_append_left chained
  cases ending with
  | @cons _ reader _ _ reads ending =>
  cases ending with
  | @cons _ monitor _ _ watches ending =>
  cases ending
  have of_shots (role : Detector → Role) :
      detectors.map role = event.shots.map fun shot => role shot.detector := by
    rw [← covers.shots, List.map_map]
    rfl
  rw [of_shots] at transfer digitize
  have first := crewed.attempts_generator number sent List.mem_cons_self shot generates
  have second := crewed.attempts_transfers covers number sent middle (List.nil_append _).symm
    (by simp +contextual) transfer
  have third := @Crewed.attempts_digitizers _ _ _ _ _ _ _ crewed covers number sent middle [] _
    (List.nil_append event.shots).symm _ (by simp +contextual) digitize
  simp only [readout, List.nil_append] at third
  have fourth := @Crewed.attempts_reader _ _ _ _ _ _ event crewed number sent _ (by simp) last
    event.readouts reads
  have fifth := crewed.attempts_monitor number (by simp) last
    (.during sent lane number event.messages) watches
  exact ⟨last, .cons first
    ((second.append third).append (.cons fourth (.cons fifth (.nil _ _))))⟩

theorem bindings_counted {gains : List Totals} (enough : modules.length = gains.length) :
    (List.zipWith counted modules gains).map Module.bindings = modules.map Module.bindings := by
  induction modules generalizing gains with
  | nil => rfl
  | cons module rest ih =>
    cases gains with
    | nil => cases enough
    | cons gain others => exact congrArg (_ :: ·) (ih (Nat.succ.inj enough))

private theorem plays_counted {played : List Role}
    (plays : List.Forall₂ (Plays tally lane detectors pipeline) played modules)
    {gains : List Totals} (enough : modules.length = gains.length) :
    List.Forall₂ (Plays tally lane detectors pipeline) played
      (List.zipWith counted modules gains) := by
  induction plays generalizing gains with
  | nil => exact .nil
  | cons first others ih =>
    cases gains with
    | nil => cases enough
    | cons gain rest => exact .cons (first.counted gain) (ih (Nat.succ.inj enough))

theorem Crewed.length_eq (crewed : Crewed tally live detectors pipeline lane modules) :
    modules.length = 3 + 2 * detectors.length := by
  rw [← crewed.plays.length_eq]
  simp [roles]
  omega

/-- A lane that counted is crewed as before. -/
theorem Crewed.counted (crewed : Crewed tally live detectors pipeline lane modules)
    {gains : List Totals} (enough : modules.length = gains.length) :
    Crewed tally live detectors pipeline lane (List.zipWith counted modules gains) where
  watched := crewed.watched
  apart := crewed.apart
  matrices := crewed.matrices
  own := by
    rw [handlesOf_eq, bindings_counted enough, ← handlesOf_eq]
    exact crewed.own
  plays := plays_counted crewed.plays enough

/-- What a lane requires is there after the messages of an event. -/
theorem Crewed.filled (crewed : Crewed tally live detectors pipeline lane modules)
    {event : Event} (covers : event.Covers detectors) (number : UInt64)
    (sent : List (UInt64 × Message)) {module : Module Counters} (member : module ∈ modules)
    {handle : Handle} (bound : handle ∈ module.bindings.handles)
    (required : handle.isRequired = true) : ∃ slot, handle.place = .slot slot ∧
      (View.during sent lane number event.messages).held handle ≠ [] := by
  obtain ⟨role, played, plays⟩ := crewed.role_of_mem member
  cases plays with
  | generator state identity unnamed => cases bound
  | transfer state detector identity unnamed id slot kind payload =>
    cases List.mem_singleton.mp bound
    cases required
  | digitizer state detector identity unnamed id slot kind payload =>
    cases List.mem_singleton.mp bound
    have installed : detector ∈ detectors := by simpa [roles] using played
    rw [← covers.shots] at installed
    obtain ⟨shot, listed, rfl⟩ := List.mem_map.mp installed
    have takes (message : Message) :
        (Handle.ofSlot id identity slot { required := true }).Takes lane message ↔
          message.type = .pixelCharge ∧ Suits shot.detector message :=
      payload ▸ unnamed.takes_iff_suits
    have held : (View.during sent lane number event.messages).held _ = [shot.chargesMessage] :=
      held_own covers crewed.apart Shot.chargesMessage (fun _ => rfl) rfl takes listed
    exact ⟨slot, rfl, by simp [held]⟩
  | reader state identity unnamed first second deposits particles depositsKind depositsPayload
      particlesKind particlesPayload =>
    rcases List.mem_pair.mp bound with rfl | rfl <;> cases required
  | monitor state identity unnamed id filter =>
    cases List.mem_singleton.mp bound
    cases required

/-- The chain serves its lanes: it sends the messages of each event and counts what it does. -/
theorem serves (tally : Nat) (live : List Handle) (detectors : List Detector) (pipeline : Pipeline)
    (lane : LaneId) (seed : UInt64) :
    Serves tally live lane seed (Crewed tally live detectors pipeline lane)
      (fun modules number => Room modules (Event.ofNumber detectors pipeline seed number).gains)
      (fun number => (Event.ofNumber detectors pipeline seed number).messages)
      (fun modules number =>
        List.zipWith Demo.counted modules
          (Event.ofNumber detectors pipeline seed number).gains) where
  owned _ crewed := crewed.owned
  passes _ crewed number room sent := by
    obtain ⟨last, attempts⟩ := crewed.attempts seed number sent
    exact ⟨last, attempts.passes room⟩
  faults _ crewed number crowded sent := by
    obtain ⟨last, attempts⟩ := crewed.attempts seed number sent
    exact attempts.faults crowded
  kept _ crewed _ :=
    crewed.counted
      (crewed.length_eq.trans (Event.covers_draw detectors pipeline _).length_gains.symm)
  filled _ crewed number sent _ member _ bound :=
    crewed.filled (Event.covers_draw detectors pipeline _) number sent member bound

end Lane

/-! ## Deliveries -/

/-- How many delegates of a lane get a message of a type. -/
def reach : PayloadType → Nat
  | .particle | .pixelCharge => 2
  | .deposit => 3
  | .track | .pixelHit | .declared .. => 1

section Reach

variable {tally : Nat} {live : List Handle} {detectors : List Detector} {pipeline : Pipeline}
  {lane : LaneId} {modules : List (Module Counters)} {message : Message}

theorem sum_suits (apart : (detectors.map Detector.name).Nodup) (wanted : Prop) [Decidable wanted]
    (about : wanted → ∃ detector ∈ detectors, message.detector = some detector) :
    (detectors.map fun detector => if wanted ∧ Suits detector message then 1 else 0).sum =
      if wanted then 1 else 0 := by
  by_cases holds : wanted
  · obtain ⟨origin, listed, known⟩ := about holds
    have suits (detector : Detector) :
        (wanted ∧ Suits detector message) ↔ origin.name = detector.name := by
      simp [holds, Suits, known, eq_comm]
    simp only [suits, sum_indicator, if_pos holds]
    rw [filter_key_eq apart listed]
    rfl
  · simp [holds]

private theorem sum_takes (apart : (detectors.map Detector.name).Nodup)
    (about : message.type = .deposit ∨ message.type = .pixelCharge →
      ∃ detector ∈ detectors, message.detector = some detector) :
    ((roles detectors).map (Role.takes message)).sum = reach message.type := by
  have deposits := sum_suits apart (message.type = .deposit) fun same => about (.inl same)
  have charges := sum_suits apart (message.type = .pixelCharge) fun same => about (.inr same)
  have split : ((roles detectors).map (Role.takes message)).sum =
      (detectors.map fun detector =>
        if message.type = .deposit ∧ Suits detector message then 1 else 0).sum +
      (detectors.map fun detector =>
        if message.type = .pixelCharge ∧ Suits detector message then 1 else 0).sum +
      ((if message.type = .deposit ∨ message.type = .particle then 1 else 0) + 1) := by
    simp [roles, Role.takes, Function.comp_def, Nat.add_assoc]
  rw [split, deposits, charges]
  cases message.type <;> rfl

/-- Every message of an event reaches its receivers, and nobody else. -/
theorem Crewed.reached (crewed : Crewed tally live detectors pipeline lane modules) {event : Event}
    (covers : event.Covers detectors) (listed : message ∈ event.messages) :
    live.countP (fun handle => handle.Takes lane message) = reach message.type := by
  have own : live.countP (fun handle => handle.Takes lane message) =
      (handlesOf modules).countP fun handle => handle.Takes lane message := by
    rw [← crewed.own, List.countP_filter]
    apply List.countP_congr
    intro handle _
    have located (takes : handle.Takes lane message) : handle.lane = lane := takes.1
    simpa using located
  have each : List.Forall₂ (fun count role => count = role.takes message)
      (modules.map fun module => module.bindings.handles.countP
        fun handle => handle.Takes lane message) (roles detectors) := by
    refine List.forall₂_map_left_iff.mpr (List.Forall₂.flip ?_)
    exact crewed.plays.imp fun role module plays => plays.countP_takes message
  have same := List.forall₂_map_right_iff.mpr each
  rw [List.forall₂_eq_eq_eq] at same
  rw [own, handlesOf, List.countP_flatMap, ← sum_takes crewed.apart (covers.detector_of_mem listed)]
  exact congrArg List.sum same

theorem Event.Covers.sum_reach {event : Event} (covers : event.Covers detectors) :
    (event.messages.map fun message => reach message.type).sum = 1 + 8 * detectors.length := by
  obtain ⟨shots, readouts⟩ := covers.lengths
  have tracks : ({ payload := .tracks event.tracks } : Message).type = .track := rfl
  simp [Event.messages, Event.generated, List.flatMap_def, Function.comp_def, tracks, reach]
  omega

end Reach

end Beamline.Demo
