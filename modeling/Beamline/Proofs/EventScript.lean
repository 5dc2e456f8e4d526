import Beamline.Proofs.Contributions
import Beamline.Proofs.DemoLane

namespace Beamline.Demo

open Bus Run

variable {detectors : List Detector} {pipeline : Pipeline} {role : Role} {roles : List Role}
  {done : List Message} {stream : Random.Stream}

private theorem about_append (type : PayloadType) (detector : Detector)
    (messages more : List Message) :
    about type detector (messages ++ more) =
      about type detector messages ++ about type detector more :=
  List.filter_append ..

theorem play_cons (stream : Random.Stream) :
    play detectors pipeline (role :: roles) done stream =
      let drawn := role.act detectors pipeline done stream
      play detectors pipeline roles (done ++ drawn.1) drawn.2 := rfl

theorem prefix_play (roles : List Role) (done : List Message) (stream : Random.Stream) :
    done <+: (play detectors pipeline roles done stream).1 := by
  induction roles generalizing done stream with
  | nil => exact List.prefix_refl done
  | cons role rest ih =>
    rw [play_cons]
    exact (List.prefix_append _ _).trans (ih _ _)

/-! ## Room for charge -/

/-- What is dispatched after modules with duties acted one after the other, and their duties then.
A module that has no room for the charge that it loses is at fault. -/
def perform (detectors : List Detector) (pipeline : Pipeline) :
    List Duty → List Message → Random.Stream → List Message × Except Fault (List Duty)
  | [], done, _ => (done, .ok [])
  | duty :: rest, done, stream =>
    if duty.Fits done then
      let drawn := duty.role.act detectors pipeline done stream
      let later := perform detectors pipeline rest (done ++ drawn.1) drawn.2
      (later.1, later.2.map (duty.after done :: ·))
    else (done, .error .addition)

/-- How modules end together that may meet a fault. -/
def endOf {α : Type} : Except Fault α → Except Stop Unit
  | .ok _ => .ok ()
  | .error fault => .error (.fault fault)

section Perform

variable {duties : List Duty} {duty : Duty}

theorem perform_cons_of_fits (fits : duty.Fits done) (stream : Random.Stream) :
    perform detectors pipeline (duty :: duties) done stream =
      let drawn := duty.role.act detectors pipeline done stream
      let later := perform detectors pipeline duties (done ++ drawn.1) drawn.2
      (later.1, later.2.map (duty.after done :: ·)) :=
  if_pos fits

theorem perform_cons_of_crowded (crowded : ¬duty.Fits done) (stream : Random.Stream) :
    perform detectors pipeline (duty :: duties) done stream =
      (done, .error .addition) :=
  if_neg crowded

theorem prefix_perform (duties : List Duty) (done : List Message) (stream : Random.Stream) :
    done <+: (perform detectors pipeline duties done stream).1 := by
  induction duties generalizing done stream with
  | nil => exact List.prefix_refl done
  | cons duty rest ih =>
    by_cases fits : duty.Fits done
    · rw [perform_cons_of_fits fits]
      exact (List.prefix_append _ _).trans (ih _ _)
    · rw [perform_cons_of_crowded fits]

/-- Without room the messages end early, and with room they are what the roles dispatch. -/
theorem perform_prefix_play (duties : List Duty) (done : List Message) (stream : Random.Stream) :
    let performed := perform detectors pipeline duties done stream
    let played := (play detectors pipeline (duties.map Duty.role) done stream).1
    performed.1 <+: played ∧ ∀ later, performed.2 = .ok later →
      performed.1 = played ∧ later.map Duty.role = duties.map Duty.role := by
  induction duties generalizing done stream with
  | nil => exact ⟨List.prefix_refl done, fun _ kept => ⟨rfl, Except.ok.inj kept ▸ rfl⟩⟩
  | cons duty rest ih =>
    by_cases fits : duty.Fits done
    · rw [perform_cons_of_fits fits]
      let drawn := duty.role.act detectors pipeline done stream
      obtain ⟨begins, all⟩ := ih (done ++ drawn.1) drawn.2
      refine ⟨begins, fun later kept => ?_⟩
      dsimp only at kept
      cases performed : (perform detectors pipeline rest (done ++ drawn.1) drawn.2).2 with
      | error fault =>
        rw [performed] at kept
        cases kept
      | ok others =>
        rw [performed] at kept
        obtain rfl := Except.ok.inj kept
        obtain ⟨complete, same⟩ := all others performed
        exact ⟨complete, congrArg (duty.role :: ·) same⟩
    · rw [perform_cons_of_crowded fits]
      exact ⟨prefix_play _ done stream, fun later kept => nomatch kept⟩

end Perform

/-- What is dispatched in the events of a lane from one on, if only the modules with duties act. -/
def toldFrom (detectors : List Detector) (pipeline : Pipeline) (plan : Plan) (duties : List Duty)
    (event : UInt64) : List (UInt64 × List Message) :=
  if event < plan.total then
    let performed := perform detectors pipeline duties [] (.ofEvent plan.seed event)
    (event, performed.1) :: match performed.2 with
      | .error _ => []
      | .ok duties =>
        if event < event + plan.stride then
          toldFrom detectors pipeline plan duties (event + plan.stride)
        else []
  else []
  termination_by plan.total.toNat - event.toNat
  decreasing_by
    simp_all only [UInt64.lt_iff_toNat_lt]
    omega

section ToldFrom

variable {plan : Plan} {duties later : List Duty} {event : UInt64}

theorem toldFrom_of_late (late : ¬event < plan.total) :
    toldFrom detectors pipeline plan duties event = [] := by
  rw [toldFrom, if_neg late]

theorem toldFrom_of_fault (early : event < plan.total) {told : List Message} {fault : Fault}
    (performed : perform detectors pipeline duties [] (.ofEvent plan.seed event) =
      (told, .error fault)) :
    toldFrom detectors pipeline plan duties event = [(event, told)] := by
  rw [toldFrom, if_pos early, performed]

theorem toldFrom_of_ok (early : event < plan.total) {told : List Message}
    (performed : perform detectors pipeline duties [] (.ofEvent plan.seed event) =
      (told, .ok later)) :
    toldFrom detectors pipeline plan duties event = (event, told) ::
      if event < event + plan.stride then
        toldFrom detectors pipeline plan later (event + plan.stride)
      else [] := by
  rw [toldFrom, if_pos early, performed]

end ToldFrom

/-! ## Transfers -/

/-- The transfers among some roles belong to different detectors. -/
def TransfersApart (roles : List Role) : Prop :=
  roles.Pairwise fun one other => ∀ first second, one = .transfer first →
    other = .transfer second → first.name ≠ second.name

theorem transfersApart_acting (apart : (detectors.map Detector.name).Nodup) :
    TransfersApart (acting detectors) := by
  have transfers : TransfersApart (detectors.map .transfer) := by
    rw [TransfersApart, List.pairwise_map]
    refine (List.pairwise_map.mp apart).imp fun different => ?_
    rintro first second ⟨⟩ ⟨⟩
    exact different
  have digitizers : TransfersApart (detectors.map .digitizer) :=
    List.pairwise_map.mpr (List.pairwise_of_forall fun _ _ => nofun)
  refine List.pairwise_cons.mpr ⟨fun _ _ => nofun, List.pairwise_append.mpr
    ⟨transfers, digitizers, fun one _ other member first second _ same => ?_⟩⟩
  obtain ⟨detector, _, rfl⟩ := List.mem_map.mp member
  exact nomatch same

theorem uncharged_nil (roles : List Role) : Uncharged roles [] :=
  fun _ _ => rfl

/-- Each transfer finds that nobody sent charges for its detector. -/
theorem Uncharged.act (uncharged : Uncharged (role :: roles) done)
    (apart : TransfersApart (role :: roles)) (stream : Random.Stream) :
    Uncharged roles (done ++ (role.act detectors pipeline done stream).1) := by
  intro detector member
  rw [about_append, uncharged detector (List.mem_cons_of_mem _ member), List.nil_append]
  refine List.filter_eq_nil_iff.mpr fun message among => ?_
  rw [decide_eq_true_eq]
  rintro ⟨type, suits⟩
  cases role with
  | generator =>
    rcases List.mem_cons.mp among with rfl | among
    · cases type
    · obtain ⟨shot, _, sent⟩ := List.mem_flatMap.mp among
      rcases List.mem_pair.mp sent with rfl | rfl <;> cases type
  | transfer other =>
    obtain rfl := List.mem_singleton.mp among
    exact (List.pairwise_cons.mp apart).1 _ member other detector rfl rfl (suits other rfl).symm
  | digitizer other =>
    simp only [Role.act] at among
    cases charges : about .pixelCharge other done with
    | nil =>
      rw [charges] at among
      cases among
    | cons first rest =>
      rw [charges] at among
      obtain rfl := List.mem_singleton.mp among
      cases type
  | reader => cases among
  | monitor => cases among

/-! ## The whole event -/

section Event

variable {event : Event} (covers : event.Covers detectors)
  (apart : (detectors.map Detector.name).Nodup) {charged : List Shot} {read : List Readout}

private theorem act_generator (stream : Random.Stream) :
    Role.generator.act detectors pipeline done stream =
      let drawn := Event.drawShots detectors pipeline stream
      ({ payload := .tracks drawn.1.1 } ::
        drawn.1.2.flatMap fun shot => [shot.particlesMessage, shot.depositsMessage], drawn.2) := rfl

theorem about_messagesUntil (type : PayloadType) (detector : Detector) :
    about type detector (event.messagesUntil charged read) =
      (event.messagesOf charged read type).filter fun message => Suits detector message := by
  rw [← event.filter_messagesUntil, List.filter_filter]
  refine List.filter_congr fun message _ => ?_
  simp [Bool.and_comm]

include covers apart

private theorem act_transfer {shot : Shot} (member : shot ∈ event.shots) (stream : Random.Stream) :
    (Role.transfer shot.detector).act detectors pipeline (event.messagesUntil charged []) stream =
      ([shot.chargesMessage], stream) := by
  have deposits : about .deposit shot.detector (event.messagesUntil charged []) =
      [shot.depositsMessage] := by
    rw [about_messagesUntil, Event.messagesOf, filter_suits fun _ => rfl,
      filter_key_eq (covers.names_nodup apart) member]
    rfl
  simp only [Role.act, deposits, Shot.depositsOf_depositsMessage]
  rfl

private theorem act_digitizer {shot : Shot} (member : shot ∈ event.shots) (stream : Random.Stream) :
    (Role.digitizer shot.detector).act detectors pipeline (event.messagesUntil event.shots read)
        stream =
      let drawn := shot.readout pipeline stream
      ([drawn.1.message], drawn.2) := by
  have charges : about .pixelCharge shot.detector (event.messagesUntil event.shots read) =
      [shot.chargesMessage] := by
    rw [about_messagesUntil, Event.messagesOf, filter_suits fun _ => rfl,
      filter_key_eq (covers.names_nodup apart) member]
    rfl
  simp only [Role.act, charges]
  rfl

private theorem play_transfers {shots : List Shot} (split : event.shots = charged ++ shots)
    (roles : List Role) (stream : Random.Stream) :
    play detectors pipeline (shots.map (fun shot => .transfer shot.detector) ++ roles)
        (event.messagesUntil charged []) stream =
      play detectors pipeline roles (event.messagesUntil event.shots []) stream := by
  induction shots generalizing charged with
  | nil => rw [split, List.append_nil, List.map_nil, List.nil_append]
  | cons shot rest ih =>
    have member : shot ∈ event.shots := by simp [split]
    rw [List.map_cons, List.cons_append, play_cons, act_transfer covers apart member]
    dsimp only
    rw [event.messagesUntil_charge charged shot]
    exact ih (by simpa using split)

private theorem play_digitizers {shots : List Shot} (among : ∀ shot ∈ shots, shot ∈ event.shots)
    (read : List Readout) (stream : Random.Stream) :
    play detectors pipeline (shots.map fun shot => .digitizer shot.detector)
        (event.messagesUntil event.shots read) stream =
      let drawn := shots.mapM (Shot.readout pipeline) stream
      (event.messagesUntil event.shots (read ++ drawn.1), drawn.2) := by
  induction shots generalizing read stream with
  | nil =>
    change (_, stream) = (event.messagesUntil event.shots (read ++ []), stream)
    rw [List.append_nil]
  | cons shot rest ih =>
    rw [List.forall_mem_cons] at among
    rw [List.map_cons, play_cons, act_digitizer covers apart among.1]
    dsimp only
    rw [event.messagesUntil_hit, ih among.2, List.mapM_cons]
    dsimp only
    rw [List.append_assoc]
    rfl

end Event

theorem play_acting (apart : (detectors.map Detector.name).Nodup) (seed number : UInt64) :
    (play detectors pipeline (acting detectors) [] (.ofEvent seed number)).1 =
      (Event.ofNumber detectors pipeline seed number).messages := by
  let event := Event.ofNumber detectors pipeline seed number
  have covers : event.Covers detectors := Event.covers_draw detectors pipeline _
  obtain ⟨middle, last, shots, readouts⟩ :=
    Event.ofNumber_drawn detectors pipeline seed number
  have generated : Role.generator.act detectors pipeline [] (.ofEvent seed number) =
      (event.generated, middle) := by
    rw [act_generator, shots]
    rfl
  have same : event.shots.map Shot.detector = detectors := covers.shots
  have roles : acting detectors = .generator ::
      (event.shots.map (fun shot => .transfer shot.detector) ++
        event.shots.map fun shot => .digitizer shot.detector) := by
    conv_lhs => rw [← same]
    simp [acting, Function.comp_def]
  have start : event.generated = event.messagesUntil [] [] := by
    simp [Event.messagesUntil]
  rw [roles, play_cons, generated]
  dsimp only
  rw [List.nil_append, start, play_transfers covers apart (List.nil_append event.shots).symm,
    play_digitizers covers apart fun _ member => member]
  dsimp only
  rw [readouts]
  rfl

section Messages

variable {event : Event} (covers : event.Covers detectors)

theorem Event.mem_messagesOf (message : Message) : message ∈ event.messages ↔
    message ∈ event.messagesOf event.shots event.readouts message.type := by
  rw [← Event.filter_messagesUntil, List.mem_filter]
  simp [Event.messagesUntil, Event.messages]

include covers

theorem Event.Covers.exists_charges {detector : Detector} (member : detector ∈ detectors) :
    ∃ message ∈ event.messages, message.type = .pixelCharge ∧ Suits detector message := by
  rw [← covers.shots] at member
  obtain ⟨shot, among, rfl⟩ := List.mem_map.mp member
  refine ⟨shot.chargesMessage, ?_, rfl, ?_⟩
  · rw [Event.mem_messagesOf]
    exact List.mem_map_of_mem among
  · rintro _ ⟨⟩
    rfl

theorem Event.Covers.eq_of_spare (apart : (detectors.map Detector.name).Nodup)
    {one other : Message} (first : one ∈ event.messages) (second : other ∈ event.messages)
    (type : one.type = other.type) (detector : one.detector = other.detector)
    (spare : one.type = .track ∨ one.type = .particle) : one = other := by
  rw [Event.mem_messagesOf] at first second
  rw [← type] at second
  rcases spare with tracks | particles
  · rw [tracks, Event.messagesOf, List.mem_singleton] at first second
    rw [first, second]
  · rw [particles, Event.messagesOf] at first second
    obtain ⟨shot, among, rfl⟩ := List.mem_map.mp first
    obtain ⟨another, listed, rfl⟩ := List.mem_map.mp second
    have same := congrArg Detector.name (Option.some.inj detector)
    rw [List.inj_on_of_nodup_map (covers.names_nodup apart) among listed same]

end Messages

end Beamline.Demo
