import Beamline.Proofs.DemoLane

namespace Beamline.Demo

open Run

/-- What a module counts in an event in its role. -/
inductive Gains (event : Event) : Role → Totals → Prop
  | generator : Gains event .generator event.generatorGain
  | transfer {shot : Shot} (listed : shot ∈ event.shots) :
    Gains event (.transfer shot.detector) shot.transferGain
  | digitizer {readout : Readout} (listed : readout ∈ event.readouts) :
    Gains event (.digitizer readout.shot.detector) readout.gain
  | reader : Gains event .reader event.readerGain
  | monitor : Gains event .monitor 0

theorem Event.Covers.gains_of_roles {event : Event} {detectors : List Detector}
    (covers : event.Covers detectors) :
    List.Forall₂ (Gains event) (roles detectors) event.gains := by
  have readouts : event.readouts.map (fun readout => readout.shot.detector) = detectors := by
    rw [← covers.shots, ← covers.readouts, List.map_map]
    rfl
  have transfers : List.Forall₂ (Gains event) (detectors.map Role.transfer)
      (event.shots.map Shot.transferGain) := by
    rw [← covers.shots, List.map_map, List.forall₂_map_left_iff, List.forall₂_map_right_iff,
      List.forall₂_same]
    exact fun shot listed => .transfer listed
  have digitizers : List.Forall₂ (Gains event) (detectors.map Role.digitizer)
      (event.readouts.map Readout.gain) := by
    rw [← readouts, List.map_map, List.forall₂_map_left_iff, List.forall₂_map_right_iff,
      List.forall₂_same]
    exact fun readout listed => .digitizer listed
  exact .cons .generator (List.rel_append (List.rel_append transfers digitizers)
    (.cons .reader (.cons .monitor .nil)))

/-- The charge of all deposits of an event. -/
def Event.depositedCharge (event : Event) : Nat :=
  chargeOf event.deposits

private theorem chargeOf_le_of_mem {event : Event} {shot : Shot} (listed : shot ∈ event.shots) :
    chargeOf shot.deposits ≤ event.depositedCharge := by
  obtain ⟨before, rest, split⟩ := List.append_of_mem listed
  rw [Event.depositedCharge, Event.deposits, split, List.flatMap_append, List.flatMap_cons,
    chargeOf_append, chargeOf_append]
  omega

/-- The charge that a module found in the events so far, in which a reader received some. -/
structure Within (received : Nat) (role : Role) (counters : Counters) : Prop where
  lost : counters.lostCharge ≤ received
  read : counters.chargeRead ≤ received
  reader : role = .reader → counters.chargeRead = received

theorem within_fresh (role : Role) : Within 0 role {} where
  lost := Nat.le_refl 0
  read := Nat.le_refl 0
  reader _ := rfl

variable {event : Event} {received : Nat} {role : Role} {counters : Counters} {gain : Totals}

private theorem Gains.lost_le (gains : Gains event role gain) :
    gain.lostCharge ≤ event.depositedCharge := by
  cases gains with
  | transfer listed => exact (Transfer.lostOf_le _ _).trans (chargeOf_le_of_mem listed)
  | _ => exact Nat.zero_le _

private theorem Gains.read_le (gains : Gains event role gain) :
    gain.chargeRead ≤ event.depositedCharge := by
  cases gains with
  | reader => exact Nat.le_refl _
  | _ => exact Nat.zero_le _

private theorem Within.holds (within : Within received role counters)
    (gains : Gains event role gain) (fits : received + event.depositedCharge < UInt64.size) :
    counters.Holds gain where
  lost := (Nat.add_le_add within.lost gains.lost_le).trans_lt fits
  received := (Nat.add_le_add within.read gains.read_le).trans_lt fits

private theorem Within.plus (within : Within received role counters)
    (gains : Gains event role gain) (holds : counters.Holds gain) :
    Within (received + event.depositedCharge) role (counters.plus gain) := by
  have lost : (counters.plus gain).lostCharge = counters.lostCharge + gain.lostCharge :=
    congrArg Totals.lostCharge holds.totals_plus
  have read : (counters.plus gain).chargeRead = counters.chargeRead + gain.chargeRead :=
    congrArg Totals.chargeRead holds.totals_plus
  exact {
    lost := lost.trans_le (Nat.add_le_add within.lost gains.lost_le)
    read := read.trans_le (Nat.add_le_add within.read gains.read_le)
    reader := by
      rintro rfl
      cases gains
      rw [read, within.reader rfl]
      rfl }

/-! ## Room in a lane -/

section Modules

variable {played : List Role} {modules : List (Module Counters)} {gains : List Totals}
  (within : List.Forall₂ (fun role module => Within received role module.state) played modules)
  (gained : List.Forall₂ (Gains event) played gains)

include within gained

private theorem room_of_fits (fits : received + event.depositedCharge < UInt64.size) :
    Room modules gains := by
  induction within generalizing gains with
  | nil =>
    cases gained
    exact .nil
  | cons first others ih =>
    cases gained with
    | cons gain rest => exact .cons (first.holds gain fits) (ih rest)

private theorem fits_of_room (reads : .reader ∈ played) (room : Room modules gains) :
    received + event.depositedCharge < UInt64.size := by
  induction within generalizing gains with
  | nil => cases reads
  | cons first others ih =>
    cases gained with
    | cons gain rest =>
      obtain ⟨holds, spaces⟩ := List.forall₂_cons.mp room
      rcases List.mem_cons.mp reads with rfl | reads
      · cases gain
        rw [← first.reader rfl]
        exact holds.received
      · exact ih rest reads spaces

private theorem within_counted (fits : received + event.depositedCharge < UInt64.size) :
    List.Forall₂ (fun role module => Within (received + event.depositedCharge) role module.state)
      played (List.zipWith counted modules gains) := by
  induction within generalizing gains with
  | nil => exact .nil
  | cons first others ih =>
    cases gained with
    | cons gain rest => exact .cons (first.plus gain (first.holds gain fits)) (ih rest)

end Modules

/-! ## The charge of an event -/

section Bounds

variable {detectors : List Detector} {pipeline : Pipeline}

theorem Generator.length_deposits (pipeline : Pipeline) (trajectories : List Trajectory)
    (detector : Detector) (stream : Random.Stream) :
    let drawn := (shot pipeline trajectories detector stream).1
    drawn.deposits.length = pipeline.depositsPerParticle.toNat * drawn.particles.length := by
  intro drawn
  let passed := passages detector trajectories
  have steps (passage : (Trajectory × Particle) × Nat) (stream : Random.Stream) :
      (depositsOf detector pipeline passage stream).1.length =
        pipeline.depositsPerParticle.toNat :=
    (length_mapM _ _ _).trans List.length_range
  have each : ∀ deposits ∈ (passed.zipIdx.mapM (depositsOf detector pipeline) stream).1,
      deposits.length = pipeline.depositsPerParticle.toNat :=
    forall_mem_mapM steps _ _
  have total : drawn.deposits.length =
      ((passed.zipIdx.mapM (depositsOf detector pipeline) stream).1.map List.length).sum :=
    List.length_flatten
  rw [total, sum_map_const each, length_mapM, List.length_zipIdx, Nat.mul_comm]
  exact congrArg _ (List.length_map _).symm

private theorem Event.length_deposits_le (stream : Random.Stream) :
    (draw detectors pipeline stream).1.deposits.length ≤
      detectors.length * (pipeline.depositsPerParticle.toNat * pipeline.particlesPerEvent.toNat) := by
  let event := (draw detectors pipeline stream).1
  have few : ∀ shot ∈ event.shots, shot.deposits.length ≤
      pipeline.depositsPerParticle.toNat * pipeline.particlesPerEvent.toNat := by
    let start := Generator.trajectories (Generator.firstZ detectors - Generator.runUp)
      pipeline.particlesPerEvent.toNat stream
    have count : start.1.length = pipeline.particlesPerEvent.toNat :=
      (length_mapM _ _ _).trans List.length_replicate
    refine @forall_mem_mapM _ _ _ (Generator.shot pipeline start.1) (fun detector stream => ?_)
      detectors start.2
    rw [Generator.length_deposits]
    refine Nat.mul_le_mul_left _ (count ▸ ?_)
    exact (List.length_map _).trans_le ((List.length_filter_le _ _).trans_eq (List.length_map _))
  have shots := (covers_draw detectors pipeline stream).lengths.1
  rw [deposits, List.length_flatMap]
  exact (sum_map_le few).trans_eq (congrArg (· * _) shots)

theorem Event.depositedCharge_le (stream : Random.Stream) :
    (draw detectors pipeline stream).1.depositedCharge ≤ detectors.length *
      (pipeline.depositsPerParticle.toNat * pipeline.particlesPerEvent.toNat) *
        (UInt32.size - 1) := by
  have each : ∀ deposit ∈ (draw detectors pipeline stream).1.deposits,
      deposit.charge.toNat ≤ UInt32.size - 1 :=
    fun deposit _ => Nat.le_sub_one_of_lt deposit.charge.toNat_lt
  exact (sum_map_le each).trans (Nat.mul_le_mul_right _ (length_deposits_le stream))

end Bounds

/-! ## Events one after the other -/

/-- Modules have room for events, one after the other. -/
def HasRoom (drawn : UInt64 → Event) : List (Module Counters) → List UInt64 → Prop :=
  Bears (fun modules number => Room modules (drawn number).gains)
    fun modules number => List.zipWith counted modules (drawn number).gains

theorem hasRoom_iff {detectors : List Detector} {drawn : UInt64 → Event}
    (covers : ∀ number, (drawn number).Covers detectors) {modules : List (Module Counters)}
    (within : List.Forall₂ (fun role module => Within received role module.state)
      (roles detectors) modules) (below : received < UInt64.size) (numbers : List UInt64) :
    HasRoom drawn modules numbers ↔
      received + (numbers.map fun number => (drawn number).depositedCharge).sum < UInt64.size := by
  induction numbers generalizing received modules with
  | nil => exact iff_of_true trivial below
  | cons number rest ih =>
    have gained := (covers number).gains_of_roles
    rw [List.map_cons, List.sum_cons, ← Nat.add_assoc]
    change Room modules _ ∧ HasRoom drawn _ rest ↔ _
    by_cases fits : received + (drawn number).depositedCharge < UInt64.size
    · rw [and_iff_right (room_of_fits within gained fits)]
      exact ih (within_counted within gained fits) fits
    · have reads : Role.reader ∈ roles detectors := by simp [roles]
      refine iff_of_false (fun room => fits (fits_of_room within gained reads room.1)) fun total => ?_
      exact fits (Nat.lt_of_le_of_lt (Nat.le_add_right _ _) total)

end Beamline.Demo
