import Beamline.Run.Lane
import Mathlib.Data.List.Nodup
import Mathlib.Logic.Basic

namespace Beamline.Run

def laneOf (number : Nat) : LaneId :=
  ⟨UInt16.ofNat number⟩

theorem index_laneOf {number : Nat} (few : number ≤ ConfigError.maxWorkers) :
    (laneOf number).index.toNat = number :=
  Nat.mod_eq_of_lt (Nat.lt_succ_of_le few)

theorem laneOf_eq_iff {number : Nat} (few : number ≤ ConfigError.maxWorkers) {lane : LaneId} :
    laneOf number = lane ↔ number = lane.index.toNat := by
  constructor
  · rintro rfl
    exact (index_laneOf few).symm
  · rintro rfl
    exact congrArg LaneId.mk (UInt16.toNat_inj.mp (index_laneOf few))

theorem laneOf_injective {one other : Nat} (few : one ≤ ConfigError.maxWorkers)
    (fewer : other ≤ ConfigError.maxWorkers) (same : laneOf one = laneOf other) : one = other := by
  rw [← index_laneOf few, same, index_laneOf fewer]

theorem toNat_laneOf {number : Nat} (few : number ≤ ConfigError.maxWorkers) :
    (laneOf number).index.toUInt64.toNat = number :=
  (UInt16.toNat_toUInt64 _).trans (index_laneOf few)

/-! ## The events of a lane -/

def Plan.eventsFrom (plan : Plan) (event : UInt64) : List UInt64 :=
  if event < plan.total then
    event :: if event < event + plan.stride then plan.eventsFrom (event + plan.stride) else []
  else []
  termination_by plan.total.toNat - event.toNat
  decreasing_by
    simp_all only [UInt64.lt_iff_toNat_lt]
    omega

theorem add_le_of_mod_eq {first later stride : Nat} (less : first < later)
    (same : later % stride = first % stride) : first + stride ≤ later := by
  have divides : stride ∣ later - first :=
    Nat.dvd_of_mod_eq_zero (Nat.sub_mod_eq_zero_of_mod_eq same)
  have far := Nat.le_of_dvd (by omega) divides
  omega

namespace Plan

variable {plan : Plan} {event target : UInt64}

theorem toNat_next (onward : event < event + plan.stride) :
    (event + plan.stride).toNat = event.toNat + plan.stride.toNat := by
  rw [UInt64.lt_iff_toNat_lt, UInt64.toNat_add] at onward
  rw [UInt64.toNat_add]
  have small := plan.stride.toNat_lt
  have few := event.toNat_lt
  omega

/-- Where the next number is not greater, the words end. -/
theorem turned (moving : 0 < plan.stride.toNat) (turns : ¬ event < event + plan.stride) :
    UInt64.size ≤ event.toNat + plan.stride.toNat := by
  rw [UInt64.lt_iff_toNat_lt, UInt64.toNat_add] at turns
  have size : UInt64.size = 2 ^ 64 := rfl
  omega

/-- Events of one remainder are a stride apart. -/
theorem next_le (upTo : event ≤ target) (other : event ≠ target)
    (remainder : target.toNat % plan.stride.toNat = event.toNat % plan.stride.toNat) :
    event.toNat + plan.stride.toNat ≤ target.toNat := by
  rw [UInt64.le_iff_toNat_le] at upTo
  have different : event.toNat ≠ target.toNat := fun same => other (UInt64.toNat_inj.mp same)
  exact add_le_of_mod_eq (by omega) remainder

end Plan

/-- Numbering the events never comes to the end of the words. -/
structure Plan.Fits (plan : Plan) : Prop where
  moving : 0 < plan.stride
  bounded : plan.total.toNat + plan.stride.toNat ≤ UInt64.size

theorem Plan.Fits.positive {plan : Plan} (fits : plan.Fits) : 0 < plan.stride.toNat :=
  UInt64.lt_iff_toNat_lt.mp fits.moving

theorem Plan.Fits.lt_add {plan : Plan} (fits : plan.Fits) {event : UInt64}
    (early : event < plan.total) : (event + plan.stride).toNat = event.toNat + plan.stride.toNat ∧
      event < event + plan.stride := by
  obtain ⟨moving, bounded⟩ := fits
  rw [UInt64.lt_iff_toNat_lt] at *
  rw [UInt64.toNat_add]
  have small : event.toNat + plan.stride.toNat < UInt64.size := by omega
  rw [Nat.mod_eq_of_lt small]
  simp at moving
  omega

/-- A lane has the events of its remainder, whether or not the words end after the last of them. -/
theorem Plan.mem_eventsFrom {plan : Plan} (moving : 0 < plan.stride.toNat) {first event : UInt64} :
    event ∈ plan.eventsFrom first ↔ first ≤ event ∧ event < plan.total ∧
      event.toNat % plan.stride.toNat = first.toNat % plan.stride.toNat := by
  fun_induction Plan.eventsFrom plan first with
  | case1 first early ih =>
    by_cases onward : first < first + plan.stride
    · rw [if_pos onward, List.mem_cons, ih onward, UInt64.le_iff_toNat_le, UInt64.le_iff_toNat_le,
        toNat_next onward, Nat.add_mod_right]
      constructor
      · rintro (rfl | ⟨further, within, same⟩)
        · exact ⟨Nat.le_refl _, early, rfl⟩
        · exact ⟨by omega, within, same⟩
      · rintro ⟨further, within, same⟩
        by_cases begins : first = event
        · exact .inl begins.symm
        · exact .inr ⟨next_le (UInt64.le_iff_toNat_le.mpr further) begins same, within, same⟩
    · rw [if_neg onward, List.mem_singleton]
      constructor
      · rintro rfl
        exact ⟨UInt64.le_refl _, early, rfl⟩
      · rintro ⟨further, _, same⟩
        by_contra begins
        have far := next_le further (Ne.symm begins) same
        have last := turned moving onward
        have small := event.toNat_lt_size
        omega
  | case2 first late =>
    constructor
    · intro member
      cases member
    · rintro ⟨further, within, _⟩
      exact absurd (UInt64.lt_of_le_of_lt further within) late

theorem Plan.eventsFrom_increasing {plan : Plan} (moving : 0 < plan.stride.toNat)
    (first : UInt64) : (plan.eventsFrom first).Pairwise (· < ·) := by
  fun_induction Plan.eventsFrom plan first with
  | case1 first early ih =>
    by_cases onward : first < first + plan.stride
    · rw [if_pos onward, List.pairwise_cons]
      refine ⟨fun event later => ?_, ih onward⟩
      exact UInt64.lt_of_lt_of_le onward ((Plan.mem_eventsFrom moving).mp later).1
    · rw [if_neg onward]
      exact List.pairwise_singleton _ _
  | case2 first late => exact List.Pairwise.nil

theorem Plan.eventsFrom_nodup {plan : Plan} (moving : 0 < plan.stride.toNat) (first : UInt64) :
    (plan.eventsFrom first).Nodup :=
  (Plan.eventsFrom_increasing moving first).imp UInt64.ne_of_lt

def Plan.events (plan : Plan) (lane : LaneId) : List UInt64 :=
  plan.eventsFrom lane.index.toUInt64

/-! ## All events -/

section Plan

variable {plan : Plan}

theorem Plan.mem_events (few : plan.stride.toNat ≤ ConfigError.maxWorkers)
    {number : Nat} (within : number < plan.stride.toNat) {event : UInt64} :
    event ∈ plan.events (laneOf number) ↔
      event < plan.total ∧ event.toNat % plan.stride.toNat = number := by
  have first : (laneOf number).index.toUInt64.toNat = number := toNat_laneOf (by omega)
  rw [Plan.events, Plan.mem_eventsFrom (by omega), UInt64.le_iff_toNat_le, first,
    Nat.mod_eq_of_lt within]
  refine ⟨fun ⟨_, rest⟩ => rest, fun ⟨early, remainder⟩ => ⟨?_, early, remainder⟩⟩
  rw [← remainder]
  exact Nat.mod_le _ _

def Plan.allEvents (plan : Plan) : List UInt64 :=
  (List.range plan.total.toNat).map UInt64.ofNat

theorem Plan.length_allEvents : plan.allEvents.length = plan.total.toNat := by
  simp [Plan.allEvents]

theorem toNat_ofNat_of_lt {bound : UInt64} {number : Nat} (within : number < bound.toNat) :
    (UInt64.ofNat number).toNat = number := by
  rw [UInt64.toNat_ofNat']
  exact Nat.mod_eq_of_lt (Nat.lt_trans within bound.toNat_lt)

theorem Plan.mem_allEvents {event : UInt64} : event ∈ plan.allEvents ↔ event < plan.total := by
  rw [Plan.allEvents, List.mem_map, UInt64.lt_iff_toNat_lt]
  constructor
  · rintro ⟨number, within, rfl⟩
    rw [List.mem_range] at within
    rwa [toNat_ofNat_of_lt within]
  · exact fun early => ⟨event.toNat, List.mem_range.mpr early, UInt64.ofNat_toNat⟩

theorem Plan.allEvents_nodup : plan.allEvents.Nodup := by
  refine List.Nodup.map_on (fun one first other second same => ?_) List.nodup_range
  rw [List.mem_range] at first second
  have equal := congrArg UInt64.toNat same
  rwa [toNat_ofNat_of_lt first, toNat_ofNat_of_lt second] at equal

theorem Plan.events_perm (fits : plan.Fits) (few : plan.stride.toNat ≤ ConfigError.maxWorkers) :
    (((List.range plan.stride.toNat).map laneOf).flatMap plan.events).Perm plan.allEvents := by
  rw [List.flatMap_map]
  refine (List.perm_ext_iff_of_nodup ?_ Plan.allEvents_nodup).mpr fun event => ?_
  · refine List.nodup_flatMap.mpr ⟨fun number _ => Plan.eventsFrom_nodup fits.positive _, ?_⟩
    refine List.nodup_range.imp_of_mem fun {one other} first second different => ?_
    rw [List.mem_range] at first second
    refine fun event mine theirs => different ?_
    have remainder := ((Plan.mem_events few first).mp mine).2
    exact remainder.symm.trans ((Plan.mem_events few second).mp theirs).2
  · rw [Plan.mem_allEvents, List.mem_flatMap]
    constructor
    · rintro ⟨number, within, among⟩
      exact ((Plan.mem_events few (List.mem_range.mp within)).mp among).1
    · intro early
      have within := Nat.mod_lt event.toNat fits.positive
      exact ⟨_, List.mem_range.mpr within, (Plan.mem_events few within).mpr ⟨early, rfl⟩⟩

end Plan

end Beamline.Run
