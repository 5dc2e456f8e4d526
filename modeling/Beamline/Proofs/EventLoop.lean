import Beamline.Proofs.AbortFlag
import Beamline.Proofs.EventShares

/-!
How the event loop of a lane can go, whatever the other lanes do meanwhile: one case for each way
around the loop. Everything about the order of its steps is read off here.
-/

namespace Beamline.Run

variable {σ : Type}

/-- The ways of an event loop from an event on: its end and what happens until then. -/
inductive Follows (plan : Plan) (id : LaneId) :
    UInt64 → Except Stop Nat → Chronicle σ → Prop
  /-- No event is left. -/
  | complete {event : UInt64} {processed : Nat} (late : ¬ event < plan.total) :
      Follows plan id event (.ok processed) []
  /-- Another lane failed. -/
  | aborted {event : UInt64} (early : event < plan.total) :
      Follows plan id event (.error (.error (.aborted id))) [.looked true]
  /-- The event fails. -/
  | failed {event : UInt64} {calls : List StageCall} {stop : Stop} {lane : Lane σ}
      (early : event < plan.total) (own : Own (.error stop : Except Stop Unit)) :
      Follows plan id event (.error stop)
        [.looked false, .processed event calls (.error stop) lane]
  /-- The number of the next event would be no word. -/
  | overflow {event : UInt64} {calls : List StageCall} {lane : Lane σ}
      (early : event < plan.total) (turns : ¬ event < event + plan.stride) :
      Follows plan id event (.error (.fault .addition))
        [.looked false, .processed event calls (.ok ()) lane]
  | next {event : UInt64} {calls : List StageCall} {lane : Lane σ} {ended : Except Stop Nat}
      {rest : Chronicle σ} (early : event < plan.total)
      (onward : event < event + plan.stride)
      (follows : Follows plan id (event + plan.stride) ended rest) :
      Follows plan id event ended (.looked false :: .processed event calls (.ok ()) lane :: rest)

/-! ## Every event loop goes one of these ways -/

/-- A process of one of `count` lanes that keeps the flag and the lanes together. -/
abbrev Process.KeepsSignals {α : Type} (process : Process α) (count own : Nat)
    (good : α → Signal → Prop) (signal : Signal) : Prop :=
  Program.Ensures (S := LaneOperations) LaneOperation.perform (Signalled count) own good
    process signal

variable {count own : Nat}

theorem Process.LeavesFlag.keepsSignals {α : Type} {process : Process α} {good : α → Prop}
    (leaves : process.LeavesFlag good) (signal : Signal) :
    process.KeepsSignals count own (fun result last => good result ∧ last = signal) signal :=
  Program.Respects.ensures leaves
    (fun _ allowed _ _ signalled => signalled.leave allowed) signal

theorem keepsSignals_isAborting : (Process.ask .isAborting).KeepsSignals count own
    (fun (isAborting : Bool) signal => signal = if isAborting then .noticed else .none) .none := by
  apply Program.ensures_ask (S := LaneOperations)
  intro signals world signalled quiet
  by_cases aborting : world.aborting = true
  · exact ⟨.noticed, signalled.notice quiet aborting, (if_pos aborting).symm⟩
  · refine ⟨.none, ?_, (if_neg aborting).symm⟩
    rw [← quiet, Function.update_eq_self]
    exact signalled

theorem keepsSignals_abort (within : own < count) : (Process.ask .abort).KeepsSignals count own
    (fun _ signal => signal = .raised) .none := by
  apply Program.ensures_ask (S := LaneOperations)
  intro signals world _ _
  exact ⟨.raised, Signalled.raise within, rfl⟩

/-- Nothing is processed after an event that failed or after the flag was found raised, and every
event right after the flag was found lowered. -/
structure Chronicle.Obeys (chronicle : Chronicle σ) : Prop where
  last_failed : ∀ before event calls stop lane after,
    chronicle = before ++ .processed event calls (.error stop) lane :: after → after = []
  last_looked : ∀ before after, chronicle = before ++ .looked true :: after → after = []
  looked_before : ∀ before event calls result lane after,
    chronicle = before ++ .processed event calls result lane :: after →
      ∃ earlier, before = earlier ++ [.looked false]

namespace Chronicle.Obeys

theorem last_round (event : UInt64) (calls : List StageCall) (result : Except Stop Unit)
    (lane : Lane σ) :
    Chronicle.Obeys [.looked false, .processed event calls result lane] := by
  constructor
  · rintro (_ | ⟨first, _ | ⟨second, before⟩⟩) failed made stop later after split <;> simp_all
  · rintro (_ | ⟨first, _ | ⟨second, before⟩⟩) after split <;> simp_all
  · rintro (_ | ⟨first, _ | ⟨second, before⟩⟩) other made result later after split <;> simp_all

/-- A round after which the loop goes on. -/
theorem round (event : UInt64) (calls : List StageCall) (lane : Lane σ) {rest : Chronicle σ}
    (obeys : rest.Obeys) :
    Chronicle.Obeys (.looked false :: .processed event calls (.ok ()) lane :: rest) := by
  constructor
  · rintro (_ | ⟨first, _ | ⟨second, before⟩⟩) failed made stop later after split
    · simp at split
    · simp at split
    · simp only [List.cons_append, List.cons.injEq] at split
      exact obeys.last_failed _ _ _ _ _ _ split.2.2
  · rintro (_ | ⟨first, _ | ⟨second, before⟩⟩) after split
    · simp at split
    · simp at split
    · simp only [List.cons_append, List.cons.injEq] at split
      exact obeys.last_looked _ _ split.2.2
  · rintro (_ | ⟨first, _ | ⟨second, before⟩⟩) other made result later after split
    · simp at split
    · simp only [List.cons_append, List.cons.injEq] at split
      exact ⟨[], by rw [split.1]; rfl⟩
    · simp only [List.cons_append, List.cons.injEq] at split
      obtain ⟨earlier, found⟩ := obeys.looked_before _ _ _ _ _ _ split.2.2
      exact ⟨first :: second :: earlier, by rw [found]; rfl⟩

end Chronicle.Obeys

@[simp]
theorem Chronicle.results_nil : Chronicle.results ([] : Chronicle σ) = [] := rfl

@[simp]
theorem Chronicle.results_looked (isAborting : Bool) (rest : Chronicle σ) :
    Chronicle.results (.looked isAborting :: rest) = rest.results := rfl

@[simp]
theorem Chronicle.results_processed (event : UInt64) (calls : List StageCall)
    (result : Except Stop Unit) (lane : Lane σ) (rest : Chronicle σ) :
    Chronicle.results (.processed event calls result lane :: rest) =
      (event, result) :: rest.results := rfl

theorem Chronicle.results_round (event : UInt64) (calls : List StageCall) (lane : Lane σ)
    (rest : Chronicle σ) :
    Chronicle.results (.looked false :: .processed event calls (.ok ()) lane :: rest) =
      (event, .ok ()) :: rest.results := rfl

namespace Plan

variable {plan : Plan} {event target : UInt64}

/-- The number of an event after the last one would be no word. -/
def Overflows (plan : Plan) : Prop :=
  UInt64.size < plan.total.toNat + plan.stride.toNat

theorem overflows_of_turns (moving : 0 < plan.stride.toNat) (early : event < plan.total)
    (turns : ¬ event < event + plan.stride) : plan.Overflows := by
  have far := turned moving turns
  rw [UInt64.lt_iff_toNat_lt] at early
  unfold Overflows
  omega

end Plan

namespace Follows

variable {plan : Plan} {id : LaneId} {event target : UInt64} {ended : Except Stop Nat}
  {chronicle : Chronicle σ}

theorem obeys (follows : Follows plan id event ended chronicle) : chronicle.Obeys := by
  induction follows with
  | complete late => constructor <;> simp
  | aborted early => constructor <;> simp [List.cons_eq_append_iff]
  | failed early own => exact .last_round _ _ _ _
  | overflow early turns => exact .last_round _ _ _ _
  | next early onward follows ih => exact ih.round _ _ _

theorem bounds (follows : Follows plan id event ended chronicle) {result : Except Stop Unit}
    (member : (target, result) ∈ chronicle.results) :
    event ≤ target ∧ target < plan.total ∧
      target.toNat % plan.stride.toNat = event.toNat % plan.stride.toNat := by
  induction follows with
  | complete late => simp at member
  | aborted early => simp at member
  | failed early own =>
    obtain ⟨rfl, _⟩ : target = _ ∧ _ := by simpa using member
    exact ⟨UInt64.le_refl _, early, rfl⟩
  | overflow early turns =>
    obtain ⟨rfl, _⟩ : target = _ ∧ _ := by simpa using member
    exact ⟨UInt64.le_refl _, early, rfl⟩
  | next early onward follows ih =>
    rw [Chronicle.results_round, List.mem_cons] at member
    rcases member with same | member
    · obtain ⟨rfl, _⟩ := Prod.mk.inj same
      exact ⟨UInt64.le_refl _, early, rfl⟩
    · obtain ⟨later, within, remainder⟩ := ih member
      refine ⟨UInt64.le_trans (UInt64.le_of_lt onward) later, within, ?_⟩
      rw [remainder, Plan.toNat_next onward, Nat.add_mod_right]

/-- No event is processed twice. -/
theorem once (follows : Follows plan id event ended chronicle) {one other : Except Stop Unit}
    (first : (target, one) ∈ chronicle.results) (second : (target, other) ∈ chronicle.results) :
    one = other := by
  induction follows with
  | complete late => simp at first
  | aborted early => simp at first
  | failed early own => simp_all
  | overflow early turns => simp_all
  | next early onward follows ih =>
    rw [Chronicle.results_round, List.mem_cons] at first second
    have apart {result : Except Stop Unit} (member : (target, result) ∈ _) :=
      UInt64.lt_of_lt_of_le onward (follows.bounds member).1
    rcases first with same | first <;> rcases second with alike | second
    · exact (Prod.mk.inj same).2.trans (Prod.mk.inj alike).2.symm
    · obtain ⟨rfl, _⟩ := Prod.mk.inj same
      exact absurd (apart second) (UInt64.lt_irrefl _)
    · obtain ⟨rfl, _⟩ := Prod.mk.inj alike
      exact absurd (apart first) (UInt64.lt_irrefl _)
    · exact ih first second

/-- An event that fails ends the loop with its error. -/
theorem ended_of_failed (follows : Follows plan id event ended chronicle) {stop : Stop}
    (member : (target, .error stop) ∈ chronicle.results) :
    ended = .error stop ∧ Own (.error stop : Except Stop Unit) := by
  induction follows with
  | complete late => simp at member
  | aborted early => simp at member
  | failed early own => simp_all
  | overflow early turns => simp at member
  | next early onward follows ih =>
    rw [Chronicle.results_round, List.mem_cons] at member
    rcases member with same | member
    · exact absurd (Prod.mk.inj same).2 nofun
    · exact ih member

/-- The loop ends early with an event that failed, with a flag that was found raised, or where the
numbers of events end. -/
theorem ended_cases (moving : 0 < plan.stride.toNat)
    (follows : Follows plan id event ended chronicle) :
    (∃ target stop, (target, .error stop) ∈ chronicle.results ∧ ended = .error stop ∧
        Own (.error stop : Except Stop Unit)) ∨
      ((∀ target result, (target, result) ∈ chronicle.results → result = .ok ()) ∧
        ((∃ processed, ended = .ok processed) ∨ ended = .error (.error (.aborted id)) ∨
          ended = .error (.fault .addition) ∧ plan.Overflows)) := by
  induction follows with
  | complete late => exact .inr ⟨by simp, .inl ⟨_, rfl⟩⟩
  | aborted early => exact .inr ⟨by simp, .inr (.inl rfl)⟩
  | @failed event calls stop lane early own => exact .inl ⟨event, stop, by simp, rfl, own⟩
  | overflow early turns =>
    exact .inr ⟨by simp, .inr (.inr ⟨rfl, Plan.overflows_of_turns moving early turns⟩)⟩
  | next early onward follows ih =>
    rcases ih with ⟨target, stop, member, rest⟩ | ⟨all, rest⟩
    · refine .inl ⟨target, stop, ?_, rest⟩
      rw [Chronicle.results_round]
      exact List.mem_cons_of_mem _ member
    · refine .inr ⟨fun target result member => ?_, rest⟩
      rw [Chronicle.results_round, List.mem_cons] at member
      rcases member with same | member
      · exact (Prod.mk.inj same).2
      · exact all target result member

/-- An event of the lane is processed unless an earlier one failed or the flag was found raised. -/
theorem covers (moving : 0 < plan.stride.toNat)
    (follows : Follows plan id event ended chronicle) (upTo : event ≤ target)
    (early : target < plan.total)
    (remainder : target.toNat % plan.stride.toNat = event.toNat % plan.stride.toNat) :
    (∃ result, (target, result) ∈ chronicle.results) ∨
      (∃ earlier stop, earlier ≠ target ∧ (earlier, .error stop) ∈ chronicle.results) ∨
        ended = .error (.error (.aborted id)) := by
  induction follows with
  | complete late => exact absurd (UInt64.lt_of_le_of_lt upTo early) late
  | aborted early => exact .inr (.inr rfl)
  | @failed first calls stop lane _ own =>
    by_cases same : first = target
    · exact .inl ⟨.error stop, by simp [same]⟩
    · exact .inr (.inl ⟨first, stop, same, by simp⟩)
  | @overflow first calls lane _ turns =>
    by_cases same : first = target
    · exact .inl ⟨.ok (), by simp [same]⟩
    · have far := Plan.next_le upTo same remainder
      have last := Plan.turned moving turns
      have small : target.toNat < UInt64.size := target.toNat_lt
      omega
  | @next first calls lane ended rest _ onward follows ih =>
    rw [Chronicle.results_round]
    by_cases same : first = target
    · exact .inl ⟨.ok (), by simp [same]⟩
    · have far := Plan.next_le upTo same remainder
      rw [← Plan.toNat_next onward, ← UInt64.le_iff_toNat_le] at far
      rw [← Nat.add_mod_right first.toNat, ← Plan.toNat_next onward] at remainder
      rcases ih far remainder with ⟨result, member⟩ | ⟨earlier, stop, other, member⟩ | aborted
      · exact .inl ⟨result, List.mem_cons_of_mem _ member⟩
      · exact .inr (.inl ⟨earlier, stop, other, List.mem_cons_of_mem _ member⟩)
      · exact .inr (.inr aborted)

end Follows

end Beamline.Run
