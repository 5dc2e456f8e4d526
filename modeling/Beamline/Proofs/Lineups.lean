import Beamline.Proofs.EventScript
import Beamline.Run.Lifecycle

/-!
Lanes of the demonstration chain with observers among the modules. In an event that all modules
complete, the lane dispatches the messages of the event; where an observer stops it early or a
transfer has no room, the first of them.
-/

namespace Beamline.Demo

open Bus Run

/-! ## The modules of a lane -/

section Modules

variable {σ : Type} (lens : CounterLens σ) (steady : Prop) (own : Nat) (detectors : List Detector)
  (pipeline : Pipeline) (others : List Handle)

/-- The modules of a lane, and the delegates of those that act: these have their duties, one after
the other, and observers anywhere between them. -/
inductive Lineup : List Duty → List Handle → List (Module σ) → Prop
  | nil : Lineup [] [] []
  | watch {duties : List Duty} {core : List Handle} {module : Module σ} {rest : List (Module σ)}
      (onlooker : Onlooker steady own others module) (further : Lineup duties core rest) :
      Lineup duties core (module :: rest)
  | act {duty : Duty} {duties : List Duty} {core : List Handle} {module : Module σ}
      {rest : List (Module σ)} (acts : Acts lens (laneOf own) detectors pipeline duty module)
      (further : Lineup duties core rest) :
      Lineup (duty :: duties) (module.bindings.handles ++ core) (module :: rest)

end Modules

section Lineup

variable {σ : Type} {lens : CounterLens σ} {steady : Prop} {own : Nat} {detectors : List Detector}
  {pipeline : Pipeline} {others core : List Handle} {duties : List Duty}
  {modules : List (Module σ)} {base bench : Bench} {event : UInt64}

namespace Lineup

variable (lineup : Lineup lens steady own detectors pipeline others duties core modules)

include lineup

/-- Observers may get more delegates. -/
theorem mono {more : List Handle} (subset : ∀ handle ∈ others, handle ∈ more) :
    Lineup lens steady own detectors pipeline more duties core modules := by
  induction lineup with
  | nil => exact .nil
  | watch onlooker further ih => exact .watch (onlooker.mono subset) ih
  | act acts further ih => exact .act acts ih

theorem player_of_handle {handle : Handle} (member : handle ∈ core) :
    ∃ duty ∈ duties, ∃ inner, Plays 0 (laneOf own) detectors pipeline duty.role inner ∧
      handle ∈ inner.bindings.handles := by
  induction lineup with
  | nil => cases member
  | watch onlooker further ih => exact ih member
  | @act duty duties core module rest acts further ih =>
    rcases List.mem_append.mp member with first | later
    · obtain ⟨inner, plays, bindings, _⟩ := acts.plays
      exact ⟨duty, List.mem_cons_self, inner, plays, bindings ▸ first⟩
    · obtain ⟨other, among, found⟩ := ih later
      exact ⟨other, List.mem_cons_of_mem _ among, found⟩

theorem player_of_role {role : Role} (member : role ∈ duties.map Duty.role) :
    ∃ inner, Plays 0 (laneOf own) detectors pipeline role inner ∧
      ∀ handle ∈ inner.bindings.handles, handle ∈ core := by
  induction lineup with
  | nil => cases member
  | watch onlooker further ih => exact ih member
  | act acts further ih =>
    rcases List.mem_cons.mp member with rfl | later
    · obtain ⟨inner, plays, bindings, _⟩ := acts.plays
      exact ⟨inner, plays, fun handle bound => List.mem_append_left _ (bindings ▸ bound)⟩
    · obtain ⟨inner, plays, held⟩ := ih later
      exact ⟨inner, plays, fun handle bound => List.mem_append_right _ (held handle bound)⟩

theorem equipment (all : duties.map Duty.role = acting detectors) :
    Equipment (laneOf own) detectors core where
  single handle member slot place single := by
    obtain ⟨duty, _, inner, plays, bound⟩ := lineup.player_of_handle member
    obtain ⟨detector, _, takes⟩ := plays.digitizer_of_single bound place single
    exact ⟨detector, takes⟩
  deposits detector member := by
    have cast : .transfer detector ∈ duties.map Duty.role := by simp [all, acting, member]
    obtain ⟨inner, plays, held⟩ := lineup.player_of_role cast
    cases plays with
    | transfer state detector identity unnamed id slot kind payload =>
      refine ⟨_, held _ List.mem_cons_self, fun message type suits => ?_⟩
      exact unnamed.takes_iff_suits.mpr ⟨payload ▸ type, suits⟩

end Lineup

/-! ## The modules in an event -/

/-- What calling modules in an event comes to, given what those with duties come to alone. -/
structure Ran (lens : CounterLens σ) (steady : Prop) (own : Nat) (detectors : List Detector)
    (pipeline : Pipeline) (base : Bench) (event : UInt64)
    (performed : List Message × Except Fault (List Duty)) (core : List Handle)
    (ended : (Except Stop Unit × List (Module σ) × Option EventContext) × List StageCall)
    (after : Bench) : Prop where
  reached : ∃ more told, Reached (base.join more) (laneOf own) event told after ∧
    told <+: performed.1 ∧ (steady → told = performed.1) ∧
    (ended.1.1 = .ok () → told = performed.1 ∧ ∃ later, performed.2 = .ok later ∧
      Lineup lens steady own detectors pipeline (base.join more).others later core ended.1.2.1)
  called : (∀ call ∈ ended.2, call.result = .ok ()) ↔ ended.1.1 = .ok ()
  calm : steady → ended.1.1 = endOf performed.2

section Ran

variable {performed : List Message × Except Fault (List Duty)} {result : Except Stop Unit}
  {rest : List (Module σ)} {context : Option EventContext} {calls : List StageCall} {after : Bench}

/-- An observer in front that goes on. -/
private theorem Ran.watch {more : List Handle} {module : Module σ} {call : StageCall}
    (ran : Ran lens steady own detectors pipeline (base.join more) event performed core
      ((result, rest, context), calls) after)
    (onlooker : Onlooker steady own (base.join more).others module)
    (fine : call.result = .ok ()) :
    Ran lens steady own detectors pipeline base event performed core
      ((result, module :: rest, context), call :: calls) after := by
  obtain ⟨⟨further, told, reached, begins, whole, all⟩, called, calm⟩ := ran
  rw [Bench.join_join] at reached all
  refine ⟨⟨more ++ further, told, reached, begins, whole, fun ended => ?_⟩, ?_, calm⟩
  · obtain ⟨complete, kept, performed, lineup⟩ := all ended
    refine ⟨complete, kept, performed, .watch (onlooker.mono fun handle member => ?_) lineup⟩
    rw [Bench.join, ← List.append_assoc]
    exact List.mem_append_left _ member
  · rw [List.forall_mem_cons, and_iff_right fine]
    exact called

/-- A module with a duty in front that does it. -/
private theorem Ran.act {duty : Duty} {module : Module σ} {call : StageCall}
    (ran : Ran lens steady own detectors pipeline base event performed core
      ((result, rest, context), calls) after)
    (acts : Acts lens (laneOf own) detectors pipeline duty module)
    (fine : call.result = .ok ()) :
    Ran lens steady own detectors pipeline base event
      (performed.1, performed.2.map (duty :: ·)) (module.bindings.handles ++ core)
      ((result, module :: rest, context), call :: calls) after := by
  obtain ⟨⟨more, told, reached, begins, whole, all⟩, called, calm⟩ := ran
  refine ⟨⟨more, told, reached, begins, whole, fun ended => ?_⟩, ?_, fun going => ?_⟩
  · obtain ⟨complete, kept, performed, lineup⟩ := all ended
    exact ⟨complete, duty :: kept, congrArg (Except.map _) performed, .act acts lineup⟩
  · rw [List.forall_mem_cons, and_iff_right fine]
    exact called
  · refine (calm going).trans ?_
    cases performed.2 <;> rfl

end Ran

/-- The modules of a lane run in turn. -/
theorem Lineup.keepsBenches_tellInTurn
    (lineup : Lineup lens steady own detectors pipeline others duties core modules)
    (small : own ≤ ConfigError.maxWorkers) (known : ∀ handle ∈ others, handle ∈ base.others)
    (equipment : Equipment (laneOf own) detectors base.core)
    (held : ∀ handle ∈ core, handle ∈ base.core) {done : List Message}
    (uncharged : Uncharged (duties.map Duty.role) done)
    (apart : TransfersApart (duties.map Duty.role))
    (reached : Reached base (laneOf own) event done bench) (stream : Random.Stream) (place : Nat) :
    (tellInTurn .run (fun behaviour => behaviour.run event) (some event) (laneOf own) place modules
      (some { event, stream })).KeepsBenches steady own
      (Ran lens steady own detectors pipeline base event
        (perform detectors pipeline duties done stream) core) bench := by
  induction lineup generalizing base bench done stream place with
  | nil =>
    refine ⟨⟨[], done, ?_, List.prefix_refl done, fun _ => rfl, fun _ => ⟨rfl, [], rfl, .nil⟩⟩,
      by simp, fun _ => rfl⟩
    rwa [Bench.join_nil]
  | @watch duties core module rest onlooker further ih =>
    have watching := onlooker.mono (reached.others ▸ known)
    apply Program.Ensures.bind (watching.keepsBenches_run small event _)
    rintro ⟨result, later, context⟩ middle ⟨⟨more, rfl⟩, same, still, calm⟩
    dsimp only at same still calm ⊢
    subst same
    have joined := reached.join more
    rcases result with stop | _
    · apply Program.Ensures.bind (keepsBenches_recordStop later .run stop)
      rintro told _ rfl
      have wild (going : steady) : False := by cases calm going
      refine ⟨⟨more, done, joined, prefix_perform .., fun going => (wild going).elim, by rintro ⟨⟩⟩,
        ?_, fun going => (wild going).elim⟩
      simp
    · have subset : ∀ handle ∈ others, handle ∈ (base.join more).others :=
        fun handle member => List.mem_append_left _ (known handle member)
      have again : Onlooker steady own (base.join more).others later :=
        (still rfl).mono fun handle member => by rwa [Bench.join, reached.others] at member
      apply Program.Ensures.bind (ih subset equipment held uncharged apart joined stream _)
      exact fun _ after ran => ran.watch again rfl
  | @act duty duties core module rest acts further ih =>
    have mine : ∀ handle ∈ module.bindings.handles, handle ∈ base.core :=
      fun handle member => held handle (List.mem_append_left _ member)
    have first : Uncharged [duty.role] done := fun detector member =>
      uncharged detector (List.mem_cons.mpr (.inl (List.mem_singleton.mp member)))
    apply Program.Ensures.bind
      (acts.keepsBenches_run small equipment mine first stream reached)
    rintro ⟨result, stopped, context⟩ middle ⟨completes, faults⟩
    by_cases fits : duty.Fits done
    · obtain ⟨state, ended, again, sent⟩ := completes fits
      cases ended
      have later : ∀ handle ∈ core, handle ∈ base.core :=
        fun handle member => held handle (List.mem_append_right _ member)
      apply Program.Ensures.bind (ih known equipment later (uncharged.act apart stream)
        (List.pairwise_cons.mp apart).2 sent _ _)
      rw [perform_cons_of_fits fits]
      exact fun _ after ran => ran.act again rfl
    · obtain ⟨rfl, reached⟩ := faults fits
      rw [perform_cons_of_crowded fits]
      refine ⟨⟨[], done, ?_, List.prefix_refl done, fun _ => rfl, by rintro ⟨⟩⟩, by simp,
        fun _ => rfl⟩
      rwa [Bench.join_nil]

end Lineup

end Beamline.Demo
