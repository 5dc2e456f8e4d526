import Beamline.Proofs.Turns
import Mathlib.Logic.Function.Basic

/-!
What programs guarantee while others take turns with them. Each party has a view of the shared
state; between two of its operations the state may change in every way that still fits all views,
and each of its own operations may move its own view only.
-/

namespace Beamline.Run

namespace Program

section Respects

variable {S T : Signature} {σ α β : Type} {permitted : S.Operation → Prop}

/-- Whatever the operations answer, a program asks only for permitted ones and ends well. -/
def Respects (permitted : S.Operation → Prop) (good : α → Prop) : Program S α → Prop
  | done result => good result
  | call operation next =>
    permitted operation ∧ ∀ answer, (next answer).Respects permitted good

theorem Respects.mono {good better : α → Prop} (weaker : ∀ result, good result → better result)
    {program : Program S α} (respects : program.Respects permitted good) :
    program.Respects permitted better := by
  induction program with
  | done result => exact weaker result respects
  | call operation next ih => exact ⟨respects.1, fun answer => ih answer (respects.2 answer)⟩

theorem Respects.bind {good : α → Prop} {better : β → Prop} {program : Program S α}
    {next : α → Program S β} (first : program.Respects permitted good)
    (second : ∀ result, good result → (next result).Respects permitted better) :
    (program.bind next).Respects permitted better := by
  induction program with
  | done result => exact second result first
  | call operation rest ih => exact ⟨first.1, fun answer => ih answer (first.2 answer)⟩

theorem respects_ask {operation : S.Operation} (allowed : permitted operation) :
    (ask operation).Respects permitted fun _ => True :=
  ⟨allowed, fun _ => trivial⟩

/-- A program inside another one. -/
theorem Respects.within {outer : T.Operation → Prop} {good : α → Prop} {program : Program S α}
    {interpret : (operation : S.Operation) → σ → Program T (S.Answer operation × σ)}
    (translated : ∀ operation state, permitted operation →
      (interpret operation state).Respects outer fun _ => True)
    (respects : program.Respects permitted good) (state : σ) :
    (program.within interpret state).Respects outer fun ended => good ended.1 := by
  induction program generalizing state with
  | done result => exact respects
  | call operation next ih =>
    apply (translated operation state respects.1).bind
    intro answered _
    exact ih _ (respects.2 _) _

end Respects

section Ensures

variable {S : Signature} {σ α β V : Type}
  {handler : (operation : S.Operation) → σ → S.Answer operation × σ}
  {fits : (Nat → V) → σ → Prop} {own : Nat}

/-- From a view of its own, a program keeps all views fitting, whatever the others do that keeps
them fitting, and comes to a good end. -/
def Ensures (handler : (operation : S.Operation) → σ → S.Answer operation × σ)
    (fits : (Nat → V) → σ → Prop) (own : Nat) (good : α → V → Prop) : Program S α → V → Prop
  | done result, view => good result view
  | call operation next, view => ∀ views state, fits views state → views own = view →
      ∃ after, fits (Function.update views own after) (handler operation state).2 ∧
        (next (handler operation state).1).Ensures handler fits own good after

theorem Ensures.mono {good better : α → V → Prop}
    (weaker : ∀ result view, good result view → better result view) {program : Program S α}
    {view : V} (ensures : program.Ensures handler fits own good view) :
    program.Ensures handler fits own better view := by
  induction program generalizing view with
  | done result => exact weaker result view ensures
  | call operation next ih =>
    intro views state fit seen
    obtain ⟨after, kept, rest⟩ := ensures views state fit seen
    exact ⟨after, kept, ih _ rest⟩

theorem Ensures.bind {good : α → V → Prop} {better : β → V → Prop} {program : Program S α}
    {next : α → Program S β} {view : V} (first : program.Ensures handler fits own good view)
    (second : ∀ result view, good result view →
      (next result).Ensures handler fits own better view) :
    (program.bind next).Ensures handler fits own better view := by
  induction program generalizing view with
  | done result => exact second result view first
  | call operation rest ih =>
    intro views state fit seen
    obtain ⟨after, kept, onward⟩ := first views state fit seen
    exact ⟨after, kept, ih _ onward⟩

/-- What is certain of the result holds in addition. -/
theorem Ensures.and {good : α → V → Prop} {permitted : S.Operation → Prop} {certain : α → Prop}
    {program : Program S α} {view : V} (ensures : program.Ensures handler fits own good view)
    (respects : program.Respects permitted certain) :
    program.Ensures handler fits own (fun result last => good result last ∧ certain result)
      view := by
  induction program generalizing view with
  | done result => exact ⟨ensures, respects⟩
  | call operation next ih =>
    intro views state fit seen
    obtain ⟨after, kept, rest⟩ := ensures views state fit seen
    exact ⟨after, kept, ih _ rest (respects.2 _)⟩

/-- One operation. -/
theorem ensures_ask {operation : S.Operation} {good : S.Answer operation → V → Prop} {view : V}
    (step : ∀ views state, fits views state → views own = view →
      ∃ after, fits (Function.update views own after) (handler operation state).2 ∧
        good (handler operation state).1 after) :
    (ask operation).Ensures handler fits own good view :=
  step

/-- A program whose operations fit every view leaves its own view alone. -/
theorem Respects.ensures {permitted : S.Operation → Prop} {good : α → Prop}
    {program : Program S α} (respects : program.Respects permitted good)
    (kept : ∀ operation, permitted operation → ∀ views state, fits views state →
      fits views (handler operation state).2) (view : V) :
    program.Ensures handler fits own (fun result last => good result ∧ last = view) view := by
  induction program with
  | done result => exact ⟨respects, rfl⟩
  | call operation next ih =>
    intro views state fit seen
    refine ⟨view, ?_, ih _ (respects.2 _)⟩
    rw [← seen, Function.update_eq_self]
    exact kept operation respects.1 views state fit

/-- A program that nobody interrupts. -/
theorem Ensures.run {good : α → V → Prop} {program : Program S α} {views : Nat → V} {state : σ}
    (ensures : program.Ensures handler fits own good (views own)) (fit : fits views state) :
    ∃ after, fits (Function.update views own after) (program.run handler state).2 ∧
      good (program.run handler state).1 after := by
  induction program generalizing views state with
  | done result =>
    refine ⟨views own, ?_, ensures⟩
    rwa [Function.update_eq_self]
  | call operation next ih =>
    obtain ⟨middle, kept, rest⟩ := ensures views state fit rfl
    have onward : (next (handler operation state).1).Ensures handler fits own good
        (Function.update views own middle own) := by
      rwa [Function.update_self]
    obtain ⟨after, fitting, ends⟩ := ih _ onward kept
    rw [Function.update_idem] at fitting
    exact ⟨after, fitting, ends⟩

end Ensures

end Program

/-- By every schedule, programs that keep the views of all parties come to good ends. Parties
without a program keep their views. -/
theorem runScheduled_ensures {S : Signature} {σ α V : Type}
    {handler : (operation : S.Operation) → σ → S.Answer operation × σ}
    {fits : (Nat → V) → σ → Prop} {good : Nat → α → V → Prop} {programs : List (Program S α)}
    {views : Nat → V} {state : σ} (fit : fits views state)
    (each : ∀ place (program : Program S α), programs[place]? = some program →
      program.Ensures handler fits place (good place) (views place)) (turns : List Nat) :
    ∃ last, fits last (runScheduled handler programs turns state).2 ∧
      (∀ place result, (runScheduled handler programs turns state).1[place]? = some result →
        good place result (last place)) ∧
      ∀ place, programs.length ≤ place → last place = views place := by
  let holds (underway : List (Program S α)) (state : σ) : Prop :=
    underway.length = programs.length ∧ ∃ last, fits last state ∧
      (∀ place (program : Program S α), underway[place]? = some program →
        program.Ensures handler fits place (good place) (last place)) ∧
      ∀ place, programs.length ≤ place → last place = views place
  have kept (underway : List (Program S α)) (place : Nat) (operation : S.Operation)
      (next : S.Answer operation → Program S α) (state : σ)
      (found : underway[place]? = some (.call operation next)) (before : holds underway state) :
      holds (underway.set place (next (handler operation state).1))
        (handler operation state).2 := by
    obtain ⟨length, last, fit, each, others⟩ := before
    obtain ⟨after, fitting, rest⟩ := each place _ found last state fit rfl
    have within := (List.getElem?_eq_some_iff.mp found).1
    refine ⟨List.length_set.trans length, Function.update last place after, fitting, ?_, ?_⟩
    · intro other program present
      by_cases same : other = place
      · subst same
        rw [List.getElem?_set_self within, Option.some.injEq] at present
        rw [← present, Function.update_self]
        exact rest
      · rw [List.getElem?_set_ne (Ne.symm same)] at present
        rw [Function.update_of_ne same]
        exact each other program present
    · intro other beyond
      rw [Function.update_of_ne (by omega)]
      exact others other beyond
  obtain ⟨_, last, fitting, ends, others⟩ :=
    runScheduled_keeps kept turns ⟨rfl, views, fit, each, fun _ _ => rfl⟩
  refine ⟨last, fitting, fun place result found => ?_, others⟩
  exact ends place (.done result) (by rw [List.getElem?_map, found]; rfl)

end Beamline.Run
