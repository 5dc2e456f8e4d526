import Beamline.Proofs.Interleaving

/-!
Schedules as sequences of turns. Running the programs to their ends is a matter of further turns, so
whatever each operation keeps is kept by the whole of every schedule.
-/

namespace Beamline.Run

variable {S : Signature} {σ α β : Type}
  {handler : (operation : S.Operation) → σ → S.Answer operation × σ}

theorem interleave_append (programs : List (Program S α)) (earlier later : List Nat) (state : σ) :
    interleave handler programs (earlier ++ later) state =
      interleave handler (interleave handler programs earlier state).1 later
        (interleave handler programs earlier state).2 := by
  induction earlier generalizing programs state with
  | nil => rfl
  | cons turn rest ih => exact ih _ _

private theorem takeTurn_of_found {programs : List (Program S α)} {place : Nat}
    {program : Program S α}
    (found : programs[place]? = some program) (state : σ) :
    takeTurn handler programs place state =
      (programs.set place (program.step handler state).1, (program.step handler state).2) := by
  simp only [takeTurn, found]

theorem set_of_found {programs : List (Program S α)} {place : Nat} {program : Program S α}
    (found : programs[place]? = some program) : programs.set place program = programs := by
  obtain ⟨within, rfl⟩ := List.getElem?_eq_some_iff.mp found
  exact List.set_getElem_self within

theorem exists_turns_of_run {programs : List (Program S α)} {place : Nat}
    {program : Program S α} (found : programs[place]? = some program) (state : σ) :
    ∃ turns, interleave handler programs turns state =
      (programs.set place (.done (program.run handler state).1),
        (program.run handler state).2) := by
  induction program generalizing programs state with
  | done result =>
    refine ⟨[], ?_⟩
    simp only [Program.run, set_of_found found]
    rfl
  | call operation next ih =>
    have within : place < programs.length := (List.getElem?_eq_some_iff.mp found).1
    have present : (programs.set place (next (handler operation state).1))[place]? =
        some (next (handler operation state).1) := List.getElem?_set_self within
    obtain ⟨turns, ended⟩ := ih _ present (handler operation state).2
    refine ⟨place :: turns, ?_⟩
    rw [List.set_set] at ended
    rw [interleave, takeTurn_of_found found]
    exact ended

/-- Programs that run to their ends one after the other take turns, too. -/
theorem exists_turns_of_finishAll (ended : List α) (programs : List (Program S α)) (state : σ) :
    ∃ turns, interleave handler (ended.map .done ++ programs) turns state =
      ((ended ++ (finishAll handler programs state).1).map .done,
        (finishAll handler programs state).2) := by
  induction programs generalizing ended state with
  | nil => exact ⟨[], by simp [interleave, finishAll]⟩
  | cons program rest ih =>
    have found : (ended.map Program.done ++ program :: rest)[ended.length]? = some program := by
      rw [List.getElem?_append_right (by simp)]
      simp
    obtain ⟨first, ran⟩ := exists_turns_of_run found state
    obtain ⟨later, finished⟩ :=
      ih (ended ++ [(program.run handler state).1]) (program.run handler state).2
    refine ⟨first ++ later, ?_⟩
    have put : (ended.map Program.done ++ program :: rest).set ended.length
        (.done (program.run handler state).1) =
          (ended ++ [(program.run handler state).1]).map Program.done ++ rest := by
      rw [List.set_append_right _ _ (by simp)]
      simp
    rw [interleave_append, ran, put, finished]
    simp [finishAll]

/-- A schedule and the ends of all programs after it are one sequence of turns. -/
theorem exists_turns_of_runScheduled
    (handler : (operation : S.Operation) → σ → S.Answer operation × σ)
    (programs : List (Program S α)) (turns : List Nat) (state : σ) :
    ∃ all, interleave handler programs all state =
      ((runScheduled handler programs turns state).1.map .done,
        (runScheduled handler programs turns state).2) := by
  obtain ⟨later, finished⟩ := exists_turns_of_finishAll []
    (interleave handler programs turns state).1 (interleave handler programs turns state).2
  refine ⟨turns ++ later, ?_⟩
  rw [interleave_append]
  exact finished

theorem runScheduled_length (handler : (operation : S.Operation) → σ → S.Answer operation × σ)
    (programs : List (Program S α)) (turns : List Nat) (state : σ) :
    (runScheduled handler programs turns state).1.length = programs.length := by
  obtain ⟨all, ended⟩ := exists_turns_of_runScheduled handler programs turns state
  have same := @interleave_length S σ α handler programs all state
  rwa [ended, List.length_map] at same

section Invariant

variable {holds : List (Program S α) → σ → Prop}
  (kept : ∀ (programs : List (Program S α)) (place : Nat) (operation : S.Operation)
    (next : S.Answer operation → Program S α) (state : σ),
    programs[place]? = some (.call operation next) → holds programs state →
      holds (programs.set place (next (handler operation state).1)) (handler operation state).2)

include kept

theorem interleave_keeps (turns : List Nat) {programs : List (Program S α)} {state : σ}
    (begins : holds programs state) :
    holds (interleave handler programs turns state).1
      (interleave handler programs turns state).2 := by
  induction turns generalizing programs state with
  | nil => exact begins
  | cons turn rest ih =>
    apply ih
    cases found : programs[turn]? with
    | none => simpa only [takeTurn, found] using begins
    | some program =>
      cases program with
      | done result => simpa only [Program.step, set_of_found found] using begins
      | call operation next => exact kept programs turn operation next state found begins

theorem runScheduled_keeps (turns : List Nat) {programs : List (Program S α)} {state : σ}
    (begins : holds programs state) :
    holds ((runScheduled handler programs turns state).1.map .done)
      (runScheduled handler programs turns state).2 := by
  obtain ⟨all, ended⟩ := exists_turns_of_runScheduled handler programs turns state
  have last := interleave_keeps kept all begins
  rwa [ended] at last

end Invariant

end Beamline.Run
