import Beamline.Proofs.Lists
import Beamline.Run.Schedule

namespace Beamline.Run

variable {S : Signature} {σ ι V α β : Type}

namespace Program

/-- A program comes from one view to a result and another view, whatever else happens to the state
between its operations: wherever its view fits the state, its next operation leaves the views of all
others alone, and a view that fits afterwards leads on to the same end. -/
def Comes (handler : (operation : S.Operation) → σ → S.Answer operation × σ)
    (shows : ι → V → σ → Prop) (own : ι) : Program S α → V → α → V → Prop
  | done result, view, value, after =>
    result = value ∧ ∀ state, shows own view state → shows own after state
  | call operation next, view, value, after => ∀ state, shows own view state →
    (∀ other, other ≠ own → ∀ seen, shows other seen state →
      shows other seen (handler operation state).2) ∧
    ∃ middle, shows own middle (handler operation state).2 ∧
      (next (handler operation state).1).Comes handler shows own middle value after

variable {handler : (operation : S.Operation) → σ → S.Answer operation × σ}
  {shows : ι → V → σ → Prop} {own : ι}

theorem comes_done {view : V} {value : α} :
    (done value : Program S α).Comes handler shows own view value view :=
  ⟨rfl, fun _ fits => fits⟩

theorem Comes.of_implied {program : Program S α} {view implied after : V} {value : α}
    (implies : ∀ state, shows own view state → shows own implied state)
    (comes : program.Comes handler shows own implied value after) :
    program.Comes handler shows own view value after := by
  cases program with
  | done result => exact ⟨comes.1, fun state fits => comes.2 state (implies state fits)⟩
  | call operation next => exact fun state fits => comes state (implies state fits)

theorem Comes.bind {program : Program S α} {next : α → Program S β} {view middle after : V}
    {value : α} {result : β} (first : program.Comes handler shows own view value middle)
    (second : (next value).Comes handler shows own middle result after) :
    (program.bind next).Comes handler shows own view result after := by
  induction program generalizing view with
  | done known =>
    obtain ⟨rfl, implies⟩ := first
    exact second.of_implied implies
  | call operation rest ih =>
    intro state fits
    obtain ⟨others, seen, shown, further⟩ := first state fits
    exact ⟨others, seen, shown, ih _ further⟩

/-- In the end a view may be replaced by one that fits wherever it does. -/
theorem Comes.implies {program : Program S α} {view after implied : V} {value : α}
    (comes : program.Comes handler shows own view value after)
    (implies : ∀ state, shows own after state → shows own implied state) :
    program.Comes handler shows own view value implied := by
  induction program generalizing view with
  | done result => exact ⟨comes.1, fun state fits => implies state (comes.2 state fits)⟩
  | call operation next ih =>
    intro state fits
    obtain ⟨others, seen, shown, further⟩ := comes state fits
    exact ⟨others, seen, shown, ih _ further⟩

/-- An operation that leads from one view to another and leaves the views of all others alone. Its
answer is of no account. -/
def Moves (handler : (operation : S.Operation) → σ → S.Answer operation × σ)
    (shows : ι → V → σ → Prop) (own : ι) (operation : S.Operation) (view after : V) : Prop :=
  ∀ state, shows own view state → shows own after (handler operation state).2 ∧
    ∀ other, other ≠ own → ∀ seen, shows other seen state →
      shows other seen (handler operation state).2

/-- The answer of an operation, where the view tells it. -/
def Answers (handler : (operation : S.Operation) → σ → S.Answer operation × σ)
    (shows : ι → V → σ → Prop) (own : ι) (operation : S.Operation) (view : V)
    (answer : S.Answer operation) : Prop :=
  ∀ state, shows own view state → (handler operation state).1 = answer

theorem Moves.ask {operation : S.Operation} {view after : V} {answer : S.Answer operation}
    (moves : Moves handler shows own operation view after)
    (answers : Answers handler shows own operation view answer) :
    (ask operation).Comes handler shows own view answer after := by
  intro state fits
  obtain ⟨shown, others⟩ := moves state fits
  exact ⟨others, after, shown, answers state fits, fun _ fits => fits⟩

/-- An operation before a program that does not look at its answer. -/
theorem Moves.call {operation : S.Operation} {next : S.Answer operation → Program S α}
    {view middle after : V} {value : α} (moves : Moves handler shows own operation view middle)
    (further : ∀ answer, (next answer).Comes handler shows own middle value after) :
    (call operation next).Comes handler shows own view value after := by
  intro state fits
  obtain ⟨shown, others⟩ := moves state fits
  exact ⟨others, middle, shown, further _⟩

/-- A program that nothing interrupts comes to its end, and the views of others still fit. -/
theorem Comes.run {program : Program S α} {view after : V} {value : α}
    (comes : program.Comes handler shows own view value after) {state : σ}
    (fits : shows own view state) : (program.run handler state).1 = value ∧
      shows own after (program.run handler state).2 ∧
      ∀ other, other ≠ own → ∀ seen, shows other seen state →
        shows other seen (program.run handler state).2 := by
  induction program generalizing view state with
  | done known => exact ⟨comes.1, comes.2 state fits, fun _ _ _ shown => shown⟩
  | call operation rest ih =>
    obtain ⟨others, middle, shown, further⟩ := comes state fits
    obtain ⟨result, ended, undisturbed⟩ := ih _ further shown
    exact ⟨result, ended, fun other different seen before =>
      undisturbed other different seen (others other different seen before)⟩

/-- The next operation of a program leads it on. -/
theorem Comes.step {program : Program S α} {view after : V} {value : α}
    (comes : program.Comes handler shows own view value after) {state : σ}
    (fits : shows own view state) : ∃ middle,
      (program.step handler state).1.Comes handler shows own middle value after ∧
      shows own middle (program.step handler state).2 ∧
      ∀ other, other ≠ own → ∀ seen, shows other seen state →
        shows other seen (program.step handler state).2 := by
  cases program with
  | done known => exact ⟨view, comes, fits, fun _ _ _ shown => shown⟩
  | call operation rest =>
    obtain ⟨others, middle, shown, further⟩ := comes state fits
    exact ⟨middle, further, shown, others⟩

end Program

/-! ## Taking turns -/

section Turns

variable {handler : (operation : S.Operation) → σ → S.Answer operation × σ}
  {shows : ι → V → σ → Prop} {names : Nat → ι} {values : Nat → α} {ends : Nat → V} {count : Nat}

/-- Programs that will come to certain ends. The first of them has a number, and each of the others
the next one. -/
def Underway (handler : (operation : S.Operation) → σ → S.Answer operation × σ)
    (shows : ι → V → σ → Prop) (names : Nat → ι) (values : Nat → α) (ends : Nat → V)
    (first : Nat) (programs : List (Program S α)) (state : σ) : Prop :=
  ∀ (place : Nat) (program : Program S α), programs[place]? = some program → ∃ view,
    program.Comes handler shows (names (first + place)) view (values (first + place))
        (ends (first + place)) ∧
      shows (names (first + place)) view state

theorem takeTurn_length (programs : List (Program S α)) (turn : Nat) (state : σ) :
    (takeTurn handler programs turn state).1.length = programs.length := by
  unfold takeTurn
  cases programs[turn]? with
  | none => rfl
  | some program => exact List.length_set

theorem interleave_length (programs : List (Program S α)) (turns : List Nat) (state : σ) :
    (interleave handler programs turns state).1.length = programs.length := by
  induction turns generalizing programs state with
  | nil => rfl
  | cons turn rest ih => exact (ih _ _).trans (takeTurn_length programs turn state)

variable (apart : ∀ one other, one < count → other < count → names one = names other → one = other)

include apart

theorem Underway.takeTurn {programs : List (Program S α)} (all : programs.length = count)
    {state : σ} (underway : Underway handler shows names values ends 0 programs state)
    (turn : Nat) : Underway handler shows names values ends 0
      (takeTurn handler programs turn state).1 (takeTurn handler programs turn state).2 := by
  unfold Run.takeTurn
  cases found : programs[turn]? with
  | none => exact underway
  | some program =>
    have within : turn < programs.length := (List.getElem?_eq_some_iff.mp found).1
    obtain ⟨view, comes, fits⟩ := underway turn program found
    obtain ⟨middle, further, shown, others⟩ := comes.step fits
    intro place next present
    by_cases same : turn = place
    · subst same
      rw [List.getElem?_set_self within] at present
      cases present
      exact ⟨middle, further, shown⟩
    · rw [List.getElem?_set_ne same] at present
      have known : place < programs.length := (List.getElem?_eq_some_iff.mp present).1
      obtain ⟨seen, goes, met⟩ := underway place next present
      refine ⟨seen, goes, others _ (fun named => same ?_) seen met⟩
      have equal := apart (0 + place) (0 + turn) (by omega) (by omega) named
      omega

theorem Underway.interleave {programs : List (Program S α)} (all : programs.length = count)
    {state : σ} (underway : Underway handler shows names values ends 0 programs state)
    (turns : List Nat) : Underway handler shows names values ends 0
      (interleave handler programs turns state).1 (interleave handler programs turns state).2 := by
  induction turns generalizing programs state with
  | nil => exact underway
  | cons turn rest ih =>
    exact ih ((takeTurn_length programs turn state).trans all)
      (underway.takeTurn apart all turn)

/-- Programs that run to their ends one after the other come there, each of them. -/
theorem Underway.finishAll {first : Nat} {programs : List (Program S α)}
    (all : first + programs.length = count) {state : σ}
    (underway : Underway handler shows names values ends first programs state) :
    (finishAll handler programs state).1 =
        (List.range' first programs.length).map values ∧
      (∀ place < programs.length, shows (names (first + place)) (ends (first + place))
        (finishAll handler programs state).2) ∧
      ∀ earlier < first, ∀ seen, shows (names earlier) seen state →
        shows (names earlier) seen (finishAll handler programs state).2 := by
  induction programs generalizing first state with
  | nil => exact ⟨rfl, by simp, fun _ _ _ shown => shown⟩
  | cons program rest ih =>
    rw [List.length_cons] at all
    obtain ⟨view, comes, fits⟩ := underway 0 program rfl
    obtain ⟨result, ended, others⟩ := comes.run fits
    have kept (other : Nat) (known : other < count) (different : other ≠ first) (seen : V)
        (shown : shows (names other) seen state) :
        shows (names other) seen (program.run handler state).2 :=
      others _ (fun named => different (apart other first known (by omega) named)) seen shown
    have onward : Underway handler shows names values ends (first + 1) rest
        (program.run handler state).2 := by
      intro place next found
      have within : place < rest.length := (List.getElem?_eq_some_iff.mp found).1
      obtain ⟨seen, goes, met⟩ := underway (place + 1) next found
      have shifted : first + (place + 1) = first + 1 + place := by omega
      rw [shifted] at goes met
      exact ⟨seen, goes, kept _ (by omega) (by omega) seen met⟩
    obtain ⟨results, ending, before⟩ := ih (by omega) onward
    refine ⟨?_, ?_, ?_⟩
    · rw [List.length_cons, List.range'_succ, List.map_cons]
      exact congrArg₂ List.cons result results
    · intro place within
      cases place with
      | zero => exact before first (by omega) _ ended
      | succ place =>
        have shifted : first + (place + 1) = first + 1 + place := by omega
        rw [shifted]
        exact ending place (by simpa using within)
    · intro earlier below seen shown
      exact before earlier (by omega) seen (kept earlier (by omega) (by omega) seen shown)

/-- By every schedule, programs that do not disturb each other come to the ends that each of them
comes to by itself. -/
theorem runScheduled_of_comes {programs : List (Program S α)} (all : programs.length = count)
    {state : σ} (underway : Underway handler shows names values ends 0 programs state)
    (turns : List Nat) :
    (runScheduled handler programs turns state).1 = (List.range count).map values ∧
      ∀ place < count, shows (names place) (ends place)
        (runScheduled handler programs turns state).2 := by
  have left : (interleave handler programs turns state).1.length = count :=
    (interleave_length programs turns state).trans all
  obtain ⟨results, ending, _⟩ := (underway.interleave apart all turns).finishAll apart
    ((Nat.zero_add _).trans left)
  rw [left] at results ending
  simp only [Nat.zero_add] at ending
  rw [← List.range_eq_range'] at results
  exact ⟨results, ending⟩

end Turns

/-- By every schedule, parties that do not disturb each other come to their own ends. -/
theorem runScheduled_of_parties {π : Type}
    {handler : (operation : S.Operation) → σ → S.Answer operation × σ}
    {shows : ι → V → σ → Prop} {parties : List π} {name : π → ι} {program : π → Program S α}
    {value : π → α} {final : π → V} (apart : (parties.map name).Nodup) {state : σ}
    (comes : ∀ party ∈ parties, ∃ view,
      (program party).Comes handler shows (name party) view (value party) (final party) ∧
        shows (name party) view state) (turns : List Nat) :
    (runScheduled handler (parties.map program) turns state).1 = parties.map value ∧
      ∀ party ∈ parties, shows (name party) (final party)
        (runScheduled handler (parties.map program) turns state).2 := by
  rcases parties.eq_nil_or_concat with rfl | ⟨_, other, _⟩
  · have none (turns : List Nat) :
        interleave handler ([] : List (Program S α)) turns state = ([], state) := by
      induction turns with
      | nil => rfl
      | cons turn rest ih => exact ih
    rw [List.map_nil, runScheduled, none turns]
    exact ⟨rfl, by simp⟩
  · let party (place : Nat) : π := parties.getD place other
    have listed {place : Nat} (within : place < parties.length) : party place = parties[place] := by
      simp [party, within]
    have distinct : ∀ one another, one < parties.length → another < parties.length →
        name (party one) = name (party another) → one = another := by
      intro one another first second same
      rw [listed first, listed second] at same
      have equal : (parties.map name).get ⟨one, by simpa⟩ =
          (parties.map name).get ⟨another, by simpa⟩ := by simpa using same
      exact congrArg Fin.val ((List.Nodup.get_inj_iff apart).mp equal)
    have underway : Underway handler shows (fun place => name (party place))
        (fun place => value (party place)) (fun place => final (party place)) 0
        (parties.map program) state := by
      intro place next found
      obtain ⟨within, rfl⟩ := List.getElem?_eq_some_iff.mp found
      rw [List.length_map] at within
      simp only [Nat.zero_add, listed within, List.getElem_map]
      exact comes _ (List.getElem_mem within)
    obtain ⟨results, ends⟩ :=
      runScheduled_of_comes distinct (List.length_map program) underway turns
    refine ⟨results.trans (map_range_getD parties other value), fun one member => ?_⟩
    obtain ⟨place, within, rfl⟩ := List.getElem_of_mem member
    have ended := ends place within
    rwa [listed within] at ended

/-! ## Observed runs -/

section Observed

variable {τ : Type} {handler : (operation : S.Operation) → σ → S.Answer operation × σ}
  {observed : (operation : S.Operation) → τ → S.Answer operation × τ} {part : τ → σ}

/-- One handler does to a part of its state what another one does to the whole. -/
def Extends (observed : (operation : S.Operation) → τ → S.Answer operation × τ)
    (handler : (operation : S.Operation) → σ → S.Answer operation × σ) (part : τ → σ) : Prop :=
  ∀ operation state, (observed operation state).1 = (handler operation (part state)).1 ∧
    part (observed operation state).2 = (handler operation (part state)).2

variable (same : Extends observed handler part)

include same

theorem Program.run_of_extends (program : Program S α) (state : τ) :
    (program.run observed state).1 = (program.run handler (part state)).1 ∧
      part (program.run observed state).2 = (program.run handler (part state)).2 := by
  induction program generalizing state with
  | done result => exact ⟨rfl, rfl⟩
  | call operation next ih =>
    obtain ⟨answer, after⟩ := same operation state
    simp only [run]
    rw [← answer, ← after]
    exact ih _ _

private theorem takeTurn_of_extends (programs : List (Program S α)) (turn : Nat) (state : τ) :
    (takeTurn observed programs turn state).1 = (takeTurn handler programs turn (part state)).1 ∧
      part (takeTurn observed programs turn state).2 =
        (takeTurn handler programs turn (part state)).2 := by
  unfold takeTurn
  cases programs[turn]? with
  | none => exact ⟨rfl, rfl⟩
  | some program =>
    cases program with
    | done result => exact ⟨rfl, rfl⟩
    | call operation next =>
      obtain ⟨answer, after⟩ := same operation state
      simp only [Program.step]
      rw [← answer, ← after]
      exact ⟨rfl, rfl⟩

private theorem interleave_of_extends (programs : List (Program S α)) (turns : List Nat)
    (state : τ) :
    (interleave observed programs turns state).1 =
        (interleave handler programs turns (part state)).1 ∧
      part (interleave observed programs turns state).2 =
        (interleave handler programs turns (part state)).2 := by
  induction turns generalizing programs state with
  | nil => exact ⟨rfl, rfl⟩
  | cons turn rest ih =>
    obtain ⟨further, after⟩ := takeTurn_of_extends same programs turn state
    simp only [interleave]
    rw [← further, ← after]
    exact ih _ _

private theorem finishAll_of_extends (programs : List (Program S α)) (state : τ) :
    (finishAll observed programs state).1 = (finishAll handler programs (part state)).1 ∧
      part (finishAll observed programs state).2 =
        (finishAll handler programs (part state)).2 := by
  induction programs generalizing state with
  | nil => exact ⟨rfl, rfl⟩
  | cons program rest ih =>
    obtain ⟨result, after⟩ := program.run_of_extends same state
    obtain ⟨results, ended⟩ := ih (program.run observed state).2
    simp only [finishAll]
    rw [← after, ← result, results]
    exact ⟨rfl, ended⟩

theorem runScheduled_of_extends (programs : List (Program S α)) (turns : List Nat) (state : τ) :
    (runScheduled observed programs turns state).1 =
        (runScheduled handler programs turns (part state)).1 ∧
      part (runScheduled observed programs turns state).2 =
        (runScheduled handler programs turns (part state)).2 := by
  obtain ⟨left, after⟩ := interleave_of_extends same programs turns state
  obtain ⟨results, ended⟩ := finishAll_of_extends same
    (interleave observed programs turns state).1 (interleave observed programs turns state).2
  simp only [runScheduled]
  rw [← after, ← left]
  exact ⟨results, ended⟩

end Observed

end Beamline.Run
