import Beamline.Proofs.BuildAccounts
import Beamline.Proofs.Chronicles
import Beamline.Proofs.CourseEvents

namespace Beamline.Run

open Bus

section Loop

variable {live : List Handle} {calm : Prop} {own : Nat} {members : List Member} {lane : Lane Unit}
  {showing : Showing}

/-- The cells in which an event finds its lane: those that setting up left for the first event of the
lane, and empty ones afterwards. -/
def Plan.opening (plan : Plan) (prepared : List Cell) (event : UInt64) : List Cell :=
  if event < plan.stride then prepared else prepared.map Cell.emptied

def Plan.Succeeds (plan : Plan) (members : List Member) (prepared : List Cell) (event : UInt64) :
    Prop :=
  Run.Succeeds members plan.seed event (plan.opening prepared event)

/-- What the modules notice and do in an event of a run. -/
def Plan.sightsOf (plan : Plan) (members : List Member) (prepared : List Cell) (event : UInt64) :
    List Sight :=
  Run.sightsOf members plan.seed event (plan.opening prepared event)

/-- What a lane shows after all its events from one on. -/
def Showing.afterAll (showing : Showing) (plan : Plan) (members : List Member)
    (prepared : List Cell) (event : UInt64) : Showing where
  cells := if event < plan.total then prepared.map Cell.emptied else showing.cells
  seen := showing.seen ++ (plan.eventsFrom event).flatMap fun event =>
    (plan.sightsOf members prepared event).map (Prod.mk event)

private theorem Cell.map_emptied_emptied (cells : List Cell) :
    (cells.map emptied).map emptied = cells.map emptied := by
  rw [List.map_map]
  rfl

theorem Plan.emptied_opening (plan : Plan) (prepared : List Cell) (event : UInt64) :
    (plan.opening prepared event).map Cell.emptied = prepared.map Cell.emptied := by
  unfold opening
  split
  · rfl
  · exact Cell.map_emptied_emptied prepared

private theorem Plan.length_opening (plan : Plan) (prepared : List Cell) (event : UInt64) :
    (plan.opening prepared event).length = prepared.length := by
  have same := congrArg List.length (plan.emptied_opening prepared event)
  rwa [List.length_map, List.length_map] at same

private theorem Plan.opening_next {plan : Plan} (fits : plan.Fits) {event : UInt64}
    (early : event < plan.total) (prepared : List Cell) :
    plan.opening prepared (event + plan.stride) = prepared.map Cell.emptied := by
  refine if_neg ?_
  rw [UInt64.lt_iff_toNat_lt, (fits.lt_add early).1]
  omega

private theorem Showing.afterAll_next {plan : Plan} (fits : plan.Fits) {event : UInt64}
    (early : event < plan.total) {showing : Showing} {prepared : List Cell}
    (opens : showing.cells = plan.opening prepared event) :
    (showing.after members plan.seed event).afterAll plan members prepared (event + plan.stride) =
      showing.afterAll plan members prepared event := by
  have onward := (fits.lt_add early).2
  have cells : showing.cells.map Cell.emptied = prepared.map Cell.emptied := by
    rw [opens, plan.emptied_opening]
  have further : plan.eventsFrom event = event :: plan.eventsFrom (event + plan.stride) := by
    rw [Plan.eventsFrom, if_pos early, if_pos onward]
  unfold afterAll after
  rw [if_pos early, cells, ite_self, further, List.flatMap_cons, List.append_assoc,
    Plan.sightsOf, opens]

private theorem keepsStanding_isAborting (small : own ≤ ConfigError.maxWorkers) :
    (Process.ask .isAborting).KeepsStanding live calm own
      (fun (isAborting : Bool) later => later = showing ∧ (calm → isAborting = false))
      showing := by
  apply Program.ensures_ask (S := LaneOperations)
  rintro showings ⟨world, record⟩ stands rfl
  exact ⟨_, @Stands.stay _ _ _ _ _ _ _ stands small _ _ rfl rfl stands.calm none rfl
    (List.append_nil _).symm, rfl, stands.calm⟩

private theorem keepsStanding_abort (small : own ≤ ConfigError.maxWorkers) (wild : ¬calm) :
    (Process.ask .abort).KeepsStanding live calm own (fun _ _ => True) showing := by
  apply Program.ensures_ask (S := LaneOperations)
  rintro showings ⟨world, record⟩ stands rfl
  exact ⟨_, @Stands.stay _ _ _ _ _ _ _ stands small (showings own) _ rfl rfl
    (fun calmly => absurd calmly wild) none rfl (List.append_nil _).symm, trivial⟩

/-- A lane processes its events if they all succeed and the run is calm. -/
theorem keepsStanding_tellEvents {plan : Plan} (fits : plan.Fits) {prepared : List Cell}
    (fine : calm → ∀ event < plan.total, plan.Succeeds members prepared event)
    (built : lane.BuiltFrom live own members)
    (count : (handlesOf lane.modules).length = prepared.length) (event : UInt64)
    (opens : showing.cells = plan.opening prepared event) (processed : Nat)
    (past : Chronicle Unit) :
    (lane.tellEvents plan event processed past).KeepsStanding live calm own
      (fun ended later => ended.1.2 = lane ∧ (calm → ∃ count, ended.1.1 = .ok count) ∧
        ∀ count, ended.1.1 = .ok count →
          (∀ number ∈ plan.eventsFrom event, plan.Succeeds members prepared number) ∧
          later = showing.afterAll plan members prepared event) showing := by
  fun_induction Lane.tellEvents plan lane event processed past generalizing showing with
  | case1 lane event processed past early ih =>
    apply Program.Ensures.bind (keepsStanding_isAborting built.small)
    rintro (isAborting : Bool) showing ⟨rfl, calmly⟩
    cases isAborting with
    | true => exact ⟨rfl, fun calm => (by cases calmly calm), fun _ same => by cases same⟩
    | false =>
      have length : (handlesOf lane.modules).length = showing.cells.length := by
        rw [opens, plan.length_opening, count]
      apply Program.Ensures.bind (Lane.ensures_tellEvent
        (keepsStanding_runEvent built length event plan.seed))
      rintro ⟨⟨result, same⟩, calls⟩ middle ⟨rfl, succeeds, completed⟩
      rw [opens] at succeeds completed
      rcases result with (error | fault) | _
      · have wild : ¬calm := fun calmly => by cases succeeds (fine calmly event early)
        apply Program.Ensures.bind (keepsStanding_abort built.small wild)
        rintro _ _ _
        exact ⟨rfl, fun calmly => absurd calmly wild, fun _ same => by cases same⟩
      · exact ⟨rfl, fun calmly => (by cases succeeds (fine calmly event early)),
          fun _ same => by cases same⟩
      · obtain ⟨first, rfl⟩ := completed rfl
        have onward := (fits.lt_add early).2
        have opening : (showing.after members plan.seed event).cells =
            plan.opening prepared (event + plan.stride) := by
          rw [plan.opening_next fits early]
          exact (congrArg (List.map Cell.emptied) opens).trans (plan.emptied_opening _ _)
        have further : plan.eventsFrom event = event :: plan.eventsFrom (event + plan.stride) := by
          rw [Plan.eventsFrom, if_pos early, if_pos onward]
        dsimp only
        rw [if_pos onward]
        apply (ih _ _ _ onward built count opening).mono
        rintro ended last ⟨same, ends, completes⟩
        refine ⟨same, ends, fun number finished => ?_⟩
        obtain ⟨rest, rfl⟩ := completes number finished
        rw [further, List.forall_mem_cons]
        exact ⟨⟨first, rest⟩, Showing.afterAll_next fits early opens⟩
  | case2 lane event processed past late =>
    have none : plan.eventsFrom event = [] := by
      rw [Plan.eventsFrom, if_neg late]
    refine ⟨rfl, fun _ => ⟨_, rfl⟩, fun _ _ => ⟨by simp [none], ?_⟩⟩
    simp [Showing.afterAll, none, late]

end Loop

/-! ## All lanes -/

/-- The delegates of each lane show its cells. -/
structure Lays (live : List Handle) (cells : Nat → List Cell) (world : World) : Prop where
  separate : world.bus.Separate live live
  shown : ∀ place ≤ ConfigError.maxWorkers,
    Cell.AllShown world.bus.store (crewOf live place) (cells place)

section Stage

variable {live : List Handle} {cells : Nat → List Cell} {world after : World}
  {members : List Member} {number : Nat} {lanes : List (Lane Unit)} {lane : Lane Unit}

theorem Lays.stands (lays : Lays live cells world) {calm : Prop}
    (calmly : calm → world.aborting = false) :
    Stands live calm (fun place => { cells := cells place }) (world, []) :=
  ⟨lays.separate, lays.shown, fun _ _ => rfl, calmly⟩

theorem Stands.lays {calm : Prop} {showings : Nat → Showing} {state : World × Record}
    (stands : Stands live calm showings state) :
    Lays live (fun place => (showings place).cells) state.1 :=
  ⟨stands.separate, stands.shown⟩

/-- A process of one lane that nothing interrupts. -/
theorem Lays.finish {α : Type} (lays : Lays live cells world) {own : Nat} {process : Process α}
    {good : α → Showing → Prop}
    (keeps : process.KeepsStanding live False own good { cells := cells own }) :
    ∃ later, good (process.finish world).1 later ∧
      Lays live (Function.update cells own later.cells) (process.finish world).2 := by
  obtain ⟨later, record, ended, stands⟩ := Program.Ensures.finish keeps (lays.stands False.elim)
  have same := Function.comp_update Showing.cells (fun place => { cells := cells place }) own later
  exact ⟨later, ended, Eq.mp (congrArg (Lays live · _) same) stands.lays⟩

/-- Lanes with the numbers from one on, all built from the same parts. -/
def AllBuiltFrom (live : List Handle) (members : List Member) (number : Nat)
    (lanes : List (Lane Unit)) : Prop :=
  ∀ place (lane : Lane Unit), lanes[place]? = some lane →
    lane.BuiltFrom live (number + place) members

theorem allBuiltFrom_cons : AllBuiltFrom live members number (lane :: lanes) ↔
    lane.BuiltFrom live number members ∧ AllBuiltFrom live members (number + 1) lanes :=
  @forall_getElem?_cons (Lane Unit) (Lane.BuiltFrom live · members ·) number lane lanes

/-- What the modules of a lane do in a stage that finds these cells. -/
def serveStage (react : Member → Reaction) (members : List Member) (cells : List Cell) :
    Option Unit × Course :=
  serveInTurn react none 0 members { cells }

/-- What holds of the numbers in a row holds of the first and of the others, which do not see what
became of the first. -/
theorem forall_row_succ {α : Type} (holds : α → Prop) (values : Nat → α) (changed : α)
    (number count : Nat) :
    (∀ place, number ≤ place → place < number + (count + 1) → holds (values place)) ↔
      holds (values number) ∧ ∀ place, number + 1 ≤ place → place < number + 1 + count →
        holds (Function.update values number changed place) := by
  constructor
  · intro all
    refine ⟨all number (Nat.le_refl _) (by omega), fun place above below => ?_⟩
    rw [Function.update_of_ne (by omega)]
    exact all place (by omega) (by omega)
  · rintro ⟨first, others⟩ place above below
    by_cases here : place = number
    · exact here ▸ first
    · have other := others place (by omega) (by omega)
      rwa [Function.update_of_ne here] at other

/-- To change the values of the numbers in a row is to change the first and then the others. -/
theorem change_row_succ {α : Type} (change : α → α) (values : Nat → α) (number count : Nat) :
    (fun place => if number + 1 ≤ place ∧ place < number + 1 + count then
        change (Function.update values number (change (values number)) place)
      else Function.update values number (change (values number)) place) =
      fun place => if number ≤ place ∧ place < number + (count + 1) then change (values place)
        else values place := by
  funext place
  by_cases here : place = number
  · subst here
    rw [if_neg (by omega), if_pos (by omega), Function.update_self]
  · rw [Function.update_of_ne here]
    exact if_congr (by omega) rfl rfl

/-- A stage succeeds if the modules of each lane do. -/
theorem Lays.stageInTurn (lays : Lays live cells world) (stage : Stage)
    {code : Behaviour Unit → Code Unit Unit} {react : Member → Reaction}
    (same : ∀ (member : Member) slots,
      code (member.1.behaviour member.2 slots) = (react member).code slots)
    (built : AllBuiltFrom live members number lanes)
    {ended : Except Stop Unit × List (Lane Unit)}
    (finished : (Run.stageInTurn stage code lanes).finish world = (ended, after)) :
    ((∀ place, number ≤ place → place < number + lanes.length →
        (serveStage react members (cells place)).1 = some ()) → ended.1 = .ok ()) ∧
      (ended.1 = .ok () → ended.2 = lanes ∧
        (∀ place, number ≤ place → place < number + lanes.length →
          (serveStage react members (cells place)).1 = some ()) ∧
        Lays live (fun place => if number ≤ place ∧ place < number + lanes.length then
          (serveStage react members (cells place)).2.cells else cells place) after) := by
  induction lanes generalizing number cells world ended after with
  | nil =>
    obtain ⟨rfl, rfl⟩ := Prod.mk.inj finished
    have outside (place : Nat) : ¬(number ≤ place ∧ place < number + 0) := by omega
    refine ⟨fun _ => rfl, fun _ => ⟨rfl, fun place above below => ?_, ?_⟩⟩
    · exact absurd ⟨above, below⟩ (outside place)
    · simp only [List.length_nil, outside, if_false]
      exact lays
  | cons lane rest ih =>
    obtain ⟨first, others⟩ := allBuiltFrom_cons.mp built
    have called := @keepsStanding_callInTurn live False number [] first.small stage code react same
      members lane.modules first.builds first.crew none [] { cells := cells number }
    rcases begun : (callInTurn stage code lane.modules none).finish world with
      ⟨⟨result, modules, context⟩, middle⟩
    obtain ⟨_, ⟨tells, kept, rfl⟩, laid⟩ := lays.finish called
    replace finished := (Process.finish_bind begun).symm.trans finished
    change Process.finish (callInTurn stage code lane.modules none) world = _ at begun
    change Tells (serveStage react members (cells number)).1 _ at tells
    change Lays live (Function.update cells number
      (serveStage react members (cells number)).2.cells) _ at laid
    simp only [Option.map_none, begun] at tells kept laid
    subst kept
    rw [List.length_cons,
      forall_row_succ (fun cells => (serveStage react members cells).1 = some ()) cells
        (serveStage react members (cells number)).2.cells]
    cases served : (serveStage react members (cells number)).1 with
    | none =>
      rw [served] at tells
      obtain ⟨stop, rfl⟩ := tells
      obtain ⟨rfl, rfl⟩ := Prod.mk.inj finished
      exact ⟨fun all => absurd all.1 nofun, nofun⟩
    | some _ =>
      rw [served] at tells
      obtain rfl : result = .ok () := tells
      rcases more : (Run.stageInTurn stage code rest).finish middle with ⟨⟨result, last⟩, final⟩
      obtain ⟨rfl, rfl⟩ := Prod.mk.inj ((Process.finish_bind more).symm.trans finished)
      obtain ⟨completes, completed⟩ := ih laid others more
      refine ⟨fun all => completes all.2, fun ends => ?_⟩
      obtain ⟨unchanged, all, lays⟩ := completed ends
      refine ⟨congrArg (lane :: ·) unchanged, ⟨rfl, all⟩, ?_⟩
      exact Eq.mp (congrArg (Lays live · final) (change_row_succ
        (fun cells => (serveStage react members cells).2.cells) cells number rest.length)) lays

end Stage

/-! ## Event loops -/

section Loops

variable {live : List Handle} {cells : Nat → List Cell} {world : World} {members : List Member}
  {lanes : List (Lane Unit)} {prepared : List Cell}

/-- How the event loops of lanes went that completed all their events. -/
structure Completed (live : List Handle) (members : List Member) (plan : Plan)
    (prepared : List Cell) (count : Nat) (cells : Nat → List Cell) (state : World × Record) :
    Prop where
  succeeds : ∀ event < plan.total, plan.Succeeds members prepared event
  lays : Lays live (fun place => if place < count then
    if place < plan.total.toNat then prepared.map Cell.emptied else prepared else cells place)
    state.1
  seen : ∀ place ≤ ConfigError.maxWorkers, state.2.seenBy (laneOf place) =
    if place < count then (plan.events (laneOf place)).flatMap fun event =>
      (plan.sightsOf members prepared event).map (Prod.mk event)
    else []

/-- How the event loop of the lane in a place went from its first event on, as told at its end. -/
structure Looped (calm : Prop) (members : List Member) (plan : Plan) (prepared : List Cell)
    (place : Nat) (lane : Lane Unit) (told : (Except Stop Nat × Lane Unit) × Chronicle Unit)
    (later : Showing) : Prop where
  unchanged : told.1.2 = lane
  calmly : calm → ∃ count, told.1.1 = .ok count
  succeeds : ∀ count, told.1.1 = .ok count →
    ∀ event ∈ plan.events (laneOf place), plan.Succeeds members prepared event
  after : ∀ count, told.1.1 = .ok count →
    later = Showing.afterAll { cells := prepared } plan members prepared
      (laneOf place).index.toUInt64

private theorem keepsStanding_loop {calm : Prop} {place : Nat} {lane : Lane Unit} {plan : Plan}
    (fits : plan.Fits) (fine : calm → ∀ event < plan.total, plan.Succeeds members prepared event)
    (built : lane.BuiltFrom live place members)
    (count : (handlesOf lane.modules).length = prepared.length)
    (within : place < plan.stride.toNat) :
    (lane.tellEvents plan (laneOf place).index.toUInt64 0 []).KeepsStanding live calm place
      (Looped calm members plan prepared place lane) { cells := prepared } := by
  have opens : prepared = plan.opening prepared (laneOf place).index.toUInt64 := by
    refine (if_pos ?_).symm
    rw [UInt64.lt_iff_toNat_lt, toNat_laneOf built.small]
    exact within
  have loops := @keepsStanding_tellEvents live calm place members lane { cells := prepared } plan
    fits prepared fine built count (laneOf place).index.toUInt64 opens 0 []
  apply loops.mono
  rintro told later ⟨unchanged, calmly, completes⟩
  exact ⟨unchanged, calmly, fun number ended => (completes number ended).1,
    fun number ended => (completes number ended).2⟩

/-- What each of the lanes did of its events makes up what they did of all events. -/
theorem Completed.of_lanes {calm : Prop} {plan : Plan} (fits : plan.Fits) {count : Nat}
    (few : count ≤ ConfigError.maxWorkers) (stride : plan.stride.toNat = count)
    {last : Nat → Showing} {state : World × Record} (stands : Stands live calm last state)
    (succeeds : ∀ place < count, ∀ event ∈ plan.events (laneOf place),
      plan.Succeeds members prepared event)
    (after : ∀ place < count, last place = Showing.afterAll { cells := prepared } plan members
      prepared (laneOf place).index.toUInt64)
    (others : ∀ place, count ≤ place → last place = { cells := cells place }) :
    Completed live members plan prepared count cells state := by
  refine ⟨fun event early => ?_, ?_, fun place small => ?_⟩
  · have within : event.toNat % plan.stride.toNat < plan.stride.toNat :=
      Nat.mod_lt _ (fits.positive)
    refine succeeds _ (Nat.lt_of_lt_of_le within (Nat.le_of_eq stride)) event ?_
    exact (Plan.mem_events ((Nat.le_of_eq stride).trans few) within).mpr ⟨early, rfl⟩
  · refine Eq.mp (congrArg (Lays live · state.1) (funext fun place => ?_)) stands.lays
    by_cases within : place < count
    · rw [if_pos within, after place within, Showing.afterAll]
      simp only [UInt64.lt_iff_toNat_lt, toNat_laneOf (Nat.le_of_lt (Nat.lt_of_lt_of_le within few))]
    · rw [if_neg within, others place (Nat.le_of_not_lt within)]
  · rw [stands.seen place small]
    by_cases within : place < count
    · rw [if_pos within, after place within, Showing.afterAll, List.nil_append]
      rfl
    · rw [if_neg within, others place (Nat.le_of_not_lt within)]

/-- The event loops of all lanes complete all events if these succeed. -/
theorem Lays.telling (lays : Lays live cells world) (simulation : Simulation Unit)
    (fits : (simulation.plan lanes).Fits) (few : lanes.length ≤ ConfigError.maxWorkers)
    (built : AllBuiltFrom live members 0 lanes)
    (ready : ∀ place < lanes.length, cells place = prepared) (turns : List Nat)
    {ended : List ((Except Stop Nat × Lane Unit) × Chronicle Unit)} {state : World × Record}
    (finished : runScheduled LaneOperation.performRecorded (simulation.telling lanes) turns
      ({ world with aborting := false }, []) = (ended, state)) :
    ((∀ event < (simulation.plan lanes).total,
        (simulation.plan lanes).Succeeds members prepared event) →
      ∀ told ∈ ended, ∃ count, told.1.1 = .ok count) ∧
    ((∀ told ∈ ended, ∃ count, told.1.1 = .ok count) →
      ended.map (fun told => told.1.2) = lanes ∧
        Completed live members (simulation.plan lanes) prepared lanes.length cells state) := by
  let plan := simulation.plan lanes
  let calm := ∀ event < plan.total, plan.Succeeds members prepared event
  have begun : Stands live calm (fun place => { cells := cells place })
      ({ world with aborting := false }, []) :=
    ⟨lays.separate, lays.shown, fun _ _ => rfl, fun _ => rfl⟩
  have stride : plan.stride.toNat = lanes.length :=
    Simulation.toNat_stride (Nat.le_trans few (by decide))
  have each (place : Nat) (loop : Process ((Except Stop Nat × Lane Unit) × Chronicle Unit))
      (found : (simulation.telling lanes)[place]? = some loop) :
      loop.KeepsStanding live calm place (fun told later => ∀ lane, lanes[place]? = some lane →
        Looped calm members plan prepared place lane told later) { cells := cells place } := by
    rw [Simulation.telling, List.getElem?_map, Option.map_eq_some_iff] at found
    obtain ⟨lane, listed, rfl⟩ := found
    have origin := built place lane listed
    have within := (List.getElem?_eq_some_iff.mp listed).1
    rw [Nat.zero_add] at origin
    rw [ready place within, origin.id]
    have count : (handlesOf lane.modules).length = prepared.length := by
      rw [← origin.crew, ← ready place within]
      exact (lays.shown place origin.small).length_eq
    apply (keepsStanding_loop fits id origin count (stride ▸ within)).mono
    rintro told later looped other found
    exact Option.some.inj (listed.symm.trans found) ▸ looped
  obtain ⟨last, stands, ends, others⟩ := runScheduled_ensures begun each turns
  have length := runScheduled_length LaneOperation.performRecorded
    (simulation.telling lanes) turns (({ world with aborting := false }, []) : World × Record)
  rw [finished] at stands ends length
  have counted : (simulation.telling lanes).length = lanes.length := List.length_map ..
  rw [counted] at others length
  have looped (place : Nat) (bound : place < ended.length) (within : place < lanes.length) :
      Looped calm members plan prepared place lanes[place] ended[place] (last place) :=
    ends place _ (List.getElem?_eq_getElem bound) _ (List.getElem?_eq_getElem within)
  refine ⟨fun calmly told member => ?_, fun completed => ⟨?_, ?_⟩⟩
  · obtain ⟨place, bound, rfl⟩ := List.getElem_of_mem member
    exact (looped place bound (length ▸ bound)).calmly calmly
  · refine List.ext_getElem (by rw [List.length_map, length]) fun place bound within => ?_
    rw [List.getElem_map]
    exact (looped place (length.symm ▸ within) within).unchanged
  · have shares (place : Nat) (within : place < lanes.length) :
        (∀ event ∈ plan.events (laneOf place), plan.Succeeds members prepared event) ∧
          last place = Showing.afterAll { cells := prepared } plan members prepared
            (laneOf place).index.toUInt64 := by
      have bound : place < ended.length := length.symm ▸ within
      obtain ⟨count, result⟩ := completed _ (List.getElem_mem bound)
      have done := looped place bound within
      exact ⟨done.succeeds count result, done.after count result⟩
    exact .of_lanes fits few stride stands (fun place within => (shares place within).1)
      (fun place within => (shares place within).2) others

end Loops

end Beamline.Run
