import Beamline.Proofs.Posts

namespace Beamline.Run

open Bus

/-- A part in a lane, with its detector if there is one of it for each. -/
abbrev Member := Part × Option Detector

namespace Member

/-- The name of the module, followed by the detector's if there is one. -/
def name (member : Member) : String :=
  match member.2 with
  | some detector => member.1.name ++ ":" ++ detector.name
  | none => member.1.name

def wants (member : Member) : List Want :=
  member.1.wants member.2

def cells (member : Member) : List Cell :=
  member.wants.map (Cell.new member.1.input member.2)

def seat (member : Member) (first : Nat) (event : Option UInt64) : Seat where
  name := member.name
  output := member.1.output
  first
  wants := member.wants
  event

/-- A module of a lane that is built from a part. -/
structure Builds (own : Nat) (member : Member) (module : Module Unit) : Prop where
  lane : module.bindings.identity.lane = laneOf own
  name : module.bindings.identity.uniqueName = member.name
  output : module.bindings.identity.output = member.1.output
  wants : List.Forall₂ (fun (handle : Handle) want =>
    handle.delegate.binding.slot?.isSome = want.isSlot) module.bindings.handles member.wants
  behaviour : module.behaviour = member.1.behaviour member.2
    (module.bindings.handles.map fun handle => handle.delegate.binding.slot?)

end Member

/-- What modules do in turn, up to the first that fails. -/
def serveInTurn (react : Member → Reaction) (event : Option UInt64) :
    (first : Nat) → List Member → Course → Option Unit × Course
  | _, [], course => (some (), course)
  | first, member :: rest, course =>
    match (react member).serve (member.seat first event) course with
    | (none, course) => (none, course)
    | (some (), course) => serveInTurn react event (first + member.wants.length) rest course

section Lane

variable {live : List Handle} {calm : Prop} {own : Nat} {before : List Handle}
  {showing : Showing}

theorem keepsStanding_idle (small : own ≤ ConfigError.maxWorkers) {operation : LaneOperation}
    (unnoticed : ∀ world after, Instant.sight? ⟨operation, world, after⟩ = none)
    (kept : ∀ world, (operation.perform world).2.bus = world.bus ∧
      (operation.perform world).2.aborting = world.aborting) :
    (Process.ask operation).KeepsStanding live calm own (fun _ later => later = showing)
      showing := by
  apply Program.ensures_ask (S := LaneOperations)
  rintro showings ⟨world, record⟩ stands rfl
  exact ⟨_, @Stands.stay _ _ _ _ _ _ _ stands small _ _ (kept world).1 rfl
    (fun calmly => (kept world).2.trans (stands.calm calmly)) none (unnoticed _ _)
    (List.append_nil _).symm, rfl⟩

theorem keepsStanding_recordError (small : own ≤ ConfigError.maxWorkers) (module : Module Unit)
    (stage : Stage) (error : RunError) :
    (module.recordError stage error).KeepsStanding live calm own (fun _ later => later = showing)
      showing := by
  have counted := @keepsStanding_idle live calm own showing small
    (.countError module.identity.uniqueName error.kind) (fun _ _ => rfl) fun _ => ⟨rfl, rfl⟩
  apply Program.Ensures.bind counted
  exact fun _ _ same => same

private theorem keepsStanding_recordStop (small : own ≤ ConfigError.maxWorkers)
    (module : Module Unit)
    (stage : Stage) (stop : Stop) :
    (module.recordStop stage stop).KeepsStanding live calm own (fun _ later => later = showing)
      showing := by
  cases stop with
  | error error =>
    apply Program.Ensures.bind (keepsStanding_recordError small module stage error)
    exact fun _ _ same => same
  | fault fault => rfl

private theorem keepsStanding_call (small : own ≤ ConfigError.maxWorkers) {member : Member}
    {module : Module Unit} (builds : member.Builds own module) {rest : List Handle}
    (crew : crewOf live own = before ++ module.bindings.handles ++ rest) {code : Code Unit Unit}
    {reaction : Reaction} (same : code = reaction.code
      (module.bindings.handles.map fun handle => handle.delegate.binding.slot?))
    (event : Option UInt64) (past : List (UInt64 × Sight)) (course : Course) :
    let seat := member.seat before.length event
    (module.call code (event.map fun event => { event, stream := course.stream })).KeepsStanding
      live calm own (fun ended later =>
        let served := reaction.serve seat course
        Tells served.1 ended.1 ∧ ended.2.1 = module ∧
          ended.2.2 = event.map (fun event => { event, stream := served.2.stream }) ∧
          later = served.2.showing event past)
      (course.showing event past) := by
  intro seat
  let post : Post := {
    live, calm, own, seat, before, rest, small, crew
    bindings := module.bindings
    lane := builds.lane
    name := builds.name
    output := builds.output
    first := rfl
    wants := builds.wants }
  subst same
  apply Program.Ensures.bind (@Post.serves_reaction post reaction past course)
  rintro ⟨⟨result, _⟩, scope⟩ later ⟨tells, left, shown⟩
  dsimp only at tells left
  subst left
  exact ⟨tells, rfl, rfl, shown⟩

theorem keepsStanding_callInTurn (small : own ≤ ConfigError.maxWorkers) (stage : Stage)
    {code : Behaviour Unit → Code Unit Unit} {react : Member → Reaction}
    (same : ∀ (member : Member) slots,
      code (member.1.behaviour member.2 slots) = (react member).code slots)
    {members : List Member} {modules : List (Module Unit)}
    (builds : List.Forall₂ (Member.Builds own) members modules)
    (crew : crewOf live own = before ++ handlesOf modules) (event : Option UInt64)
    (past : List (UInt64 × Sight)) (course : Course) :
    (callInTurn stage code modules
      (event.map fun event => { event, stream := course.stream })).KeepsStanding live calm own
      (fun ended later =>
        let served := serveInTurn react event before.length members course
        Tells served.1 ended.1 ∧ ended.2.1 = modules ∧ later = served.2.showing event past)
      (course.showing event past) := by
  induction builds generalizing before course with
  | nil => exact ⟨rfl, rfl, rfl⟩
  | @cons member module members modules first rest ih =>
    rw [handlesOf_cons, ← List.append_assoc] at crew
    have called := @keepsStanding_call live calm own before small member module first _ crew
      (code module.behaviour) (react member) (by rw [first.behaviour, same]) event past course
    apply Program.Ensures.bind called
    rintro ⟨result, module, context⟩ later ⟨tells, unchanged, remaining, shown⟩
    dsimp only at unchanged remaining tells
    subst unchanged remaining shown
    unfold serveInTurn
    generalize (react member).serve (member.seat before.length event) course = served at tells ⊢
    rcases served with ⟨_ | _, course⟩
    · obtain ⟨stop, rfl⟩ := tells
      apply Program.Ensures.bind (keepsStanding_recordStop small module stage stop)
      rintro stop _ rfl
      exact ⟨⟨_, rfl⟩, rfl, rfl⟩
    · obtain rfl : result = .ok () := tells
      have length : (before ++ module.bindings.handles).length =
          before.length + member.wants.length := by
        rw [List.length_append, first.wants.length_eq]
      have others := ih crew course
      rw [length] at others
      apply Program.Ensures.bind others
      rintro ⟨result, others, context⟩ last ⟨tells, kept, shown⟩
      dsimp only at kept tells
      subst kept
      exact ⟨tells, rfl, shown⟩

/-! ## The end of an event -/

/-- Delegates and cells in three parts. -/
theorem Cell.AllShown.parts {store : Store} {handles rest : List Handle}
    {done mine others : List Cell} (length : before.length = done.length)
    (count : handles.length = mine.length) :
    AllShown store (before ++ handles ++ rest) (done ++ mine ++ others) ↔
      AllShown store before done ∧ AllShown store handles mine ∧ AllShown store rest others := by
  unfold AllShown
  rw [List.append_assoc, List.append_assoc, forall₂_append_of_length length,
    forall₂_append_of_length count]

private theorem Cell.Shown.unmetRequirement_eq_none {store : Store} {handle : Handle} {cell : Cell}
    (shown : cell.Shown store handle) :
    handle.unmetRequirement store = none ↔ cell.unmet = false := by
  unfold Handle.unmetRequirement Cell.unmet
  rw [shown.isSatisfied, Handle.isRequired, shown.flags]
  cases cell.want.flags.required <;> cases cell.contents.isEmpty <;> simp

private theorem Cell.AllShown.unmet_eq_nil {store : Store} {handles : List Handle}
    {cells : List Cell}
    (shown : AllShown store handles cells) :
    (handles.filterMap fun handle => handle.unmetRequirement store) = [] ↔
      ∀ cell ∈ cells, cell.unmet = false := by
  rw [List.filterMap_eq_nil_iff]
  induction shown with
  | nil => simp
  | cons first rest ih =>
    rw [List.forall_mem_cons, List.forall_mem_cons, first.unmetRequirement_eq_none, ih]

/-- Delegates that are reset show emptied cells. -/
theorem Cell.AllShown.emptied {store : Store} {handles : List Handle} {cells : List Cell}
    (shown : AllShown store handles cells) {later : Store}
    (bare : ∀ handle ∈ handles, handle.place.Within later []) :
    AllShown later handles (cells.map Cell.emptied) := by
  refine List.forall₂_map_right_iff.mpr ?_
  exact ((List.forall₂_and_left handles cells).mpr ⟨bare, shown⟩).imp
    fun _ _ both => both.2.emptied both.1

section Module

variable {module : Module Unit} {rest : List Handle} {done mine others : List Cell}
  (small : own ≤ ConfigError.maxWorkers) (length : before.length = done.length)
  (count : module.bindings.handles.length = mine.length)
  (crew : crewOf live own = before ++ module.bindings.handles ++ rest)

include small length count crew

private theorem keepsStanding_unmet (cells : showing.cells = done ++ mine ++ others) :
    (module.ask .unmetRequirements).KeepsStanding live calm own
      (fun (unmet : List BusError) later => later = showing ∧
        (unmet = [] ↔ ∀ cell ∈ mine, cell.unmet = false)) showing := by
  have asked : (Process.request .unmetRequirements { bindings := module.bindings }).KeepsStanding
      live calm own (fun (answered : List BusError × Scope) later => later = showing ∧
        (answered.1 = [] ↔ ∀ cell ∈ mine, cell.unmet = false)) showing := by
    apply Program.ensures_ask (S := LaneOperations)
    rintro showings ⟨world, record⟩ stands rfl
    have shown := stands.shown own small
    rw [crew, cells] at shown
    obtain ⟨_, mine, _⟩ := (Cell.AllShown.parts length count).mp shown
    exact ⟨_, @Stands.stay _ _ _ _ _ _ _ stands small _ _ rfl rfl stands.calm none rfl
      (List.append_nil _).symm, rfl, mine.unmet_eq_nil⟩
  exact Program.Ensures.bind asked fun _ _ same => same

private theorem keepsStanding_reset (cells : showing.cells = done ++ mine ++ others) :
    (module.ask .resetAll).KeepsStanding live calm own
      (fun _ later => later = { showing with cells := done ++ mine.map Cell.emptied ++ others })
      showing := by
  have asked : (Process.request .resetAll { bindings := module.bindings }).KeepsStanding
      live calm own (fun _ later => later =
        { showing with cells := done ++ mine.map Cell.emptied ++ others }) showing := by
    apply Program.ensures_ask (S := LaneOperations)
    rintro showings ⟨world, record⟩ stands rfl
    have shown := stands.shown own small
    rw [crew, cells] at shown
    obtain ⟨first, shows_, last⟩ := (Cell.AllShown.parts length count).mp shown
    let handles := module.bindings.handles
    have reset : (Request.perform .resetAll { bindings := module.bindings } world).2.bus =
        { world.bus with store := resetEach handles world.bus.store } :=
      Bindings.reset_eq module.bindings world.bus
    have apart : (before ++ handles ++ rest).Pairwise fun one other => one.place ≠ other.place :=
      crew ▸ stands.separate.apart.filter _
    obtain ⟨earlier, _, across⟩ := List.pairwise_append.mp apart
    obtain ⟨_, _, between⟩ := List.pairwise_append.mp earlier
    have emptied : Cell.AllShown (resetEach handles world.bus.store) (before ++ handles ++ rest)
        (done ++ mine.map Cell.emptied ++ others) := by
      refine (Cell.AllShown.parts length (count.trans (List.length_map _).symm)).mpr
        ⟨?_, shows_.emptied fun handle member => within_resetEach member _, ?_⟩
      · exact first.of_same fun handle member => resetEach_same handles _ handle.place
          fun other among => (between handle member other among).symm
      · exact last.of_same fun handle member => resetEach_same handles _ handle.place
          fun other among => across other (List.mem_append_right _ among) handle member
    refine ⟨_, @Stands.move _ _ _ _ _ _ _ stands small
      { showings own with cells := done ++ mine.map Cell.emptied ++ others } _ ?_ ?_ ?_
      stands.calm none rfl (List.append_nil _).symm, rfl⟩
    · change Bus.Separate (Request.perform .resetAll { bindings := module.bindings } world).2.bus _ _
      rw [reset]
      exact stands.separate.resetEach handles
    · change Cell.AllShown
        (Request.perform .resetAll { bindings := module.bindings } world).2.bus.store _ _
      rw [reset, crew]
      exact emptied
    · intro place elsewhere
      change place.Same _ (Request.perform .resetAll { bindings := module.bindings } world).2.bus.store
      rw [reset]
      refine resetEach_same handles _ place fun handle member => elsewhere handle ?_
      rw [crew]
      exact List.mem_append_left _ (List.mem_append_right _ member)
  exact Program.Ensures.bind asked fun _ _ same => same

end Module

theorem exists_cells_of_cons {module : Module Unit} {rest : List (Module Unit)} {cells : List Cell}
    (count : (handlesOf (module :: rest)).length = cells.length) : ∃ mine others,
      cells = mine ++ others ∧ module.bindings.handles.length = mine.length ∧
        (handlesOf rest).length = others.length := by
  rw [handlesOf_cons, List.length_append] at count
  refine ⟨_, _, (List.take_append_drop module.bindings.handles.length cells).symm, ?_, ?_⟩
  · rw [List.length_take]
    omega
  · rw [List.length_drop]
    omega

private theorem keepsStanding_firstUnmet (small : own ≤ ConfigError.maxWorkers)
    {modules : List (Module Unit)} {done cells : List Cell} (length : before.length = done.length)
    (count : (handlesOf modules).length = cells.length)
    (crew : crewOf live own = before ++ handlesOf modules) (split : showing.cells = done ++ cells) :
    (firstUnmet modules).KeepsStanding live calm own
      (fun found later => later = showing ∧
        (found = none ↔ ∀ cell ∈ cells, cell.unmet = false)) showing := by
  induction modules generalizing before done cells with
  | nil =>
    obtain rfl := List.length_eq_zero_iff.mp count.symm
    exact ⟨rfl, by simp⟩
  | cons module rest ih =>
    obtain ⟨mine, others, rfl, counted, further⟩ := exists_cells_of_cons count
    rw [handlesOf_cons, ← List.append_assoc] at crew
    rw [← List.append_assoc] at split
    apply Program.Ensures.bind (keepsStanding_unmet small length counted crew split)
    rintro (_ | ⟨error, more⟩) _ ⟨rfl, unmet⟩
    · have longer : (before ++ module.bindings.handles).length = (done ++ mine).length := by
        rw [List.length_append, List.length_append, length, counted]
      apply (ih longer further crew split).mono
      rintro found _ ⟨rfl, rest⟩
      refine ⟨rfl, rest.trans ?_⟩
      have met := unmet.mp rfl
      rw [List.forall_mem_append]
      exact ⟨fun others => ⟨met, others⟩, And.right⟩
    · refine ⟨rfl, ?_⟩
      simp only [reduceCtorEq, List.forall_mem_append, false_iff, not_and]
      exact fun met => absurd (unmet.mpr met) (List.cons_ne_nil _ _)

private theorem keepsStanding_resetModules (small : own ≤ ConfigError.maxWorkers)
    {modules : List (Module Unit)} {done cells : List Cell} (length : before.length = done.length)
    (count : (handlesOf modules).length = cells.length)
    (crew : crewOf live own = before ++ handlesOf modules) (split : showing.cells = done ++ cells) :
    (resetModules modules).KeepsStanding live calm own
      (fun _ later => later = { showing with cells := done ++ cells.map Cell.emptied })
      showing := by
  induction modules generalizing before done cells showing with
  | nil =>
    obtain rfl := List.length_eq_zero_iff.mp count.symm
    change showing = { showing with cells := done ++ [] }
    rw [← split]
  | cons module rest ih =>
    obtain ⟨mine, others, rfl, counted, further⟩ := exists_cells_of_cons count
    rw [handlesOf_cons, ← List.append_assoc] at crew
    rw [← List.append_assoc] at split
    apply Program.Ensures.bind (keepsStanding_reset small length counted crew split)
    rintro _ _ rfl
    have longer : (before ++ module.bindings.handles).length =
        (done ++ mine.map Cell.emptied).length := by
      rw [List.length_append, List.length_append, List.length_map, length, counted]
    have so_far : ({ showing with cells := done ++ mine.map Cell.emptied ++ others } : Showing).cells =
        done ++ mine.map Cell.emptied ++ others := rfl
    rw [List.map_append, ← List.append_assoc]
    exact ih longer further crew so_far

end Lane

/-- Whatever modules do, the cells of their lane differ only in what they contain. -/
theorem emptied_serveInTurn (react : Member → Reaction) (event : Option UInt64) (first : Nat)
    (members : List Member) (course : Course) :
    (serveInTurn react event first members course).2.cells.map Cell.emptied =
      course.cells.map Cell.emptied := by
  induction members generalizing first course with
  | nil => rfl
  | cons member rest ih =>
    have served := (react member).emptied_serve (member.seat first event) course
    unfold serveInTurn
    rcases told : (react member).serve (member.seat first event) course with ⟨_ | _, later⟩ <;>
      rw [told] at served
    · exact served
    · exact (ih _ later).trans served

private theorem length_serveInTurn (react : Member → Reaction) (event : Option UInt64) (first : Nat)
    (members : List Member) (course : Course) :
    (serveInTurn react event first members course).2.cells.length = course.cells.length := by
  have same := congrArg List.length (emptied_serveInTurn react event first members course)
  rwa [List.length_map, List.length_map] at same

/-! ## Events -/

/-- What the modules of a lane do in an event that finds these cells. -/
def serveEvent (members : List Member) (seed event : UInt64) (cells : List Cell) :
    Option Unit × Course :=
  serveInTurn (fun member => member.1.run member.2 event) (some event) 0 members
    { cells, stream := .ofEvent seed event }

/-- All modules succeed in an event, and what is required is there. -/
def Succeeds (members : List Member) (seed event : UInt64) (cells : List Cell) : Prop :=
  (serveEvent members seed event cells).1 = some () ∧
    ∀ cell ∈ (serveEvent members seed event cells).2.cells, cell.unmet = false

/-- What the modules notice and do in an event. -/
def sightsOf (members : List Member) (seed event : UInt64) (cells : List Cell) : List Sight :=
  (serveEvent members seed event cells).2.seen

/-- A lane of modules that are built from parts. -/
structure Lane.BuiltFrom (live : List Handle) (own : Nat) (members : List Member)
    (lane : Lane Unit) : Prop where
  small : own ≤ ConfigError.maxWorkers
  id : lane.id = laneOf own
  builds : List.Forall₂ (Member.Builds own) members lane.modules
  crew : crewOf live own = handlesOf lane.modules

section Events

variable {live : List Handle} {calm : Prop} {own : Nat} {members : List Member} {lane : Lane Unit}
  {showing : Showing}

private theorem keepsStanding_clearSent (small : own ≤ ConfigError.maxWorkers) (id : LaneId) :
    (Process.ask (.clearSent id)).KeepsStanding live calm own (fun _ later => later = showing)
      showing := by
  apply Program.ensures_ask (S := LaneOperations)
  rintro showings ⟨world, record⟩ stands rfl
  refine ⟨_, @Stands.move _ _ _ _ _ _ _ stands small (showings own) _ ?_
    (stands.shown own small) (fun place _ => .refl place _) stands.calm none rfl
    (List.append_nil _).symm, rfl⟩
  exact stands.separate.frame rfl rfl rfl rfl (Nat.le_refl _) stands.separate.vacant

private theorem keepsStanding_closeEvent (built : lane.BuiltFrom live own members)
    (count : (handlesOf lane.modules).length = showing.cells.length) :
    lane.closeEvent.KeepsStanding live calm own
      (fun result later =>
        ((∀ cell ∈ showing.cells, cell.unmet = false) → result = .ok ()) ∧
        (result = .ok () → (∀ cell ∈ showing.cells, cell.unmet = false) ∧
          later = { showing with cells := showing.cells.map Cell.emptied })) showing := by
  have crew : crewOf live own = [] ++ handlesOf lane.modules := built.crew
  have unmet := @keepsStanding_firstUnmet live calm own [] showing built.small lane.modules []
    showing.cells rfl count crew rfl
  apply Program.Ensures.bind unmet
  rintro (_ | ⟨module, error⟩) showing ⟨rfl, met⟩
  · have reset := @keepsStanding_resetModules live calm own [] showing built.small lane.modules []
      showing.cells rfl count crew rfl
    apply Program.Ensures.bind reset
    rintro _ _ rfl
    apply Program.Ensures.bind (keepsStanding_clearSent built.small lane.id)
    rintro _ _ rfl
    have counted := @keepsStanding_idle live calm own
      { showing with cells := showing.cells.map Cell.emptied } built.small (.countEvent lane.id)
      (fun _ _ => rfl) fun _ => ⟨rfl, rfl⟩
    apply Program.Ensures.bind counted
    rintro _ _ rfl
    exact ⟨fun _ => rfl, fun _ => ⟨met.mp rfl, rfl⟩⟩
  · apply Program.Ensures.bind (keepsStanding_recordError built.small module .run (.bus error))
    rintro _ _ rfl
    exact ⟨fun all => (by cases met.mpr all), fun same => by cases same⟩

/-- What a lane shows after an event that it completed. -/
def Showing.after (showing : Showing) (members : List Member) (seed event : UInt64) : Showing where
  cells := showing.cells.map Cell.emptied
  seen := showing.seen ++ (sightsOf members seed event showing.cells).map (Prod.mk event)

theorem keepsStanding_runEvent (built : lane.BuiltFrom live own members)
    (count : (handlesOf lane.modules).length = showing.cells.length) (event seed : UInt64) :
    (lane.runEvent event seed).KeepsStanding live calm own
      (fun ended later => ended.2 = lane ∧
        (Succeeds members seed event showing.cells → ended.1 = .ok ()) ∧
        (ended.1 = .ok () → Succeeds members seed event showing.cells ∧
          later = showing.after members seed event)) showing := by
  let course : Course := { cells := showing.cells, stream := .ofEvent seed event }
  have opening : course.showing (some event) showing.seen = showing := by
    simp [Course.showing, course]
  have called := @keepsStanding_callInTurn live calm own [] built.small .run
    (fun behaviour => behaviour.run event) (fun member => member.1.run member.2 event)
    (fun _ _ => rfl) members lane.modules built.builds built.crew (some event) showing.seen course
  rw [opening] at called
  apply Program.Ensures.bind called
  rintro ⟨result, modules, context⟩ middle ⟨tells, same, shown⟩
  dsimp only at tells same
  subst same
  change Tells (serveEvent members seed event showing.cells).1 result at tells
  have cells : middle.cells = (serveEvent members seed event showing.cells).2.cells := by
    rw [shown]
    rfl
  have timed {later : Showing} (result : Except Stop Unit)
      (succeeds : Succeeds members seed event showing.cells → result = .ok ())
      (completed : result = .ok () → Succeeds members seed event showing.cells ∧
        later = showing.after members seed event) :
      Process.KeepsStanding ((Process.ask .timeEvent).bind fun _ => .done (result, lane)) live calm
        own (fun ended later => ended.2 = lane ∧
          (Succeeds members seed event showing.cells → ended.1 = .ok ()) ∧
          (ended.1 = .ok () → Succeeds members seed event showing.cells ∧
            later = showing.after members seed event)) later := by
    have idle := @keepsStanding_idle live calm own later built.small .timeEvent (fun _ _ => rfl)
      fun _ => ⟨rfl, rfl⟩
    apply Program.Ensures.bind idle
    rintro _ _ rfl
    exact ⟨rfl, succeeds, completed⟩
  cases told : (serveEvent members seed event showing.cells).1 with
  | none =>
    rw [told] at tells
    obtain ⟨stop, rfl⟩ := tells
    exact timed (.error stop) (fun succeeds => by cases told.symm.trans succeeds.1)
      fun same => by cases same
  | some _ =>
    rw [told] at tells
    obtain rfl : result = .ok () := tells
    have length := length_serveInTurn (fun member => member.1.run member.2 event) (some event) 0
      members course
    have closing := @keepsStanding_closeEvent live calm own members lane middle built
      (count.trans (cells ▸ length.symm))
    apply Program.Ensures.bind closing
    rintro result later ⟨met, completed⟩
    rw [cells] at met completed
    refine timed result (fun succeeds => met succeeds.2) fun ended => ?_
    obtain ⟨all, same⟩ := completed ended
    refine ⟨⟨told, all⟩, same.trans ?_⟩
    have seen : middle.seen =
        showing.seen ++ (sightsOf members seed event showing.cells).map (Prod.mk event) := by
      rw [shown]
      exact congrArg (showing.seen ++ ·) (List.append_nil _)
    rw [seen]
    exact congrArg (Showing.mk · _) (emptied_serveInTurn _ (some event) 0 members course)

end Events

end Beamline.Run
