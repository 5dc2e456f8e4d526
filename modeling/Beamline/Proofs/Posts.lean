import Beamline.Proofs.Courses

namespace Beamline.Run

open Bus

/-- A module of a lane, with its delegates among those of the lane. -/
structure Post where
  live : List Handle
  calm : Prop
  own : Nat
  bindings : Bindings
  seat : Seat
  before : List Handle
  rest : List Handle
  small : own ≤ ConfigError.maxWorkers
  lane : bindings.identity.lane = laneOf own
  name : bindings.identity.uniqueName = seat.name
  output : bindings.identity.output = seat.output
  crew : crewOf live own = before ++ bindings.handles ++ rest
  first : before.length = seat.first
  wants : List.Forall₂ (fun (handle : Handle) want =>
    handle.delegate.binding.slot?.isSome = want.isSlot) bindings.handles seat.wants

namespace Post

variable (post : Post)

/-- What belongs to the module in the course of an event. -/
def scope (course : Course) : Scope where
  bindings := post.bindings
  context := post.seat.event.map fun event => { event, stream := course.stream }

/-- What the lane shows in the course of an event. -/
def showing (past : List (UInt64 × Sight)) (course : Course) : Showing :=
  course.showing post.seat.event past

def slots : List (Option Slot) :=
  post.bindings.handles.map fun handle => handle.delegate.binding.slot?

/-- How code of the module ends. -/
structure Ended {α : Type} (past : List (UInt64 × Sight)) (served : Option α × Course)
    (ended : (Except Stop α × Unit) × Scope) (showing : Showing) : Prop where
  tells : Tells served.1 ended.1.1
  scope : ended.2 = post.scope served.2
  showing : showing = post.showing past served.2

/-- Code that does what is told from the cells of the lane. -/
def Serves {α : Type} (code : Code Unit α) (serve : Course → Option α × Course) : Prop :=
  ∀ past course,
    let program : Program Requests (Except Stop α × Unit) := code ()
    let process : Process ((Except Stop α × Unit) × Scope) :=
      program.within Process.request (post.scope course)
    process.KeepsStanding post.live post.calm post.own (post.Ended past (serve course))
      (post.showing past course)

variable {post} {α β : Type}

theorem serves_pure (value : α) :
    post.Serves (pure value) fun course => (some value, course) :=
  fun _ _ => ⟨rfl, rfl, rfl⟩

private theorem serves_throw (stop : Stop) :
    post.Serves (throw stop : Code Unit α) fun course => (none, course) :=
  fun _ _ => ⟨⟨stop, rfl⟩, rfl, rfl⟩

theorem Serves.bind {code : Code Unit α} {next : α → Code Unit β}
    {serve : Course → Option α × Course} {later : α → Course → Option β × Course}
    {both : Course → Option β × Course} (first : post.Serves code serve)
    (second : ∀ value, post.Serves (next value) (later value))
    (told : ∀ course, both course = match serve course with
      | (none, course) => (none, course)
      | (some value, course) => later value course) :
    post.Serves (code >>= next) both := by
  intro past course
  rw [told]
  dsimp only
  rw [Code.bind_apply, Program.within_bind]
  apply Program.Ensures.bind (first past course)
  rintro ⟨⟨result, _⟩, scope⟩ showing ⟨tells, same, shows_⟩
  dsimp only at tells same
  subst same shows_
  generalize serve course = served at tells ⊢
  rcases served with ⟨_ | value, course⟩
  · obtain ⟨stop, rfl⟩ := tells
    exact ⟨⟨stop, rfl⟩, rfl, rfl⟩
  · obtain rfl : result = .ok value := tells
    exact second value past course

/-- One request, after which the code is over. -/
theorem serves_ask {request : Request} {next : request.Answer → Code Unit α}
    {serve : Course → Option α × Course}
    (step : ∀ past course world record showings,
      Stands post.live post.calm showings (world, record) →
      showings post.own = post.showing past course →
      ∃ answer result, (request.perform (post.scope course) world).1 =
          (answer, post.scope (serve course).2) ∧
        next answer = ExceptT.mk (pure result) ∧ Tells (serve course).1 result ∧
        Stands post.live post.calm
          (Function.update showings post.own (post.showing past (serve course).2))
          ((request.perform (post.scope course) world).2, record ++ [{
            operation := .request (post.scope course) request
            before := world
            after := (request.perform (post.scope course) world).2 }])) :
    post.Serves (Code.ask request >>= next) serve := by
  intro past course
  have asked : (Process.request request (post.scope course)).KeepsStanding post.live post.calm
      post.own (fun answered showing => ∃ result, next answered.1 = ExceptT.mk (pure result) ∧
        Tells (serve course).1 result ∧ answered.2 = post.scope (serve course).2 ∧
        showing = post.showing past (serve course).2) (post.showing past course) := by
    apply Program.ensures_ask (S := LaneOperations)
    rintro showings ⟨world, record⟩ stands shown
    obtain ⟨answer, result, performed, ends, tells, after⟩ :=
      step past course world record showings stands shown
    refine ⟨_, after, result, ?_, tells, ?_, rfl⟩
    · exact (congrArg (fun answered : _ × Scope => next answered.1) performed).trans ends
    · exact congrArg Prod.snd performed
  refine Program.Ensures.bind asked ?_
  rintro ⟨answer, scope⟩ showing ⟨result, ends, tells, same, shows_⟩
  change Process.KeepsStanding (Program.within Process.request (next answer ()) scope) _ _ _ _ _
  rw [ends]
  exact ⟨tells, same, shows_⟩

theorem crew_getElem? {place : Nat} {handle : Handle}
    (found : post.bindings.handles[place]? = some handle) :
    (crewOf post.live post.own)[post.seat.first + place]? = some handle := by
  have within := (List.getElem?_eq_some_iff.mp found).1
  rw [post.crew, ← post.first, List.append_assoc, List.getElem?_append_right (by omega),
    Nat.add_sub_cancel_left, List.getElem?_append_left within]
  exact found

theorem slot?_of_slots {place : Nat} {slot : Slot} (bound : post.slots[place]? = some (some slot))
    {store : Store} {course : Course}
    (shown : Cell.AllShown store (crewOf post.live post.own) course.cells) :
    course.slot? post.seat place = some (store.contents slot) := by
  obtain ⟨handle, found, kept⟩ := Option.map_eq_some_iff.mp (List.getElem?_map.symm.trans bound)
  obtain ⟨want, wanted, alike⟩ := forall₂_getElem? post.wants found
  obtain ⟨cell, held, serves⟩ := forall₂_getElem? shown (crew_getElem? found)
  rw [kept, Option.isSome_some] at alike
  rw [Course.slot?, wanted, Option.any_some, ← alike, if_pos rfl, held, Option.map_some,
    serves.serves.contents_eq kept]

theorem slot?_of_other {place : Nat} (unbound : ∀ slot, post.slots[place]? ≠ some (some slot))
    (course : Course) : course.slot? post.seat place = none := by
  rw [Course.slot?, if_neg]
  intro wanted
  cases found : post.seat.wants[place]? with
  | none => simp [found] at wanted
  | some want =>
    rw [found, Option.any_some] at wanted
    obtain ⟨handle, listed, alike⟩ := forall₂_getElem? post.wants.flip found
    obtain ⟨slot, bound⟩ := Option.isSome_iff_exists.mp (alike.trans wanted)
    apply unbound slot
    rw [slots, List.getElem?_map, listed, Option.map_some, bound]

theorem scope_note (sight : Sight) (course : Course) :
    post.scope (course.note post.seat sight) = post.scope course := by
  unfold scope Course.note
  cases post.seat.event <;> rfl

theorem seen_note (past : List (UInt64 × Sight)) (sight : Sight) (course : Course) :
    (post.showing past (course.note post.seat sight)).seen = (post.showing past course).seen ++
      (post.seat.event.map fun event => (event, sight)).toList := by
  unfold showing Course.showing Course.note
  cases post.seat.event <;> simp

/-- The delegates of the lane show what its cells contain. -/
theorem allShown {past : List (UInt64 × Sight)} {course : Course} {world : World} {record : Record}
    {showings : Nat → Showing} (stands : Stands post.live post.calm showings (world, record))
    (shown : showings post.own = post.showing past course) :
    Cell.AllShown world.bus.store (crewOf post.live post.own) course.cells := by
  have cells := stands.shown post.own post.small
  rwa [shown] at cells

theorem filter_lane : post.live.filter (fun handle => handle.lane = post.bindings.identity.lane) =
    crewOf post.live post.own := by
  rw [post.lane]
  rfl

/-- What a module does with a slot is what it would do with a cell; where it bound no slot there is
no cell either. -/
theorem serves_ofSlot {place : Nat} {look : Slot → Code Unit (List Message)}
    {later : Course → Course}
    (served : ∀ slot, post.slots[place]? = some (some slot) →
      post.Serves (look slot) (Course.ofSlot post.seat place later)) :
    post.Serves (Look.ofSlot post.slots place look) (Course.ofSlot post.seat place later) := by
  have unbound (none : ∀ slot, post.slots[place]? ≠ some (some slot)) :
      Course.ofSlot post.seat place later = fun course => (some [], course) := by
    funext course
    simp only [Course.ofSlot, slot?_of_other none]
  cases found : post.slots[place]? with
  | some kept =>
    cases kept with
    | some slot =>
      simp only [Look.ofSlot, found]
      exact served slot found
    | none =>
      rw [unbound (by simp [found])]
      simp only [Look.ofSlot, found]
      exact serves_pure _
  | none =>
    rw [unbound (by simp [found])]
    simp only [Look.ofSlot, found]
    exact serves_pure _

/-- A request in which a module notices something and changes nothing but cells of its lane. -/
theorem stands_note {request : Request} {sight : Sight} {course later : Course}
    {past : List (UInt64 × Sight)} {world after : World} {record : Record}
    {showings : Nat → Showing} (stands : Stands post.live post.calm showings (world, record))
    (shown : showings post.own = post.showing past course) (seen : later.seen = course.seen)
    (separate : after.bus.Separate post.live post.live)
    (cells : Cell.AllShown after.bus.store (crewOf post.live post.own) later.cells)
    (others : ∀ place, (∀ handle ∈ crewOf post.live post.own, handle.place ≠ place) →
      place.Same world.bus.store after.bus.store)
    (aborting : after.aborting = world.aborting)
    (noticed : Instant.sight? ⟨.request (post.scope course) request, world, after⟩ =
      post.seat.event.map fun event => (laneOf post.own, event, sight)) :
    Stands post.live post.calm
      (Function.update showings post.own (post.showing past (later.note post.seat sight)))
      (after, record ++ [⟨.request (post.scope course) request, world, after⟩]) := by
  have same : (post.showing past (later.note post.seat sight)).cells = later.cells :=
    Course.cells_note _ _ _
  have earlier : (post.showing past later).seen = (showings post.own).seen := by
    rw [shown, showing, showing, Course.showing, Course.showing, seen]
  refine stands.move post.small separate (same ▸ cells) others
    (fun calmly => aborting.trans (stands.calm calmly)) ?_ ((seen_note _ _ _).trans (by rw [earlier]))
  rw [noticed, Option.map_map]
  rfl

private theorem serves_received (place : Nat) :
    post.Serves (Look.code post.slots (.received place))
      (Look.serve post.seat (.received place)) := by
  apply serves_ofSlot
  intro slot bound
  rw [← bind_pure (Code.ask _)]
  apply serves_ask
  intro past course world record showings stands shown
  let messages := world.bus.store.contents slot
  have cells := allShown stands shown
  have served : course.ofSlot post.seat place id =
      (some messages, course.note post.seat (.received post.seat.name messages)) := by
    simp only [Course.ofSlot, slot?_of_slots bound cells]
    rfl
  rw [served]
  refine ⟨messages, .ok messages, congrArg (Prod.mk messages) (scope_note _ _).symm, rfl, rfl,
    stands_note stands shown rfl stands.separate cells (fun place _ => .refl place _) rfl ?_⟩
  unfold scope Instant.sight?
  cases post.seat.event with
  | none => rfl
  | some event => simp [post.lane, post.name, messages]

theorem allShown_drain {place : Nat} {slot : Slot} (bound : post.slots[place]? = some (some slot))
    {bus : Bus} (separate : bus.Separate post.live post.live) {course : Course}
    (shown : Cell.AllShown bus.store (crewOf post.live post.own) course.cells) :
    Cell.AllShown (bus.store.resetSlot slot) (crewOf post.live post.own)
      (course.drain post.seat place).cells ∧
      ∀ other, (∀ handle ∈ crewOf post.live post.own, handle.place ≠ other) →
        other.Same bus.store (bus.store.resetSlot slot) := by
  obtain ⟨handle, found, kept⟩ := Option.map_eq_some_iff.mp (List.getElem?_map.symm.trans bound)
  have listed := crew_getElem? found
  have here : handle.place = .slot slot := by
    have kept : handle.delegate.binding.slot? = some slot := kept
    unfold Handle.place
    cases binding : handle.delegate.binding <;> rw [binding] at kept <;> cases kept
    rfl
  have distinct : ((crewOf post.live post.own).map Handle.place).Nodup :=
    List.pairwise_map.mpr (separate.apart.filter _)
  constructor
  · refine forall₂_modify shown (fun other cell same shows_ => ?_)
      fun index other cell different among shows_ => ?_
    · obtain rfl := Option.some.inj (listed.symm.trans same)
      refine shows_.emptied (Place.Within.keeps_iff.mpr ?_)
      rw [here]
      exact bus.store.keeps_resetSlot slot
    · refine shows_.of_same (same_setContents _ _ _ _ fun same => different.symm ?_)
      have within : post.seat.first + place < ((crewOf post.live post.own).map Handle.place).length :=
        (List.length_map _).symm ▸ (List.getElem?_eq_some_iff.mp listed).1
      refine (List.getElem?_inj within distinct).mp ?_
      rw [List.getElem?_map, List.getElem?_map, listed, among, Option.map_some, Option.map_some,
        here, same]
  · intro other elsewhere
    exact same_setContents _ _ _ _ (here ▸ elsewhere handle (List.mem_of_getElem? listed))

private theorem serves_drained (place : Nat) :
    post.Serves (Look.code post.slots (.drained place))
      (Look.serve post.seat (.drained place)) := by
  apply serves_ofSlot
  intro slot bound
  rw [← bind_pure (Code.ask _)]
  apply serves_ask
  intro past course world record showings stands shown
  let messages := world.bus.store.contents slot
  let later := course.drain post.seat place
  have served : course.ofSlot post.seat place (Course.drain post.seat place) =
      (some messages, later.note post.seat (.received post.seat.name messages)) := by
    simp only [Course.ofSlot, slot?_of_slots bound (allShown stands shown)]
    rfl
  rw [served]
  have same : post.scope (later.note post.seat (.received post.seat.name messages)) =
      post.scope course := scope_note _ _
  obtain ⟨cells, others⟩ := allShown_drain bound stands.separate (allShown stands shown)
  refine ⟨messages, .ok messages, congrArg (Prod.mk messages) same.symm, rfl, rfl,
    stands_note stands shown rfl (stands.separate.resetSlot slot) cells others rfl ?_⟩
  unfold scope Instant.sight?
  cases post.seat.event with
  | none => rfl
  | some event => simp [post.lane, post.name, messages]

theorem stands_idle {request : Request} {course later : Course} {past : List (UInt64 × Sight)}
    {world : World} {record : Record} {showings : Nat → Showing}
    (stands : Stands post.live post.calm showings (world, record))
    (shown : showings post.own = post.showing past course) (cells : later.cells = course.cells)
    (seen : later.seen = course.seen)
    (performed : (request.perform (post.scope course) world).2 = world)
    (unnoticed : Instant.sight? ⟨.request (post.scope course) request, world, world⟩ = none) :
    Stands post.live post.calm
      (Function.update showings post.own (post.showing past later))
      ((request.perform (post.scope course) world).2, record ++ [{
        operation := .request (post.scope course) request
        before := world
        after := (request.perform (post.scope course) world).2 }]) := by
  have same : post.showing past later = post.showing past course := by
    rw [showing, showing, Course.showing, Course.showing, cells, seen]
  rw [performed, same, ← shown]
  exact @Stands.stay _ _ _ _ _ _ _ stands post.small _ _ rfl rfl stands.calm none unnoticed
    (List.append_nil _).symm

private theorem serves_hasReceiver (message : Message) :
    post.Serves (Look.code post.slots (.hasReceiver message))
      (Look.serve post.seat (.hasReceiver message)) := by
  have code : Look.code post.slots (.hasReceiver message) =
      Code.ask (.hasReceiver message) >>= pure := (bind_pure _).symm
  rw [code]
  apply serves_ask
  intro past course world record showings stands shown
  have answer : post.bindings.hasReceiver world.bus message =
      course.cells.any (Cell.wants message post.seat.output) := by
    rw [Bindings.hasReceiver, post.output]
    exact Cell.hasReceiver_shown stands.separate filter_lane (allShown stands shown)
  refine ⟨course.cells.any (Cell.wants message post.seat.output), .ok _, ?_, rfl, rfl,
    stands_idle stands shown rfl rfl rfl ?_⟩
  · exact congrArg (fun answer : Bool => (answer, post.scope course)) answer
  · unfold scope Instant.sight?
    cases post.seat.event <;> rfl

private theorem serves_draw (wanted : Random.Draw) :
    post.Serves (Look.code post.slots (.draw wanted)) (Look.serve post.seat (.draw wanted)) := by
  apply serves_ask
  intro past course world record showings stands shown
  have unnoticed : Instant.sight? ⟨.request (post.scope course) (.draw wanted), world, world⟩ =
      none := by
    unfold scope Instant.sight?
    cases post.seat.event <;> rfl
  cases event : post.seat.event with
  | none =>
    have served : Look.serve post.seat (.draw wanted) course = (some none, course) := by
      simp only [Look.serve, Course.draw, event]
      rfl
    have performed : (Request.draw wanted).perform (post.scope course) world =
        ((none, post.scope course), world) := by
      simp only [Request.perform, scope, event]
      rfl
    rw [served]
    refine ⟨none, .ok none, congrArg Prod.fst performed, rfl, rfl,
      stands_idle stands shown rfl rfl (congrArg Prod.snd performed) unnoticed⟩
  | some event =>
    rcases drawn : wanted.perform course.stream with ⟨fault | value, stream⟩
    · have served : Look.serve post.seat (.draw wanted) course = (none, { course with stream }) := by
        simp only [Look.serve, Course.draw, event, drawn]
        rfl
      have performed : (Request.draw wanted).perform (post.scope course) world =
          ((some (.error fault), post.scope { course with stream }), world) := by
        simp only [Request.perform, scope, event, Option.map_some, drawFrom, drawn]
        rfl
      rw [served]
      exact ⟨some (.error fault), .error (.fault fault), congrArg Prod.fst performed, rfl, ⟨_, rfl⟩,
        stands_idle stands shown rfl rfl (congrArg Prod.snd performed) unnoticed⟩
    · have served : Look.serve post.seat (.draw wanted) course =
          (some (some value), { course with stream }) := by
        simp only [Look.serve, Course.draw, event, drawn]
        rfl
      have performed : (Request.draw wanted).perform (post.scope course) world =
          ((some (.ok value), post.scope { course with stream }), world) := by
        simp only [Request.perform, scope, event, Option.map_some, drawFrom, drawn]
        rfl
      rw [served]
      exact ⟨some (.ok value), .ok (some value), congrArg Prod.fst performed, rfl, rfl,
        stands_idle stands shown rfl rfl (congrArg Prod.snd performed) unnoticed⟩

theorem stands_dispatch (message : Message) (name : Option String) {course : Course}
    {past : List (UInt64 × Sight)} {world : World} {record : Record} {showings : Nat → Showing}
    (stands : Stands post.live post.calm showings (world, record))
    (shown : showings post.own = post.showing past course) :
    let performed := (Request.dispatch message name).perform (post.scope course) world
    let served := course.dispatch post.seat message name
    ∃ result, performed.1 = (result, post.scope served.2) ∧ Tells served.1 result ∧
      Stands post.live post.calm (Function.update showings post.own (post.showing past served.2))
        (performed.2, record ++ [{
          operation := .request (post.scope course) (.dispatch message name)
          before := world
          after := performed.2 }]) := by
  let label := name.getD post.seat.output
  obtain ⟨tells, all, others⟩ := @Cell.dispatch_shown _ _ _ post.bindings.identity _ _ message label
    stands.separate filter_lane (allShown stands shown)
  have separate := stands.separate.dispatch post.bindings.identity message label
  rcases sent : world.bus.dispatch post.bindings.identity message label with ⟨result, bus⟩
  rw [sent] at tells all others separate
  have dispatched : post.bindings.dispatch world.bus message name = (result, bus) := by
    rw [Bindings.dispatch, post.output]
    exact sent
  have performed : (Request.dispatch message name).perform (post.scope course) world =
      ((result, post.scope course), { world with bus }) := by
    simp only [Request.perform, scope, dispatched]
    rfl
  rw [performed]
  rcases told : Cell.dispatch message label course.cells with ⟨report, later⟩
  have served : course.dispatch post.seat message name = (report,
      { course with cells := later }.note post.seat
        (.dispatched post.seat.name message label report.isSome)) := by
    simp only [Course.dispatch, label, told]
  rw [told] at tells all
  rw [served]
  have same : post.scope ({ course with cells := later }.note post.seat
      (.dispatched post.seat.name message label report.isSome)) = post.scope course :=
    scope_note _ _
  refine ⟨result, congrArg (Prod.mk result) same.symm, tells,
    stands_note stands shown rfl separate all others rfl ?_⟩
  unfold scope Instant.sight?
  cases post.seat.event with
  | none => rfl
  | some event =>
    simp only [Option.map_some, dispatched, post.lane, post.name, post.output, tells.isOk_eq, label]

private theorem serves_dispatch (message : Message) (name : Option String) :
    post.Serves (Look.code post.slots (.dispatch message name))
      (Look.serve post.seat (.dispatch message name)) := by
  apply serves_ask
  intro past course world record showings stands shown
  obtain ⟨result, performed, tells, after⟩ := stands_dispatch message name stands shown
  refine ⟨result, result.mapError fun error => .error (.bus error), performed, ?_, ?_, after⟩
  · cases result <;> rfl
  · change Tells (course.dispatch post.seat message name).1 _
    generalize (course.dispatch post.seat message name).1 = report at tells
    cases report with
    | none =>
      obtain ⟨error, rfl⟩ := tells
      exact ⟨_, rfl⟩
    | some report =>
      obtain rfl : result = .ok report := tells
      rfl

private theorem serves_offer (message : Message) (name : Option String) :
    post.Serves (Look.code post.slots (.offer message name))
      (Look.serve post.seat (.offer message name)) := by
  apply serves_ask
  intro past course world record showings stands shown
  obtain ⟨result, performed, tells, after⟩ := stands_dispatch message name stands shown
  refine ⟨result, .ok (course.dispatch post.seat message name).1, performed, ?_, rfl, after⟩
  generalize (course.dispatch post.seat message name).1 = report at tells ⊢
  cases report with
  | none =>
    obtain ⟨error, rfl⟩ := tells
    rfl
  | some report =>
    obtain rfl : result = .ok report := tells
    rfl

/-- What a module looks at is what it would find among the cells of its lane. -/
theorem serves_look (look : Look) :
    post.Serves (Look.code post.slots look) (Look.serve post.seat look) := by
  cases look with
  | received place => exact serves_received place
  | drained place => exact serves_drained place
  | hasReceiver message => exact serves_hasReceiver message
  | dispatch message name => exact serves_dispatch message name
  | offer message name => exact serves_offer message name
  | draw wanted => exact serves_draw wanted

/-- What a module does at once is what it would do to the cells of its lane. -/
theorem serves_reaction (reaction : Reaction) :
    post.Serves (reaction.code post.slots) (reaction.serve post.seat) := by
  induction reaction with
  | done result =>
    rcases result with error | _
    · exact serves_throw _
    · exact serves_pure _
  | call look next ih =>
    rw [Reaction.code]
    refine (serves_look look).bind ih fun course => ?_
    rw [Reaction.serve]
    rcases Look.serve post.seat look course with ⟨_ | answer, course⟩ <;> rfl

end Post

end Beamline.Run
