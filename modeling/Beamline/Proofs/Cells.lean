import Beamline.Proofs.Separation
import Beamline.Run.Stateless

/-!
What the modules of a lane received, as a plain list in the order in which the lane registered its
delegates. Dispatching to such a list does what the bus does to the delegates.
-/

namespace Beamline.Run

open Bus

namespace Intake

/-- The type of messages that it takes, none if it takes every type. -/
def payload : Intake → Option PayloadType
  | slot _ payload | filter payload _ => some payload
  | anyFilter _ => none

/-- What a slot contains or a filter accepted after one more message, and whether it accepted that
one; none if it refuses it. -/
def take (overwrite : Bool) (contents : List Message) (message : Message) (name : String) :
    Intake → Option (Bool × List Message)
  | slot .single _ =>
    if !contents.isEmpty && !overwrite then none else some (true, [message])
  | slot .multi _ => some (true, contents ++ [message])
  | filter _ accepts =>
    some (accepts message, if accepts message then contents ++ [message] else contents)
  | anyFilter accepts =>
    some (accepts message name, if accepts message name then contents ++ [message] else contents)

end Intake

/-- What a delegate of a lane got, with what it takes. -/
structure Cell where
  want : Want
  /-- The name that the module listens to. -/
  input : String := ""
  detector : Option Detector := none
  /-- The messages in a slot, or those that a filter accepted. -/
  contents : List Message := []

namespace Cell

/-- The cell for what a module wants, as long as it got nothing. -/
def new (input : String) (detector : Option Detector) (want : Want) : Cell where
  want
  input
  detector

def emptied (cell : Cell) : Cell :=
  { cell with contents := [] }

/-- Whether a message under a name is for it. -/
def wants (message : Message) (name : String) (cell : Cell) : Bool :=
  (match cell.detector, message.detector with
    | some mine, some origin => mine.name == origin.name
    | _, _ => true) &&
  (cell.want.flags.ignoreName ||
    name == if cell.want.flags.unnamedOnly then "" else cell.input) &&
  cell.want.intake.payload.all (· == message.type)

/-- Whether it is required and got nothing. -/
def unmet (cell : Cell) : Bool :=
  cell.want.flags.required && cell.contents.isEmpty

/-- What it contains after one more message, and whether it accepted that one; none if it refuses
it. -/
def take (message : Message) (name : String) (cell : Cell) : Option (Bool × List Message) :=
  cell.want.intake.take cell.want.flags.allowOverwrite cell.contents message name

/-- Gives a message to those that are chosen, and counts who accepts it, none if one refuses. -/
def deliver (chosen : Cell → Bool) (message : Message) (name : String) :
    List Cell → Option Nat × List Cell
  | [] => (some 0, [])
  | cell :: rest =>
    if chosen cell then
      match cell.take message name with
      | none => (none, cell :: rest)
      | some (accepted, contents) =>
        let (count, rest) := deliver chosen message name rest
        (count.map fun count => if accepted then count + 1 else count,
          { cell with contents } :: rest)
    else
      let (count, rest) := deliver chosen message name rest
      (count, cell :: rest)

/-- Dispatches a message: first to those for its type, then to those for every type. -/
def dispatch (message : Message) (name : String) (cells : List Cell) :
    Option Report × List Cell :=
  match deliver (fun cell => cell.want.intake.payload.isSome && cell.wants message name) message name
    cells with
  | (none, middle) => (none, middle)
  | (some first, middle) =>
    match deliver (fun cell => cell.want.intake.payload.isNone && cell.wants message name) message
      name middle with
    | (none, after) => (none, after)
    | (some second, after) =>
      (some { invoked := cells.countP (wants message name), accepted := first + second }, after)

theorem emptied_deliver (chosen : Cell → Bool) (message : Message) (name : String)
    (cells : List Cell) :
    (deliver chosen message name cells).2.map emptied = cells.map emptied := by
  induction cells with
  | nil => rfl
  | cons cell rest ih =>
    unfold deliver
    by_cases picked : chosen cell = true
    · rw [if_pos picked]
      rcases cell.take message name with _ | ⟨accepted, contents⟩
      · rfl
      · exact congrArg (_ :: ·) ih
    · rw [if_neg picked]
      exact congrArg (_ :: ·) ih

theorem emptied_dispatch (message : Message) (name : String) (cells : List Cell) :
    (dispatch message name cells).2.map emptied = cells.map emptied := by
  have first := emptied_deliver
    (fun cell => cell.want.intake.payload.isSome && cell.wants message name) message name cells
  unfold dispatch
  rcases told : deliver _ message name cells with ⟨_ | count, middle⟩ <;> rw [told] at first
  · exact first
  · have second := emptied_deliver
      (fun cell => cell.want.intake.payload.isNone && cell.wants message name) message name middle
    dsimp only
    rcases more : deliver _ message name middle with ⟨_ | further, after⟩ <;> rw [more] at second <;>
      exact second.trans first

end Cell

/-! ## Delegates and their cells -/

/-- A binding for an intake, and what it keeps. -/
inductive Intake.Serves (store : Store) (contents : List Message) :
    Intake → Binding Installed → Prop
  | slot {slot : Slot} (held : store.contents slot = contents) :
    Intake.Serves store contents (.slot slot.kind slot.payload) (.slot slot)
  | filter {payload : PayloadType} {accepts : Message → Bool} {number : Nat}
    (delivered : (store.filterState number).delivered = !contents.isEmpty) :
    Intake.Serves store contents (.filter payload accepts) (.filter payload {
      number, filter := { accepts := fun _ message _ => accepts message } })
  | anyFilter {accepts : Message → String → Bool} {number : Nat}
    (delivered : (store.filterState number).delivered = !contents.isEmpty) :
    Intake.Serves store contents (.anyFilter accepts) (.anyFilter {
      number, filter := { accepts := fun _ message name => accepts message (name.getD "") } })

namespace Intake.Serves

variable {before after : Store} {contents : List Message} {intake : Intake}
  {binding : Binding Installed}

theorem of_same (serves : Intake.Serves before contents intake binding)
    (same : binding.place.Same before after) : Intake.Serves after contents intake binding := by
  cases serves with
  | slot held => exact .slot (Eq.trans same held)
  | filter delivered => exact .filter (Eq.trans (congrArg FilterState.delivered same) delivered)
  | anyFilter delivered =>
    exact .anyFilter (Eq.trans (congrArg FilterState.delivered same) delivered)

theorem payload (serves : Intake.Serves before contents intake binding) :
    binding.payload = intake.payload := by
  cases serves <;> rfl

theorem keeps (serves : Intake.Serves before contents intake binding) :
    before.keeps binding.place = !contents.isEmpty := by
  cases serves with
  | slot held =>
    rw [← held]
    rfl
  | filter delivered => exact delivered
  | anyFilter delivered => exact delivered

theorem contents_eq (serves : Intake.Serves before contents intake binding) {slot : Slot}
    (bound : binding.slot? = some slot) : before.contents slot = contents := by
  cases serves with
  | slot held =>
    obtain rfl := Option.some.inj bound
    exact held
  | filter delivered => cases bound
  | anyFilter delivered => cases bound

theorem emptied (serves : Intake.Serves before contents intake binding)
    (bare : after.keeps binding.place = false) : Intake.Serves after [] intake binding := by
  cases serves with
  | slot held => exact .slot (by simpa [Binding.place, Store.keeps, Store.isFilled] using bare)
  | filter delivered => exact .filter bare
  | anyFilter delivered => exact .anyFilter bare

end Intake.Serves

/-- A delegate that serves what a cell wants and keeps what it contains. -/
structure Cell.Shown (store : Store) (handle : Handle) (cell : Cell) : Prop where
  flags : handle.delegate.flags = cell.want.flags
  input : handle.delegate.receiver.input = cell.input
  detector : handle.delegate.receiver.detector = cell.detector
  serves : Intake.Serves store cell.contents cell.want.intake handle.delegate.binding

namespace Cell.Shown

variable {before after : Store} {handle : Handle} {cell : Cell} {message : Message} {name : String}

theorem of_same (shown : cell.Shown before handle)
    (same : handle.place.Same before after) : cell.Shown after handle :=
  { shown with serves := shown.serves.of_same same }

theorem wants_iff (shown : cell.Shown before handle) {source : Identity}
    (lane : handle.lane = source.lane) :
    handle.delegate.Wants source message name ↔ cell.wants message name = true := by
  unfold Delegate.Wants wants
  rw [shown.flags, shown.input, shown.detector, shown.serves.payload]
  have home : handle.delegate.receiver.lane = source.lane := lane
  cases cell.detector <;> cases message.detector <;> cases cell.want.intake.payload <;>
    simp [home, and_assoc]

theorem isSatisfied (shown : cell.Shown before handle) :
    handle.isSatisfied before = !cell.contents.isEmpty := by
  rw [Handle.isSatisfied_eq_keeps]
  exact shown.serves.keeps

theorem emptied (shown : cell.Shown before handle) (bare : handle.place.Within after []) :
    cell.emptied.Shown after handle :=
  { shown with serves := shown.serves.emptied (Place.Within.keeps_iff.mp bare) }

theorem filtered_isEmpty (contents : List Message) (message : Message) (accepted : Bool) :
    (!contents.isEmpty || accepted) =
      !(if accepted then contents ++ [message] else contents).isEmpty := by
  cases accepted <;> simp

/-- A delegate does with a message of its type what its cell does. -/
theorem process (shown : cell.Shown before handle) (name : String)
    (typed : ∀ payload ∈ cell.want.intake.payload, payload = message.type) :
    (cell.take message name = none ∧
      ∃ error, handle.process before message name = (.error error, before)) ∨
    ∃ accepted contents after, cell.take message name = some (accepted, contents) ∧
      handle.process before message name = (.ok accepted, after) ∧
      Cell.Shown after handle { cell with contents } ∧
      ∀ place, handle.place ≠ place → place.Same before after := by
  obtain ⟨flags, input, detector, serves⟩ := shown
  have onward {contents : List Message} {after : Store}
      (serves : Intake.Serves after contents cell.want.intake handle.delegate.binding) :
      Cell.Shown after handle { cell with contents } := ⟨flags, input, detector, serves⟩
  unfold Handle.process Handle.place Cell.take
  rw [flags]
  generalize handle.delegate.binding = binding at serves onward ⊢
  generalize cell.want.intake = intake at serves onward typed ⊢
  cases serves with
  | @slot slot held =>
    have suits : slot.payload = message.type := typed slot.payload rfl
    have elsewhere (messages : List Message) (place : Place)
        (different : (Binding.slot slot : Binding Installed).place ≠ place) :
        place.Same before (before.setContents slot messages) :=
      same_setContents before slot messages place different
    have put (messages : List Message) :
        (before.setContents slot messages).contents slot = messages := by simp
    cases kind : slot.kind with
    | single =>
      by_cases free : (!cell.contents.isEmpty && !cell.want.flags.allowOverwrite) = true
      · refine .inl ⟨if_pos free, handle.refused name, ?_⟩
        simp only [suits, ne_eq, not_true, ↓reduceIte, Store.put, kind, Store.isFilled, held, free]
      · refine .inr ⟨true, [message], _, if_neg free, ?_, onward (.slot (put _)), elsewhere _⟩
        simp only [suits, ne_eq, not_true, ↓reduceIte, Store.put, kind, Store.isFilled, held, free,
          Bool.false_eq_true]
    | multi =>
      refine .inr ⟨true, cell.contents ++ [message], _, rfl, ?_, onward (.slot (put _)),
        elsewhere _⟩
      simp only [suits, ne_eq, not_true, ↓reduceIte, Store.put, kind, held]
  | @filter payload accepts number delivered =>
    have suits : payload = message.type := typed payload rfl
    let filter : Filter := { accepts := fun _ message _ => accepts message }
    have called := (before.called_ask number filter message none).1
    rw [delivered, filtered_isEmpty] at called
    refine .inr ⟨accepts message, _, (before.ask number filter message none).2, rfl, ?_,
      onward (.filter called), fun place different => same_ask _ _ _ _ _ place different⟩
    simp only [suits, ne_eq, not_true, ↓reduceIte]
    rfl
  | @anyFilter accepts number delivered =>
    let filter : Filter := { accepts := fun _ message name => accepts message (name.getD "") }
    have called := (before.called_ask number filter message (some name)).1
    rw [delivered, filtered_isEmpty] at called
    exact .inr ⟨accepts message name, _, (before.ask number filter message (some name)).2, rfl, rfl,
      onward (.anyFilter called), fun place different => same_ask _ _ _ _ _ place different⟩

end Cell.Shown

/-- The delegates of a lane with their cells. -/
def Cell.AllShown (store : Store) (handles : List Handle) (cells : List Cell) : Prop :=
  List.Forall₂ (Cell.Shown store) handles cells

theorem Cell.AllShown.of_same {before after : Store} {handles : List Handle} {cells : List Cell}
    (shown : AllShown before handles cells)
    (same : ∀ handle ∈ handles, handle.place.Same before after) :
    AllShown after handles cells :=
  ((List.forall₂_and_left handles cells).mpr ⟨same, shown⟩).imp
    fun _ _ both => both.2.of_same both.1

/-! ## Deliveries -/

/-- What something came to, if one does not ask for the error. -/
def Tells {ε α : Type} : Option α → Except ε α → Prop
  | none, result => ∃ error, result = .error error
  | some value, result => result = .ok value

theorem Tells.isOk_eq {ε α : Type} {told : Option α} {result : Except ε α}
    (tells : Tells told result) : result.isOk = told.isSome := by
  cases told with
  | none =>
    obtain ⟨error, rfl⟩ := tells
    rfl
  | some value =>
    obtain rfl : result = .ok value := tells
    rfl

/-- Delivering to chosen delegates does what delivering to their cells does. -/
theorem Cell.deliver_shown {message : Message} (name : String) {chosen : Handle → Bool}
    {picks : Cell → Bool} {handles : List Handle} {cells : List Cell} {store : Store}
    (shown : AllShown store handles cells)
    (apart : handles.Pairwise fun first second => first.place ≠ second.place)
    (alike : ∀ handle ∈ handles, ∀ (store : Store) cell, Cell.Shown store handle cell →
      chosen handle = picks cell)
    (typed : ∀ cell, picks cell = true → ∀ payload ∈ cell.want.intake.payload,
      payload = message.type) :
    ∃ result after, Bus.deliver store message name (handles.filter chosen) = (result, after) ∧
      Tells (deliver picks message name cells).1 result ∧
      AllShown after handles (deliver picks message name cells).2 ∧
      ∀ place, (∀ handle ∈ handles, handle.place ≠ place) → place.Same store after := by
  induction handles generalizing cells store with
  | nil =>
    cases shown
    exact ⟨.ok 0, store, rfl, rfl, .nil, fun place _ => .refl place store⟩
  | cons handle rest ih =>
    obtain ⟨cell, others, first, seconds, rfl⟩ := List.forall₂_cons_left_iff.mp shown
    obtain ⟨foreign, apart⟩ := List.pairwise_cons.mp apart
    obtain ⟨same, alike⟩ := List.forall_mem_cons.mp alike
    replace same := same store cell first
    by_cases picked : picks cell = true
    · rw [List.filter_cons_of_pos (same.trans picked)]
      rcases first.process name (typed cell picked) with ⟨taken, error, processed⟩ |
        ⟨accepted, contents, middle, taken, processed, shows, kept⟩
      · have told : deliver picks message name (cell :: others) = (none, cell :: others) := by
          simp only [deliver, picked, taken, ↓reduceIte]
        rw [told]
        refine ⟨.error error, store, ?_, ⟨error, rfl⟩, .cons first seconds,
          fun place _ => .refl place store⟩
        simp only [Bus.deliver, processed]
      · obtain ⟨result, after, delivered, tells, all, untouched⟩ :=
          ih (Cell.AllShown.of_same seconds fun other member => kept _ (foreign other member))
            apart alike
        have still := untouched handle.place fun other member => (foreign other member).symm
        have elsewhere (place : Place) (apart : ∀ other ∈ handle :: rest, other.place ≠ place) :
            place.Same store after := by
          rw [List.forall_mem_cons] at apart
          exact (kept place apart.1).trans (untouched place apart.2)
        have told : deliver picks message name (cell :: others) =
            ((deliver picks message name others).1.map fun count =>
              if accepted then count + 1 else count,
              { cell with contents } :: (deliver picks message name others).2) := by
          simp only [deliver, picked, taken, ↓reduceIte]
        rw [told]
        cases counted : (deliver picks message name others).1 with
        | none =>
          rw [counted] at tells
          obtain ⟨error, rfl⟩ := tells
          refine ⟨.error error, after, ?_, ⟨error, rfl⟩, .cons (shows.of_same still) all, elsewhere⟩
          simp only [Bus.deliver, processed, delivered]
        | some count =>
          rw [counted] at tells
          obtain rfl : result = .ok count := tells
          refine ⟨_, after, ?_, rfl, .cons (shows.of_same still) all, elsewhere⟩
          simp only [Bus.deliver, processed, delivered]
    · obtain ⟨result, after, delivered, tells, all, untouched⟩ := ih seconds apart alike
      have told : deliver picks message name (cell :: others) =
          ((deliver picks message name others).1,
            cell :: (deliver picks message name others).2) := by
        simp only [deliver, if_neg picked]
      rw [List.filter_cons_of_neg (by rwa [same]), told]
      have still := untouched handle.place fun other member => (foreign other member).symm
      refine ⟨result, after, delivered, tells, .cons (first.of_same still) all, ?_⟩
      intro place elsewhere
      exact untouched place fun other member => elsewhere other (List.mem_cons_of_mem _ member)

private theorem deliver_append (store : Store) (message : Message) (name : String)
    (first second : List Handle) :
    Bus.deliver store message name (first ++ second) =
      match Bus.deliver store message name first with
      | (.error error, store) => (.error error, store)
      | (.ok count, store) =>
        match Bus.deliver store message name second with
        | (.error error, store) => (.error error, store)
        | (.ok others, store) => (.ok (count + others), store) := by
  induction first generalizing store with
  | nil =>
    simp only [List.nil_append, Bus.deliver, Nat.zero_add]
    rcases Bus.deliver store message name second with ⟨error | count, after⟩ <;> rfl
  | cons handle rest ih =>
    simp only [List.cons_append, Bus.deliver]
    rcases handle.process store message name with ⟨error | accepted, middle⟩
    · rfl
    · simp only [ih]
      rcases Bus.deliver middle message name rest with ⟨error | count, last⟩
      · rfl
      · dsimp only
        rcases Bus.deliver last message name second with ⟨error | others, after⟩
        · rfl
        · cases accepted <;> simp [Nat.add_right_comm]

section Dispatch

variable {bus : Bus} {returned live : List Handle} {source : Identity} {handles : List Handle}
  {cells : List Cell} {message : Message} {name : String}

/-- Those whom a message reaches are delegates of the sender's lane. -/
theorem Cell.candidates_eq (separate : bus.Separate returned live)
    (own : live.filter (fun handle => handle.lane = source.lane) = handles) :
    bus.messenger.candidates source message name =
      handles.filter (fun handle =>
        handle.delegate.IsTyped ∧ handle.delegate.Wants source message name) ++
      handles.filter (fun handle =>
        ¬handle.delegate.IsTyped ∧ handle.delegate.Wants source message name) := by
  refine ((Usage.Sound.lists separate.sound).candidates_eq source message name).trans ?_
  have within (typed : Handle → Prop) [DecidablePred typed] :
      live.filter (fun handle => typed handle ∧ handle.delegate.Wants source message name) =
        handles.filter fun handle =>
          typed handle ∧ handle.delegate.Wants source message name := by
    rw [← own, List.filter_filter]
    apply List.filter_congr
    intro handle _
    by_cases wanted : handle.delegate.Wants source message name
    · have lane : handle.lane = source.lane := wanted.1
      simp [wanted, lane]
    · simp [wanted]
  rw [within, within]

theorem Cell.length_filter {store : Store} {chosen : Handle → Bool} {picks : Cell → Bool}
    (shown : AllShown store handles cells)
    (alike : ∀ handle ∈ handles, ∀ (store : Store) cell, Cell.Shown store handle cell →
      chosen handle = picks cell) :
    (handles.filter chosen).length = cells.countP picks := by
  rw [← List.countP_eq_length_filter]
  induction shown with
  | nil => rfl
  | @cons handle cell handles cells first rest ih =>
    obtain ⟨same, alike⟩ := List.forall_mem_cons.mp alike
    rw [List.countP_cons, List.countP_cons, ih alike, same store cell first]

private theorem Cell.countP_wants (message : Message) (name : String) (cells : List Cell) :
    cells.countP (fun cell => cell.want.intake.payload.isSome && cell.wants message name) +
        cells.countP (fun cell => cell.want.intake.payload.isNone && cell.wants message name) =
      cells.countP (wants message name) := by
  induction cells with
  | nil => rfl
  | cons cell rest ih =>
    simp only [List.countP_cons]
    cases cell.want.intake.payload <;> simp <;> omega

/-- A delegate is a candidate in the same part of the delivery as its cell. -/
theorem Cell.Shown.chosen {store : Store} {handle : Handle} {cell : Cell}
    (shown : cell.Shown store handle) (lane : handle.lane = source.lane) :
    (decide (handle.delegate.IsTyped ∧ handle.delegate.Wants source message name) =
      (cell.want.intake.payload.isSome && cell.wants message name)) ∧
    (decide (¬handle.delegate.IsTyped ∧ handle.delegate.Wants source message name) =
      (cell.want.intake.payload.isNone && cell.wants message name)) := by
  constructor
  · rw [Bool.eq_iff_iff, decide_eq_true_eq, Bool.and_eq_true, shown.wants_iff lane,
      Delegate.IsTyped, shown.serves.payload, ← Option.isSome_iff_ne_none]
  · rw [Bool.eq_iff_iff, decide_eq_true_eq, Bool.and_eq_true, shown.wants_iff lane,
      Delegate.IsTyped, shown.serves.payload, ne_eq, not_not, Option.isNone_iff_eq_none]

theorem Cell.lane_of_own (own : live.filter (fun handle => handle.lane = source.lane) = handles) :
    ∀ handle ∈ handles, handle.lane = source.lane := by
  intro handle member
  rw [← own] at member
  exact of_decide_eq_true (List.mem_filter.mp member).2

theorem Cell.length_candidates (separate : bus.Separate returned live)
    (own : live.filter (fun handle => handle.lane = source.lane) = handles)
    (shown : AllShown bus.store handles cells) :
    (bus.messenger.candidates source message name).length =
      cells.countP (wants message name) := by
  have lane := lane_of_own own
  rw [candidates_eq separate own, List.length_append,
    length_filter shown fun handle member _ _ shown => (shown.chosen (lane handle member)).1,
    length_filter shown fun handle member _ _ shown => (shown.chosen (lane handle member)).2,
    countP_wants]

theorem Cell.hasReceiver_shown (separate : bus.Separate returned live)
    (own : live.filter (fun handle => handle.lane = source.lane) = handles)
    (shown : AllShown bus.store handles cells) :
    bus.messenger.hasReceiver source message name = cells.any (wants message name) := by
  have length := @length_candidates bus returned live source handles cells message name separate
    own shown
  rw [Messenger.hasReceiver, Bool.eq_iff_iff, Bool.not_eq_true', List.isEmpty_eq_false_iff_exists_mem,
    ← List.length_pos_iff_exists_mem, length, List.countP_pos_iff, List.any_eq_true]

theorem Cell.dispatch_shown (separate : bus.Separate returned live)
    (own : live.filter (fun handle => handle.lane = source.lane) = handles)
    (shown : AllShown bus.store handles cells) :
    Tells (dispatch message name cells).1 (bus.dispatch source message name).1 ∧
      AllShown (bus.dispatch source message name).2.store handles
        (dispatch message name cells).2 ∧
      ∀ place, (∀ handle ∈ handles, handle.place ≠ place) →
        place.Same bus.store (bus.dispatch source message name).2.store := by
  have apart : handles.Pairwise fun first second => first.place ≠ second.place := by
    rw [← own]
    exact (separate.apart.sublist separate.sound.registered).filter _
  have lane := lane_of_own own
  have typed (some : Bool) (cell : Cell) (wanted : (some && cell.wants message name) = true) :
      ∀ payload ∈ cell.want.intake.payload, payload = message.type := by
    simp only [wants, Bool.and_eq_true, Option.all_eq_true, beq_iff_eq] at wanted
    exact wanted.2.2
  have candidates := @candidates_eq bus returned live source handles message name separate own
  obtain ⟨result, middle, delivered, tells, all, untouched⟩ :=
    deliver_shown name shown apart
      (fun handle member _ _ shown => (shown.chosen (lane handle member)).1) fun cell => typed _ cell
  have length := @length_candidates bus returned live source handles cells message name separate
    own shown
  have appended := deliver_append bus.store message name
    (handles.filter fun handle =>
      handle.delegate.IsTyped ∧ handle.delegate.Wants source message name)
    (handles.filter fun handle =>
      ¬handle.delegate.IsTyped ∧ handle.delegate.Wants source message name)
  rw [← candidates, delivered] at appended
  unfold dispatch
  rcases told : deliver (fun cell => cell.want.intake.payload.isSome && cell.wants message name)
    message name cells with ⟨_ | count, others⟩
  · rw [told] at tells all
    obtain ⟨error, rfl⟩ := tells
    rw [dispatch_of_error appended]
    exact ⟨⟨error, rfl⟩, all, untouched⟩
  · rw [told] at tells all
    obtain rfl : result = .ok count := tells
    obtain ⟨result, after, completed, tells, all, still⟩ :=
      deliver_shown name all apart
        (fun handle member _ _ shown => (shown.chosen (lane handle member)).2) fun cell => typed _ cell
    have elsewhere (place : Place) (apart : ∀ handle ∈ handles, handle.place ≠ place) :
        place.Same bus.store after := (untouched place apart).trans (still place apart)
    dsimp only at appended
    rw [completed] at appended
    dsimp only at completed tells all ⊢
    rcases more : deliver (fun cell => cell.want.intake.payload.isNone && cell.wants message name)
      message name others with ⟨_ | further, last⟩
    · rw [more] at tells all
      obtain ⟨error, rfl⟩ := tells
      rw [dispatch_of_error appended]
      exact ⟨⟨error, rfl⟩, all, elsewhere⟩
    · rw [more] at tells all
      obtain rfl : result = .ok further := tells
      rw [dispatch_of_ok appended, length]
      exact ⟨rfl, all, elsewhere⟩

end Dispatch

end Beamline.Run
