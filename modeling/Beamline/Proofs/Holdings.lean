import Beamline.Proofs.EventShares
import Beamline.Proofs.ProgramLogic
import Beamline.Proofs.Separation

namespace Beamline.Run

open Bus

/-- What belongs to one lane. -/
structure Holding where
  /-- The delegates that its modules keep. -/
  held : List Handle := []
  /-- Those of them that are known to be empty. -/
  emptied : List Handle := []
  /-- Whether its log is known to be empty. -/
  cleared : Bool := false
  /-- The worlds in which it completed its events. -/
  closings : List World := []

/-- A holding of which some delegates became empty. -/
def Holding.empty (holding : Holding) (handles : List Handle) : Holding :=
  { holding with emptied := holding.emptied ++ handles }

/-- The world, and what the lanes of a run did to it so far. -/
abbrev Recorded := World × Record

/-- What holds of a lane: since it completed an event, its delegates got nothing but what it
dispatched since then. -/
structure Holding.Shows (holding : Holding) (lane : LaneId) (state : Recorded) : Prop where
  within : ∀ handle ∈ holding.held, ∀ messages, state.2.inEvent lane = some messages →
    handle.place.Within state.1.bus.store messages
  emptied : ∀ handle ∈ holding.emptied,
    handle ∈ holding.held ∧ handle.place.Within state.1.bus.store []
  cleared : holding.cleared = true → state.1.bus.messenger.sentMessages lane = []
  closings : state.2.closings lane = holding.closings

/-- The lane whose event an operation closes: it empties its storage or its log. -/
def LaneOperation.closes? : LaneOperation → Option LaneId
  | request scope .resetAll => some scope.bindings.identity.lane
  | clearSent lane | countEvent lane => some lane
  | _ => none

/-- At every instant after its first event, what a module can find is from the event of its lane;
and what closes the event of a lane leaves the delegates, the places and the logs of all other lanes
alone. -/
structure Instant.Isolated (earlier : Record) (instant : Instant) : Prop where
  found : ∀ scope wanted, instant.operation = .request scope wanted → ∀ messages,
    earlier.inEvent scope.bindings.identity.lane = some messages →
      (∀ handle ∈ scope.bindings.handles,
        handle.place.Within instant.before.bus.store messages) ∧
      ∀ message name, ∀ handle ∈ instant.before.bus.messenger.candidates scope.bindings.identity
        message name, handle.place.Within instant.before.bus.store messages
  closed : ∀ lane, instant.operation.closes? = some lane →
    instant.after.bus.messenger.registry = instant.before.bus.messenger.registry ∧
      (∀ handle ∈ instant.before.bus.messenger.registry.handles, handle.lane ≠ lane →
        handle.place.Same instant.before.bus.store instant.after.bus.store) ∧
      ∀ other ≠ lane, instant.after.bus.messenger.sentMessages other =
        instant.before.bus.messenger.sentMessages other

/-- Who holds what: every registered delegate is held by a lane, each lane holds delegates of its
own, and what they got is from the lane's event. -/
structure Ledger (returned live : List Handle) (holdings : Nat → Holding) (state : Recorded) :
    Prop where
  separate : state.1.bus.Separate returned live
  owned : ∀ handle ∈ live, ∃ place, handle ∈ (holdings place).held
  known : ∀ place, ∀ handle ∈ (holdings place).held,
    handle ∈ returned ∧ handle.lane = laneOf place ∧ place ≤ ConfigError.maxWorkers
  shown : ∀ place ≤ ConfigError.maxWorkers, (holdings place).Shows (laneOf place) state
  isolated : ∀ earlier instant later, state.2 = earlier ++ instant :: later →
    instant.Isolated earlier

/-- Who holds what, with the delegates left to be found. -/
def Accounts (holdings : Nat → Holding) (state : Recorded) : Prop :=
  ∃ returned live, Ledger returned live holdings state

theorem Record.inEvent_concat (lane : LaneId) (record : Record) (instant : Instant) :
    Record.inEvent lane (record ++ [instant]) = instant.follow lane (record.inEvent lane) :=
  List.foldl_concat ..

theorem Record.closings_concat (lane : LaneId) (record : Record) (instant : Instant) :
    Record.closings lane (record ++ [instant]) =
      record.closings lane ++ (instant.closing? lane).toList := by
  rw [Record.closings, List.filterMap_append]
  cases found : instant.closing? lane <;> simp [Record.closings, found]

def laneScope (own : Nat) : Scope where
  bindings := { identity := { number := 0, name := "", lane := laneOf own } }

theorem Holding.held_eq (holding : Holding) (own : Nat) :
    holding.held = holding.held ++ (laneScope own).bindings.handles ++ [] := by
  simp [laneScope]

theorem Instant.follow_request_of_other {own : Nat} {scope : Scope} {wanted : Request}
    (lane : scope.bindings.identity.lane = laneOf own) (world after : World) :
    ∀ other ≠ laneOf own,
      (∀ since, Instant.follow other since ⟨.request scope wanted, world, after⟩ = since) ∧
        Instant.closing? other ⟨.request scope wanted, world, after⟩ = none := by
  intro other different
  refine ⟨fun since => if_neg ?_, rfl⟩
  rw [lane]
  exact different.symm

namespace Ledger

variable {returned live : List Handle} {holdings : Nat → Holding} {world after : World}
  {record : Record} {own : Nat}

theorem append_isolated (ledger : Ledger returned live holdings (world, record))
    {instant : Instant} (isolated : instant.Isolated record) :
    ∀ earlier other later, record ++ [instant] = earlier ++ other :: later →
      other.Isolated earlier := by
  intro earlier other later split
  rcases later.eq_nil_or_concat with rfl | ⟨rest, last, rfl⟩
  · obtain ⟨rfl, same⟩ := List.append_inj' split rfl
    obtain rfl := List.singleton_inj.mp same
    exact isolated
  · rw [List.concat_eq_append, ← List.cons_append, ← List.append_assoc] at split
    obtain ⟨same, _⟩ := List.append_inj' split rfl
    exact ledger.isolated earlier other rest same

/-- An operation of a lane that moves its own holding leaves the other lanes theirs. -/
theorem move (ledger : Ledger returned live holdings (world, record))
    (small : own ≤ ConfigError.maxWorkers) {created left : List Handle} {sent : List Message}
    {scope later : Scope}
    (footprint : Footprint returned live created left sent scope later world.bus after.bus)
    (lane : scope.bindings.identity.lane = laneOf own) {before rest : List Handle}
    (held : (holdings own).held = before ++ scope.bindings.handles ++ rest) {instant : Instant}
    (foreign : ∀ other ≠ laneOf own,
      (∀ since, instant.follow other since = since) ∧ instant.closing? other = none)
    {holding : Holding} (kept : holding.held = before ++ later.bindings.handles ++ rest)
    (shows_ : holding.Shows (laneOf own) (after, record ++ [instant]))
    (isolated : instant.Isolated record) :
    Ledger (returned ++ created) left (Function.update holdings own holding)
      (after, record ++ [instant]) := by
  have known (handle : Handle) (member : handle ∈ holding.held) :
      handle ∈ returned ++ created ∧ handle.lane = laneOf own := by
    rw [kept, List.append_assoc, List.mem_append, List.mem_append] at member
    have old (among : handle ∈ (holdings own).held) :
        handle ∈ returned ++ created ∧ handle.lane = laneOf own :=
      ⟨List.mem_append_left _ (ledger.known own handle among).1,
        (ledger.known own handle among).2.1⟩
    rw [held, List.append_assoc, List.mem_append, List.mem_append] at old
    rcases member with member | member | member
    · exact old (.inl member)
    · rcases footprint.held handle member with mine | new
      · exact old (.inr (.inl mine))
      · exact ⟨List.mem_append_right _ new, (footprint.lane handle new).trans lane⟩
    · exact old (.inr (.inr member))
  constructor
  · exact footprint.separate
  · intro handle member
    obtain ⟨origin, stays⟩ := footprint.left handle member
    have mine (bound : handle ∈ later.bindings.handles) :
        ∃ place, handle ∈ (Function.update holdings own holding place).held := by
      refine ⟨own, ?_⟩
      rw [Function.update_self, kept]
      simp [bound]
    rcases origin with old | new
    · obtain ⟨place, among⟩ := ledger.owned handle old
      by_cases same : place = own
      · subst same
        rw [held, List.append_assoc, List.mem_append, List.mem_append] at among
        refine ⟨place, ?_⟩
        rw [Function.update_self, kept]
        rcases among with first | bound | last
        · simp [first]
        · simp [stays (.inl bound)]
        · simp [last]
      · exact ⟨place, by rwa [Function.update_of_ne same]⟩
    · exact mine (stays (.inr new))
  · intro place handle member
    by_cases same : place = own
    · subst same
      rw [Function.update_self] at member
      exact ⟨(known handle member).1, (known handle member).2, small⟩
    · rw [Function.update_of_ne same] at member
      obtain ⟨old, rest⟩ := ledger.known place handle member
      exact ⟨List.mem_append_left _ old, rest⟩
  · intro place few
    by_cases same : place = own
    · subst same
      rwa [Function.update_self]
    · rw [Function.update_of_ne same]
      have other : laneOf place ≠ laneOf own := fun equal => same (laneOf_injective few small equal)
      obtain ⟨follows, closing⟩ := foreign (laneOf place) other
      have shown := ledger.shown place few
      have still (handle : Handle) (member : handle ∈ (holdings place).held)
          (messages : List Message) (old : handle.place.Within world.bus.store messages) :
          handle.place.Within after.bus.store messages := by
        obtain ⟨among, elsewhere, _⟩ := ledger.known place handle member
        have within := footprint.within handle among messages old
        rwa [if_neg (by rw [elsewhere, lane]; exact other)] at within
      constructor
      · intro handle member messages since
        rw [Record.inEvent_concat, follows] at since
        exact still handle member messages (shown.within handle member messages since)
      · intro handle member
        obtain ⟨among, bare⟩ := shown.emptied handle member
        exact ⟨among, still handle among [] bare⟩
      · intro cleared
        rw [footprint.logs (laneOf place) (by rw [lane]; exact other)]
        exact shown.cleared cleared
      · rw [Record.closings_concat, closing]
        simpa using shown.closings
  · exact ledger.append_isolated isolated

/-- What a module of a lane finds belongs to the lane's event. -/
theorem found (ledger : Ledger returned live holdings (world, record))
    (small : own ≤ ConfigError.maxWorkers) {scope : Scope}
    (lane : scope.bindings.identity.lane = laneOf own)
    (held : ∀ handle ∈ scope.bindings.handles, handle ∈ (holdings own).held)
    {messages : List Message} (since : record.inEvent scope.bindings.identity.lane = some messages) :
    (∀ handle ∈ scope.bindings.handles, handle.place.Within world.bus.store messages) ∧
      ∀ message name, ∀ handle ∈ world.bus.messenger.candidates scope.bindings.identity message
        name, handle.place.Within world.bus.store messages := by
  rw [lane] at since
  constructor
  · intro handle member
    exact (ledger.shown own small).within handle (held handle member) messages since
  · intro message name handle candidate
    obtain ⟨listed, wants⟩ :=
      (Usage.Sound.lists ledger.separate.sound).mem_candidates.mp candidate
    obtain ⟨place, among⟩ := ledger.owned handle listed
    obtain ⟨_, same, few⟩ := ledger.known place handle among
    obtain rfl : place = own :=
      laneOf_injective few small (same.symm.trans (Eq.trans wants.1 lane))
    exact (ledger.shown place small).within handle among messages since

theorem closed_reset (ledger : Ledger returned live holdings (world, record)) {scope : Scope}
    {own : Nat} (lane : scope.bindings.identity.lane = laneOf own)
    (held : ∀ handle ∈ scope.bindings.handles, handle ∈ (holdings own).held) :
    ∀ handle ∈ world.bus.messenger.registry.handles, handle.lane ≠ scope.bindings.identity.lane →
      handle.place.Same world.bus.store (resetEach scope.bindings.handles world.bus.store) := by
  intro handle member foreign
  have listed := (Usage.Sound.lists ledger.separate.sound).mem_handles.mp member
  apply resetEach_same
  intro bound among same
  obtain ⟨known, home, _⟩ := ledger.known own bound (held bound among)
  obtain rfl := ledger.separate.eq_of_place known
    (ledger.separate.sound.registered.subset listed) same
  exact foreign (home.trans lane.symm)

theorem isolated_request (ledger : Ledger returned live holdings (world, record))
    (small : own ≤ ConfigError.maxWorkers) {scope : Scope}
    (lane : scope.bindings.identity.lane = laneOf own)
    (held : ∀ handle ∈ scope.bindings.handles, handle ∈ (holdings own).held) {wanted : Request}
    (performed : (wanted.perform scope world).2 = after) :
    Instant.Isolated record { operation := .request scope wanted, before := world, after } where
  found asker asked same messages since := by
    obtain ⟨rfl, rfl⟩ := LaneOperation.request.inj same
    exact ledger.found small lane held since
  closed closing closes := by
    cases wanted with
    | resetAll =>
      obtain rfl := Option.some.inj closes
      have reset : after.bus =
          { world.bus with store := resetEach scope.bindings.handles world.bus.store } :=
        performed ▸ Bindings.reset_eq scope.bindings world.bus
      dsimp only
      rw [reset]
      exact ⟨rfl, ledger.closed_reset lane held, fun _ _ => rfl⟩
    | _ => cases closes

theorem request (ledger : Ledger returned live holdings (world, record))
    (small : own ≤ ConfigError.maxWorkers) {scope later : Scope}
    (lane : scope.bindings.identity.lane = laneOf own) {before rest : List Handle}
    (held : (holdings own).held = before ++ scope.bindings.handles ++ rest) {wanted : Request}
    {created left : List Handle}
    (footprint : Footprint returned live created left wanted.sent scope later world.bus after.bus)
    (performed : (wanted.perform scope world).2 = after) :
    Ledger (returned ++ created) left
      (Function.update holdings own {
        held := before ++ later.bindings.handles ++ rest, closings := (holdings own).closings })
      (after, record ++ [{ operation := .request scope wanted, before := world, after }]) := by
  have mine (handle : Handle) (member : handle ∈ scope.bindings.handles) :
      handle ∈ (holdings own).held := by
    rw [held]
    simp [member]
  refine ledger.move small footprint lane held (Instant.follow_request_of_other lane world after)
    rfl ?_ (ledger.isolated_request small lane mine performed)
  have shown := ledger.shown own small
  constructor
  · -- What was held got at most what the request dispatches; what is new got nothing.
    intro handle member messages since
    rw [Record.inEvent_concat] at since
    obtain ⟨earlier, began, rfl⟩ := Option.map_eq_some_iff.mp ((if_pos lane).symm.trans since)
    have old (among : handle ∈ (holdings own).held) :
        handle.place.Within after.bus.store (earlier ++ wanted.sent) := by
      have within := footprint.within handle (ledger.known own handle among).1 earlier
        (shown.within handle among earlier began)
      rwa [if_pos (by rw [(ledger.known own handle among).2.1, lane])] at within
    rw [held] at old
    simp only [List.mem_append] at member old
    rcases member with (first | bound) | last
    · exact old (.inl (.inl first))
    · rcases footprint.held handle bound with kept | new
      · exact old (.inl (.inr kept))
      · exact (footprint.empty handle new).of_empty _
    · exact old (.inr last)
  · simp
  · nofun
  · rw [Record.closings_concat]
    simpa [Instant.closing?] using shown.closings

/-! ## What a lane does itself -/

theorem same_bus (ledger : Ledger returned live holdings (world, record))
    (same : after.bus = world.bus) {instant : Instant}
    (follows : ∀ lane, (∀ since, instant.follow lane since = since) ∧
      instant.closing? lane = none) (isolated : instant.Isolated record) :
    Ledger returned live holdings (after, record ++ [instant]) where
  separate := same ▸ ledger.separate
  owned := ledger.owned
  known := ledger.known
  shown place few := by
    obtain ⟨within, emptied, cleared, closings⟩ := ledger.shown place few
    obtain ⟨follow, closing⟩ := follows (laneOf place)
    constructor
    · simpa only [Record.inEvent_concat, follow, same] using within
    · simpa only [same] using emptied
    · simpa only [same] using cleared
    · rw [Record.closings_concat, closing]
      simpa using closings
  isolated := ledger.append_isolated isolated

/-- A module's storage is emptied, and what is known to be empty stays so. -/
theorem reset (ledger : Ledger returned live holdings (world, record))
    (small : own ≤ ConfigError.maxWorkers) {scope : Scope}
    (lane : scope.bindings.identity.lane = laneOf own) {before rest : List Handle}
    (held : (holdings own).held = before ++ scope.bindings.handles ++ rest)
    (performed : (Request.perform .resetAll scope world).2 = after) :
    Ledger (returned ++ []) live
      (Function.update holdings own ((holdings own).empty scope.bindings.handles))
      (after, record ++ [{ operation := .request scope .resetAll, before := world, after }]) := by
  have mine (handle : Handle) (member : handle ∈ scope.bindings.handles) :
      handle ∈ (holdings own).held := by
    rw [held]
    simp [member]
  have bus : after.bus =
      { world.bus with store := resetEach scope.bindings.handles world.bus.store } :=
    performed ▸ Bindings.reset_eq scope.bindings world.bus
  have footprint : Footprint returned live [] live [] scope scope world.bus after.bus := by
    rw [bus]
    exact .emptying (ledger.separate.resetEach _) (fun _ _ old => old.resetEach _) rfl
  refine ledger.move small footprint lane held (Instant.follow_request_of_other lane world after)
    held ?_ (ledger.isolated_request small lane mine performed)
  have shown := ledger.shown own small
  have still {handle : Handle} {messages : List Message}
      (old : handle.place.Within world.bus.store messages) :
      handle.place.Within after.bus.store messages := by
    rw [bus]
    exact old.resetEach _
  constructor
  · intro handle member messages since
    rw [Record.inEvent_concat] at since
    obtain ⟨earlier, began, rfl⟩ := Option.map_eq_some_iff.mp ((if_pos lane).symm.trans since)
    exact (still (shown.within handle member earlier began)).append _
  · intro handle member
    rcases List.mem_append.mp member with old | new
    · exact ⟨(shown.emptied handle old).1, still (shown.emptied handle old).2⟩
    · refine ⟨mine handle new, ?_⟩
      rw [bus]
      exact within_resetEach new _
  · rw [bus]
    exact shown.cleared
  · rw [Record.closings_concat]
    simpa [Instant.closing?, Holding.empty] using shown.closings

/-- A lane's log is emptied. -/
theorem clearSent (ledger : Ledger returned live holdings (world, record))
    (small : own ≤ ConfigError.maxWorkers) {messenger : Messenger}
    (cleared : messenger = (world.bus.messenger.clearSent (laneOf own)).2)
    (bus : after.bus = { world.bus with messenger }) :
    Ledger (returned ++ []) live
      (Function.update holdings own { holdings own with cleared := true })
      (after, record ++ [{ operation := .clearSent (laneOf own), before := world, after }]) := by
  have logs (lane : LaneId) : messenger.sentMessages lane =
      if lane = laneOf own then [] else world.bus.messenger.sentMessages lane := by
    rw [cleared, Messenger.clearSent, Messenger.sentMessages, Std.HashMap.getD_erase]
    by_cases same : lane = laneOf own
    · subst same
      simp
    · simp [same, Ne.symm same, Messenger.sentMessages]
  have same : messenger.registry = world.bus.messenger.registry ∧
      messenger.nextId = world.bus.messenger.nextId ∧
      messenger.stats = world.bus.messenger.stats := by
    rw [cleared]
    exact ⟨rfl, rfl, rfl⟩
  have separate : Bus.Separate { world.bus with messenger } returned live :=
    ledger.separate.frame same.1 same.2.1 (congrArg Stats.registered same.2.2)
      (congrArg Stats.removed same.2.2) (Nat.le_refl _) ledger.separate.vacant
  have footprint : Footprint returned live [] live [] (laneScope own) (laneScope own) world.bus
      after.bus := by
    rw [bus]
    exact .of_same separate rfl [] (fun _ _ _ old => by simpa using old) fun lane other =>
      (logs lane).trans (if_neg other)
  refine ledger.move small footprint rfl ((holdings own).held_eq own)
    (fun _ _ => ⟨fun _ => rfl, rfl⟩) ((holdings own).held_eq own) ?_ ?_
  · have shown := ledger.shown own small
    constructor
    · intro handle member messages since
      rw [Record.inEvent_concat] at since
      rw [bus]
      exact shown.within handle member messages since
    · rw [bus]
      exact shown.emptied
    · intro _
      rw [bus]
      exact (logs (laneOf own)).trans (if_pos rfl)
    · rw [Record.closings_concat]
      simpa [Instant.closing?] using shown.closings
  · constructor
    · intro scope wanted same
      cases same
    · intro lane closes
      obtain rfl := Option.some.inj closes
      dsimp only
      rw [bus]
      exact ⟨same.1, fun _ _ _ => .refl _ _, fun lane other => (logs lane).trans (if_neg other)⟩

/-- A lane counts an event that it completed. -/
theorem countEvent (ledger : Ledger returned live holdings (world, record))
    (small : own ≤ ConfigError.maxWorkers)
    (emptied : ∀ handle ∈ (holdings own).held, handle ∈ (holdings own).emptied)
    (bus : after.bus = world.bus) :
    Ledger (returned ++ []) live
      (Function.update holdings own { holdings own with
        closings := (holdings own).closings ++ [after] })
      (after, record ++ [{ operation := .countEvent (laneOf own), before := world, after }]) := by
  have footprint : Footprint returned live [] live [] (laneScope own) (laneScope own) world.bus
      after.bus := by
    rw [bus]
    exact .idle ledger.separate rfl
  have foreign : ∀ other ≠ laneOf own,
      (∀ since, Instant.follow other since ⟨.countEvent (laneOf own), world, after⟩ = since) ∧
        Instant.closing? other ⟨.countEvent (laneOf own), world, after⟩ = none :=
    fun _ different => ⟨fun _ => if_neg different.symm, if_neg different.symm⟩
  refine ledger.move small footprint rfl ((holdings own).held_eq own) foreign
    ((holdings own).held_eq own) ?_ ?_
  · have shown := ledger.shown own small
    constructor
    · intro handle member messages _
      rw [bus]
      exact (shown.emptied handle (emptied handle member)).2.of_empty messages
    · rw [bus]
      exact shown.emptied
    · rw [bus]
      exact shown.cleared
    · rw [Record.closings_concat, shown.closings]
      simp [Instant.closing?]
  · constructor
    · intro scope wanted same
      cases same
    · intro lane closes
      dsimp only
      rw [bus]
      exact ⟨rfl, fun _ _ _ => .refl _ _, fun _ _ => rfl⟩

end Ledger

/-! ## Processes that keep accounts -/

/-- A process of a lane that keeps the accounts of all lanes. -/
abbrev Process.KeepsAccounts {α : Type} (process : Process α) (own : Nat)
    (good : α → Holding → Prop) (holding : Holding) : Prop :=
  Program.Ensures (S := LaneOperations) LaneOperation.performRecorded Accounts own good process
    holding

section KeepsAccounts

variable {own : Nat} {holding : Holding} {scope : Scope} {before rest : List Handle}

theorem keepsAccounts_request (small : own ≤ ConfigError.maxWorkers)
    (lane : scope.bindings.identity.lane = laneOf own)
    (held : holding.held = before ++ scope.bindings.handles ++ rest) {wanted : Request}
    (offered : wanted.Offered) : (Process.request wanted scope).KeepsAccounts own
      (fun answered later => (∃ world, (wanted.perform scope world).1 = answered) ∧
        answered.2.bindings.identity = scope.bindings.identity ∧
        later = { held := before ++ answered.2.bindings.handles ++ rest,
                  closings := holding.closings }) holding := by
  apply Program.ensures_ask (S := LaneOperations)
  rintro holdings ⟨world, record⟩ ⟨returned, live, ledger⟩ rfl
  obtain ⟨created, left, footprint⟩ : ∃ created left, Footprint returned live created left
      wanted.sent scope (wanted.perform scope world).1.2 world.bus
      (wanted.perform scope world).2.bus := wanted.footprint offered ledger.separate
  exact ⟨_, ⟨returned ++ created, left, ledger.request small lane held footprint rfl⟩,
    ⟨world, rfl⟩, footprint.identity, rfl⟩

end KeepsAccounts

end Beamline.Run
