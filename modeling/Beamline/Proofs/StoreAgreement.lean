import Beamline.Proofs.Twins

namespace Beamline.Bus

/-- The filters of twins have these numbers. -/
def Linked (twins : List (Handle × Handle)) (number other : Nat) : Prop :=
  ∃ pair ∈ twins, pair.1.place = .filter number ∧ pair.2.place = .filter other

/-- Filters of different twins have different numbers in both stores. -/
def OneToOne (twins : List (Handle × Handle)) : Prop :=
  ∀ number other one another, Linked twins number other → Linked twins one another →
    (number = one ↔ other = another)

/-- Two filters got the same calls and gave the same answers. -/
def FilterState.Alike (first second : FilterState) : Prop :=
  second.delivered = first.delivered ∧ second.calls = first.calls

/-- Two stores hold the same of what a lane owns: in its slots, in its memories and of its filters,
which are told apart by their twins. -/
structure Store.Agree (owner : Ownership) (lane : LaneId) (twins : List (Handle × Handle))
    (first second : Store) : Prop where
  contents : ∀ slot, owner.slot slot = lane → second.contents slot = first.contents slot
  memory : ∀ number, owner.memory number = lane → second.memory number = first.memory number
  states : ∀ number other, Linked twins number other →
    (first.filterState number).Alike (second.filterState other)

theorem Store.memory_ask (store : Store) (number : Nat) (filter : Filter) (message : Message)
    (name : Option String) (shared : Nat) :
    (store.ask number filter message name).2.memory shared =
      if filter.memory = some shared then
        { message, name, accepted := (store.ask number filter message name).1 } ::
          store.memory shared
      else store.memory shared := by
  simp only [Store.ask, Store.remember, Store.memory]
  cases kept : filter.memory with
  | none => simp
  | some memory =>
    by_cases same : memory = shared
    · simp [same]
    · simp [same, Std.HashMap.getD_insert]

namespace Store.Agree

variable {owner : Ownership} {lane : LaneId} {twins : List (Handle × Handle)}
  {first second : Store}

theorem refl (store : Store) : Agree owner lane [] store store where
  contents _ _ := rfl
  memory _ _ := rfl
  states _ _ := by simp [Linked]

theorem isFilled (agree : Agree owner lane twins first second) {slot : Slot}
    (owned : owner.slot slot = lane) : second.isFilled slot = first.isFilled slot := by
  rw [Store.isFilled, Store.isFilled, agree.contents slot owned]

/-- A slot of the lane may change in both stores alike. -/
theorem setContents (agree : Agree owner lane twins first second) (slot : Slot)
    (messages : List Message) :
    Agree owner lane twins (first.setContents slot messages)
      (second.setContents slot messages) where
  contents other owned := by simp [agree.contents other owned]
  memory := agree.memory
  states := agree.states

/-- A slot of another lane does not matter. -/
theorem setContents_other (agree : Agree owner lane twins first second) {slot : Slot}
    (foreign : owner.slot slot ≠ lane) (messages : List Message) :
    Agree owner lane twins (first.setContents slot messages) second where
  contents other owned := by
    have different : slot ≠ other := by
      rintro rfl
      exact foreign owned
    simp [agree.contents other owned, different]
  memory := agree.memory
  states := agree.states

theorem resetFilter (agree : Agree owner lane twins first second) (apart : OneToOne twins)
    {number other : Nat} (linked : Linked twins number other) :
    Agree owner lane twins (first.resetFilter number) (second.resetFilter other) where
  contents := agree.contents
  memory := agree.memory
  states one another met := by
    have same := apart number other one another linked met
    have alike := agree.states one another met
    by_cases here : number = one
    · obtain rfl := same.mp here
      subst here
      simpa [FilterState.Alike] using alike.2
    · simpa [here, mt same.mpr here] using alike

theorem resetFilter_other (agree : Agree owner lane twins first second) {number : Nat}
    (foreign : ∀ other, ¬Linked twins number other) :
    Agree owner lane twins (first.resetFilter number) second where
  contents := agree.contents
  memory := agree.memory
  states one another met := by
    have different : number ≠ one := by
      rintro rfl
      exact foreign another met
    simpa [different] using agree.states one another met

/-- The filters of twins remember the same calls, whether in a shared memory or on their own. -/
theorem recalled (agree : Agree owner lane twins first second) {number other : Nat}
    (linked : Linked twins number other) {filter : Filter}
    (owned : ∀ memory ∈ filter.memory, owner.memory memory = lane) :
    second.recalled other filter = first.recalled number filter := by
  unfold Store.recalled
  cases shared : filter.memory with
  | none => exact (agree.states number other linked).2
  | some memory => exact agree.memory memory (owned memory shared)

theorem ask_fst (agree : Agree owner lane twins first second) {number other : Nat}
    (linked : Linked twins number other) {filter : Filter}
    (owned : ∀ memory ∈ filter.memory, owner.memory memory = lane) (message : Message)
    (name : Option String) :
    (second.ask other filter message name).1 = (first.ask number filter message name).1 := by
  simp only [Store.ask, agree.recalled linked owned]

theorem ask (agree : Agree owner lane twins first second) (apart : OneToOne twins)
    {number other : Nat} (linked : Linked twins number other) {filter : Filter}
    (owned : ∀ memory ∈ filter.memory, owner.memory memory = lane) (message : Message)
    (name : Option String) : Agree owner lane twins (first.ask number filter message name).2
      (second.ask other filter message name).2 where
  contents slot mine := by simpa using agree.contents slot mine
  memory shared mine := by
    rw [Store.memory_ask, Store.memory_ask, agree.ask_fst linked owned, agree.memory shared mine]
  states one another met := by
    have same := apart number other one another linked met
    have alike := agree.states one another met
    by_cases here : number = one
    · obtain rfl := same.mp here
      subst here
      obtain ⟨delivered, calls⟩ := first.called_ask number filter message name
      obtain ⟨deliveredToo, callsToo⟩ := second.called_ask other filter message name
      rw [agree.ask_fst linked owned] at deliveredToo callsToo
      exact ⟨by rw [delivered, deliveredToo, alike.1], by rw [calls, callsToo, alike.2]⟩
    · rw [Store.filterState_ask _ _ _ _ _ _ here,
        Store.filterState_ask _ _ _ _ _ _ (mt same.mpr here)]
      exact alike

theorem ask_other (agree : Agree owner lane twins first second) {number : Nat}
    (foreign : ∀ other, ¬Linked twins number other) {filter : Filter}
    (elsewhere : ∀ memory ∈ filter.memory, owner.memory memory ≠ lane) (message : Message)
    (name : Option String) :
    Agree owner lane twins (first.ask number filter message name).2 second where
  contents slot mine := by simpa using agree.contents slot mine
  memory shared mine := by
    have different : filter.memory ≠ some shared := fun kept => elsewhere shared kept mine
    rw [Store.memory_ask, agree.memory shared mine]
    simp [different]
  states one another met := by
    have different : number ≠ one := by
      rintro rfl
      exact foreign another met
    rw [Store.filterState_ask _ _ _ _ _ _ different]
    exact agree.states one another met

end Store.Agree

/-! ## Deliveries side by side -/

variable {owner : Ownership} {lane : LaneId} {twins : List (Handle × Handle)}
  {first second : Store} {message : Message}

namespace Store.Agree

/-- A message for a slot of the lane is kept in both stores or refused in both. -/
theorem put (agree : Agree owner lane twins first second) {slot : Slot}
    (mine : owner.slot slot = lane) (message : Message) (overwrite : Bool) :
    (first.put slot message overwrite = none ∧ second.put slot message overwrite = none) ∨
      ∃ store other, first.put slot message overwrite = some store ∧
        second.put slot message overwrite = some other ∧ Agree owner lane twins store other := by
  simp only [Store.put, agree.isFilled mine, agree.contents slot mine]
  cases slot.kind with
  | single =>
    cases first.isFilled slot && !overwrite with
    | true => exact .inl ⟨rfl, rfl⟩
    | false => exact .inr ⟨_, _, rfl, rfl, agree.setContents slot [message]⟩
  | multi => exact .inr ⟨_, _, rfl, rfl, agree.setContents slot _⟩

private theorem put_other (agree : Agree owner lane twins first second) {slot : Slot}
    (foreign : owner.slot slot ≠ lane) {overwrite : Bool} {store : Store}
    (stored : first.put slot message overwrite = some store) :
    Agree owner lane twins store second := by
  unfold Store.put at stored
  split at stored
  · split at stored
    · simp at stored
    · cases stored
      exact agree.setContents_other foreign [message]
  · cases stored
    exact agree.setContents_other foreign _

/-- Twins of the lane handle a message alike. -/
theorem process (agree : Agree owner lane twins first second) (apart : OneToOne twins)
    (name : String) {pair : Handle × Handle} (member : pair ∈ twins) (twin : pair.1.Twins pair.2)
    (owned : pair.1.Owned owner) (mine : pair.1.lane = lane)
    (typed : ∀ payload ∈ pair.1.delegate.binding.payload, payload = message.type) :
    ResultAlike twins (pair.1.process first message name).1
        (pair.2.process second message name).1 ∧
      Agree owner lane twins (pair.1.process first message name).2
        (pair.2.process second message name).2 := by
  cases bound : pair.1.delegate.binding with
  | slot slot =>
    have suits : slot.payload = message.type := typed slot.payload (congrArg Binding.payload bound)
    simp only [Handle.process, bound, twin.slot bound, suits, ne_eq, not_true, ↓reduceIte,
      twin.flags]
    rcases agree.put ((owned.slot bound).trans mine) message pair.1.delegate.flags.allowOverwrite
      with ⟨one, another⟩ | ⟨store, other, one, another, after⟩
    · rw [one, another]
      exact ⟨.error (Handle.Twins.refused member twin name), agree⟩
    · rw [one, another]
      exact ⟨.ok true, after⟩
  | filter payload installed =>
    obtain ⟨number, other⟩ := twin.filter bound
    have suits : payload = message.type := typed payload (congrArg Binding.payload bound)
    have linked : Linked twins installed.number number :=
      ⟨pair, member, congrArg Binding.place bound, congrArg Binding.place other⟩
    have belongs := owned.memory (congrArg Binding.installed? bound)
    rw [mine] at belongs
    simp only [Handle.process, bound, other, suits, ne_eq, not_true, ↓reduceIte,
      agree.ask_fst linked belongs]
    exact ⟨.ok _, agree.ask apart linked belongs message none⟩
  | anyFilter installed =>
    obtain ⟨number, other⟩ := twin.anyFilter bound
    have linked : Linked twins installed.number number :=
      ⟨pair, member, congrArg Binding.place bound, congrArg Binding.place other⟩
    have belongs := owned.memory (congrArg Binding.installed? bound)
    rw [mine] at belongs
    simp only [Handle.process, bound, other, agree.ask_fst linked belongs]
    exact ⟨.ok _, agree.ask apart linked belongs message (some name)⟩

theorem process_other (agree : Agree owner lane twins first second) (message : Message)
    (name : String) {handle : Handle} (owned : handle.Owned owner) (foreign : handle.lane ≠ lane)
    (unlinked : ∀ number other, handle.place = .filter number → ¬Linked twins number other) :
    Agree owner lane twins (handle.process first message name).2 second := by
  have elsewhere {installed : Installed}
      (bound : handle.delegate.binding.installed? = some installed) :
      ∀ memory ∈ installed.filter.memory, owner.memory memory ≠ lane :=
    fun memory shared => owned.memory bound memory shared ▸ foreign
  unfold Handle.process
  cases bound : handle.delegate.binding with
  | slot slot =>
    dsimp only
    split
    · exact agree
    · split
      · exact agree
      · rename_i stored
        exact agree.put_other (owned.slot bound ▸ foreign) stored
  | filter payload installed =>
    dsimp only
    split
    · exact agree
    · exact agree.ask_other (fun other => unlinked _ other (congrArg Binding.place bound))
        (elsewhere (congrArg Binding.installed? bound)) message none
  | anyFilter installed =>
    exact agree.ask_other (fun other => unlinked _ other (congrArg Binding.place bound))
      (elsewhere (congrArg Binding.installed? bound)) message (some name)

/-- Twins in turn handle a message alike, up to the first error. -/
theorem deliver (agree : Agree owner lane twins first second) (apart : OneToOne twins)
    (name : String) {pairs : List (Handle × Handle)} (members : pairs ⊆ twins)
    (twin : ∀ pair ∈ pairs, pair.1.Twins pair.2) (owned : ∀ pair ∈ pairs, pair.1.Owned owner)
    (mine : ∀ pair ∈ pairs, pair.1.lane = lane)
    (typed : ∀ pair ∈ pairs, ∀ payload ∈ pair.1.delegate.binding.payload,
      payload = message.type) :
    ResultAlike twins (deliver first message name (pairs.map Prod.fst)).1
        (deliver second message name (pairs.map Prod.snd)).1 ∧
      Agree owner lane twins (Bus.deliver first message name (pairs.map Prod.fst)).2
        (Bus.deliver second message name (pairs.map Prod.snd)).2 := by
  induction pairs generalizing first second with
  | nil => exact ⟨.ok 0, agree⟩
  | cons pair rest ih =>
    rw [List.forall_mem_cons] at twin owned mine typed
    obtain ⟨here, remaining⟩ := List.cons_subset.mp members
    obtain ⟨alike, middle⟩ := agree.process apart name here twin.1 owned.1 mine.1 typed.1
    rw [List.map_cons, List.map_cons, Bus.deliver, Bus.deliver]
    generalize pair.1.process first message name = one at alike middle ⊢
    generalize pair.2.process second message name = other at alike middle ⊢
    obtain ⟨one, store⟩ := one
    obtain ⟨other, twinStore⟩ := other
    cases alike with
    | error alike => exact ⟨.error alike, middle⟩
    | ok accepted =>
      obtain ⟨others, after⟩ := ih middle remaining twin.2 owned.2 mine.2 typed.2
      dsimp only at others after ⊢
      generalize Bus.deliver store message name (rest.map Prod.fst) = one at others after ⊢
      generalize Bus.deliver twinStore message name (rest.map Prod.snd) = other at others after ⊢
      obtain ⟨one, store⟩ := one
      obtain ⟨other, twinStore⟩ := other
      cases others with
      | error alike => exact ⟨.error alike, after⟩
      | ok count => exact ⟨.ok _, after⟩

theorem deliver_other (agree : Agree owner lane twins first second) (message : Message)
    (name : String) {handles : List Handle} (owned : ∀ handle ∈ handles, handle.Owned owner)
    (foreign : ∀ handle ∈ handles, handle.lane ≠ lane)
    (unlinked : ∀ handle ∈ handles, ∀ number other, handle.place = .filter number →
      ¬Linked twins number other) :
    Agree owner lane twins (Bus.deliver first message name handles).2 second := by
  induction handles generalizing first with
  | nil => exact agree
  | cons handle rest ih =>
    rw [List.forall_mem_cons] at owned foreign unlinked
    have middle := agree.process_other message name owned.1 foreign.1
      unlinked.1
    rw [Bus.deliver]
    generalize handle.process first message name = result at middle ⊢
    obtain ⟨error | accepted, store⟩ := result
    · exact middle
    · have after := ih middle owned.2 foreign.2 unlinked.2
      dsimp only at after ⊢
      generalize Bus.deliver store message name rest = result at after ⊢
      obtain ⟨error | count, store⟩ := result <;> exact after

/-- Emptying what twins of the lane got. -/
theorem reset (agree : Agree owner lane twins first second) (apart : OneToOne twins)
    {pair : Handle × Handle} (member : pair ∈ twins) (twin : pair.1.Twins pair.2) :
    Agree owner lane twins (pair.1.delegate.reset first) (pair.2.delegate.reset second) := by
  unfold Delegate.reset
  cases bound : pair.1.delegate.binding with
  | slot slot =>
    rw [twin.slot bound]
    exact agree.setContents slot []
  | filter payload installed =>
    obtain ⟨number, other⟩ := twin.filter bound
    rw [other]
    exact agree.resetFilter apart ⟨pair, member, congrArg Binding.place bound,
      congrArg Binding.place other⟩
  | anyFilter installed =>
    obtain ⟨number, other⟩ := twin.anyFilter bound
    rw [other]
    exact agree.resetFilter apart ⟨pair, member, congrArg Binding.place bound,
      congrArg Binding.place other⟩

theorem reset_other (agree : Agree owner lane twins first second) {handle : Handle}
    (owned : handle.Owned owner) (foreign : handle.lane ≠ lane)
    (unlinked : ∀ number other, handle.place = .filter number → ¬Linked twins number other) :
    Agree owner lane twins (handle.delegate.reset first) second := by
  unfold Delegate.reset
  cases bound : handle.delegate.binding with
  | slot slot =>
    exact agree.setContents_other (owned.slot bound ▸ foreign) []
  | filter payload installed =>
    exact agree.resetFilter_other fun other =>
      unlinked _ other (congrArg Binding.place bound)
  | anyFilter installed =>
    exact agree.resetFilter_other fun other =>
      unlinked _ other (congrArg Binding.place bound)

/-- Twins of the lane are satisfied together. -/
theorem isSatisfied (agree : Agree owner lane twins first second) {pair : Handle × Handle}
    (member : pair ∈ twins) (twin : pair.1.Twins pair.2) (owned : pair.1.Owned owner)
    (mine : pair.1.lane = lane) : pair.2.isSatisfied second = pair.1.isSatisfied first := by
  unfold Handle.isSatisfied Delegate.isSatisfied
  cases bound : pair.1.delegate.binding with
  | slot slot =>
    rw [twin.slot bound]
    exact agree.isFilled ((owned.slot bound).trans mine)
  | filter payload installed =>
    obtain ⟨number, other⟩ := twin.filter bound
    rw [other]
    exact (agree.states _ _ ⟨pair, member, congrArg Binding.place bound,
      congrArg Binding.place other⟩).1
  | anyFilter installed =>
    obtain ⟨number, other⟩ := twin.anyFilter bound
    rw [other]
    exact (agree.states _ _ ⟨pair, member, congrArg Binding.place bound,
      congrArg Binding.place other⟩).1

end Store.Agree

/-! ## Installed side by side -/

theorem Linked.append_iff {pair : Handle × Handle} {number other : Nat} :
    Linked (twins ++ [pair]) number other ↔ Linked twins number other ∨
      pair.1.place = .filter number ∧ pair.2.place = .filter other := by
  simp only [Linked, List.mem_append, List.mem_singleton]
  constructor
  · intro linked
    rcases linked with ⟨twin, member | rfl, places⟩
    · exact .inl ⟨twin, member, places⟩
    · exact .inr places
  · intro either
    rcases either with ⟨twin, member, places⟩ | places
    · exact ⟨twin, .inl member, places⟩
    · exact ⟨pair, .inr rfl, places⟩

namespace Store.Agree

theorem newFilter (agree : Agree owner lane twins first second)
    (earlier : ∀ number other, Linked twins number other →
      number < first.next ∧ other < second.next) (filter : Filter) {pair : Handle × Handle}
    (place : pair.1.place = .filter first.next) (twinPlace : pair.2.place = .filter second.next) :
    Agree owner lane (twins ++ [pair]) (first.newFilter filter).2 (second.newFilter filter).2 where
  contents := agree.contents
  memory := agree.memory
  states number other linked := by
    rw [Store.filterState_newFilter, Store.filterState_newFilter]
    rcases Linked.append_iff.mp linked with old | ⟨here, there⟩
    · have below := earlier number other old
      simpa [Nat.ne_of_gt below.1, Nat.ne_of_gt below.2] using agree.states number other old
    · obtain rfl : first.next = number := Place.filter.inj (place.symm.trans here)
      obtain rfl : second.next = other := Place.filter.inj (twinPlace.symm.trans there)
      simp [FilterState.Alike]

theorem newFilter_other (agree : Agree owner lane twins first second)
    (earlier : ∀ number other, Linked twins number other → number < first.next)
    (filter : Filter) : Agree owner lane twins (first.newFilter filter).2 second where
  contents := agree.contents
  memory := agree.memory
  states number other linked := by
    rw [Store.filterState_newFilter]
    simpa [Nat.ne_of_gt (earlier number other linked)] using agree.states number other linked

/-- A delegate of the lane gets its place in both stores, and the new delegates are twins. -/
theorem install (agree : Agree owner lane twins first second)
    (earlier : ∀ number other, Linked twins number other →
      number < first.next ∧ other < second.next) {binding : Binding Filter}
    {pair : Handle × Handle} (bound : pair.1.delegate.binding = (install first binding).1)
    (twinBound : pair.2.delegate.binding = (Bus.install second binding).1) :
    Agree owner lane (twins ++ [pair]) (Bus.install first binding).2
      (Bus.install second binding).2 := by
  have place := congrArg Binding.place bound
  have twinPlace := congrArg Binding.place twinBound
  cases binding with
  | slot slot =>
    refine ⟨agree.contents, agree.memory, fun number other linked => ?_⟩
    rcases Linked.append_iff.mp linked with old | ⟨here, _⟩
    · exact agree.states number other old
    · cases place.symm.trans here
  | filter payload filter => exact agree.newFilter earlier filter place twinPlace
  | anyFilter filter => exact agree.newFilter earlier filter place twinPlace

theorem install_other (agree : Agree owner lane twins first second)
    (earlier : ∀ number other, Linked twins number other → number < first.next)
    (binding : Binding Filter) :
    Agree owner lane twins (Bus.install first binding).2 second := by
  cases binding with
  | slot slot => exact agree
  | filter payload filter => exact agree.newFilter_other earlier filter
  | anyFilter filter => exact agree.newFilter_other earlier filter

end Store.Agree

@[simp]
theorem install_map (store : Store) (binding : Binding Filter) :
    (install store binding).1.map Installed.filter = binding := by
  cases binding <;> rfl

end Beamline.Bus
