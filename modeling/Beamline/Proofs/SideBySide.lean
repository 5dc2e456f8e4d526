import Beamline.Proofs.StoreAgreement

namespace Beamline.Bus

/-- A usage that all lanes share beside one that a lane has for itself. The lane's delegates are
twins, those registered on the one are registered on the other, and what the lane owns is alike. -/
structure Usage.Beside (owner : Ownership) (lane : LaneId) (shared alone : Usage)
    (returned live : List Handle) (twins listed : List (Handle × Handle)) : Prop where
  sound : shared.Sound returned live
  soundAlone : alone.Sound (twins.map Prod.snd) (listed.map Prod.snd)
  mine : returned.filter (fun handle => handle.lane = lane) = twins.map Prod.fst
  current : live.filter (fun handle => handle.lane = lane) = listed.map Prod.fst
  sublist : listed.Sublist twins
  alike : ∀ pair ∈ twins, pair.1.Twins pair.2
  owned : ∀ handle ∈ returned, handle.Owned owner
  /-- A label of the lane stands for twins, or for nothing on either bus. -/
  kept : ∀ label, owner.label label = lane →
    (shared.kept[label]? = none ∧ alone.kept[label]? = none) ∨
      ∃ pair ∈ twins, shared.kept[label]? = some pair.1 ∧ alone.kept[label]? = some pair.2
  /-- A label stands for a delegate of the lane that uses it. -/
  labels : ∀ (label : String) (handle : Handle),
    shared.kept[label]? = some handle → handle.lane = owner.label label
  agree : Store.Agree owner lane twins shared.bus.store alone.bus.store
  sent : alone.bus.messenger.sentMessages lane = shared.bus.messenger.sentMessages lane

namespace Usage.Beside

variable {owner : Ownership} {lane : LaneId} {shared alone later beyond : Usage}
  {returned live : List Handle} {twins listed : List (Handle × Handle)}

theorem fresh (owner : Ownership) (lane : LaneId) (store : Store) :
    Beside owner lane (Usage.fresh store) (Usage.fresh store) [] [] [] [] where
  sound := sound_fresh store
  soundAlone := sound_fresh store
  mine := rfl
  current := rfl
  sublist := .slnil
  alike := by simp
  owned := by simp
  kept label _ := by simp [Usage.fresh]
  labels label handle found := by simp [Usage.fresh] at found
  agree := .refl store
  sent := rfl

/-- The first of twins was returned on the shared bus, to the lane. -/
theorem mem_returned (beside : Beside owner lane shared alone returned live twins listed)
    {pair : Handle × Handle} (member : pair ∈ twins) :
    pair.1 ∈ returned ∧ pair.1.lane = lane := by
  have present : pair.1 ∈ returned.filter fun handle => handle.lane = lane := by
    rw [beside.mine]
    exact List.mem_map_of_mem member
  simpa using present

theorem owned_of_mem (beside : Beside owner lane shared alone returned live twins listed)
    {pair : Handle × Handle} (member : pair ∈ twins) : pair.1.Owned owner :=
  beside.owned pair.1 (beside.mem_returned member).1

theorem id_iff (beside : Beside owner lane shared alone returned live twins listed)
    {pair other : Handle × Handle} (member : pair ∈ twins) (present : other ∈ twins) :
    other.1.id = pair.1.id ↔ other.2.id = pair.2.id := by
  have first : (twins.map fun pair => pair.1.id).Nodup := by
    have ordered := beside.sound.ordered.filter fun handle => handle.lane = lane
    rw [beside.mine, Ordered, List.pairwise_map] at ordered
    exact List.pairwise_map.mpr (ordered.imp Nat.ne_of_lt)
  have second : (twins.map fun pair => pair.2.id).Nodup := by
    have ordered := beside.soundAlone.ordered
    rw [Ordered, List.pairwise_map] at ordered
    exact List.pairwise_map.mpr (ordered.imp Nat.ne_of_lt)
  constructor
  · intro same
    rw [List.inj_on_of_nodup_map first present member same]
  · intro same
    rw [List.inj_on_of_nodup_map second present member same]

theorem twin_eq (beside : Beside owner lane shared alone returned live twins listed)
    {pair other : Handle × Handle} (member : pair ∈ twins) (present : other ∈ twins) :
    other.1 = pair.1 ↔ other.2 = pair.2 := by
  have ids := beside.id_iff member present
  constructor
  · intro same
    exact beside.soundAlone.ordered.eq_of_id (List.mem_map_of_mem present)
      (List.mem_map_of_mem member) (ids.mp (congrArg Handle.id same))
  · intro same
    exact beside.sound.ordered.eq_of_id (beside.mem_returned present).1
      (beside.mem_returned member).1 (ids.mpr (congrArg Handle.id same))

theorem oneToOne (beside : Beside owner lane shared alone returned live twins listed) :
    OneToOne twins := by
  rintro number other one another ⟨pair, member, place, twinPlace⟩ ⟨twin, present, met, twinMet⟩
  have same := beside.twin_eq member present
  constructor
  · rintro rfl
    have identical := same.mp (beside.sound.eq_of_filter (beside.mem_returned present).1
      (beside.mem_returned member).1 met place)
    exact Place.filter.inj (twinPlace.symm.trans (identical ▸ twinMet))
  · rintro rfl
    have identical := same.mpr (beside.soundAlone.eq_of_filter (List.mem_map_of_mem present)
      (List.mem_map_of_mem member) twinMet twinPlace)
    exact Place.filter.inj (place.symm.trans (identical ▸ met))

/-- The filters of twins have a number each that was handed out already. -/
theorem linked_lt (beside : Beside owner lane shared alone returned live twins listed)
    (number other : Nat) (linked : Linked twins number other) :
    number < shared.bus.store.next ∧ other < alone.bus.store.next := by
  obtain ⟨pair, member, place, twinPlace⟩ := linked
  exact ⟨beside.sound.installed pair.1 (beside.mem_returned member).1 number place,
    beside.soundAlone.installed pair.2 (List.mem_map_of_mem member) other twinPlace⟩

/-- The filter of a delegate of another lane is no twin's. -/
theorem unlinked (beside : Beside owner lane shared alone returned live twins listed)
    {handle : Handle} (member : handle ∈ returned) (foreign : handle.lane ≠ lane)
    (number other : Nat) (place : handle.place = .filter number) :
    ¬Linked twins number other := by
  intro linked
  obtain ⟨pair, present, met, _⟩ := linked
  obtain ⟨issued, mine⟩ := beside.mem_returned present
  have same := beside.sound.eq_of_filter member issued place met
  exact foreign (same ▸ mine)

/-- What is selected among the lane's delegates on one bus has its twin selected on the other. -/
theorem select (beside : Beside owner lane shared alone returned live twins listed)
    (wanted : Handle → Prop) [DecidablePred wanted]
    (own : ∀ handle, wanted handle → handle.lane = lane)
    (same : ∀ pair ∈ twins, wanted pair.2 ↔ wanted pair.1) :
    ∃ pairs ⊆ listed, live.filter (fun handle => wanted handle) = pairs.map Prod.fst ∧
      (listed.map Prod.snd).filter (fun handle => wanted handle) = pairs.map Prod.snd := by
  refine ⟨listed.filter fun pair => wanted pair.1, List.filter_subset_self _, ?_, ?_⟩
  · have within : live.filter (fun handle => wanted handle) =
        (live.filter fun handle => handle.lane = lane).filter fun handle => wanted handle := by
      rw [List.filter_filter]
      refine List.filter_congr fun handle _ => ?_
      by_cases chosen : wanted handle
      · simp [chosen, own handle chosen]
      · simp [chosen]
    rw [within, beside.current, List.filter_map]
    rfl
  · rw [List.filter_map]
    congr 1
    exact List.filter_congr fun pair member =>
      decide_eq_decide.mpr (same pair (beside.sublist.subset member))

/-- A message from the lane has twins for candidates. -/
theorem candidates (beside : Beside owner lane shared alone returned live twins listed)
    {source : Identity} (mine : source.lane = lane) (message : Message) (name : String) :
    ∃ pairs ⊆ listed,
      shared.bus.messenger.candidates source message name = pairs.map Prod.fst ∧
        alone.bus.messenger.candidates source message name = pairs.map Prod.snd := by
  have agree (pair : Handle × Handle) (member : pair ∈ twins) :
      (pair.2.delegate.IsTyped ↔ pair.1.delegate.IsTyped) ∧
        (pair.2.delegate.Wants source message name ↔ pair.1.delegate.Wants source message name) :=
    ⟨(beside.alike pair member).isTyped_iff, (beside.alike pair member).wants_iff⟩
  obtain ⟨typed, within, first, second⟩ := beside.select
    (fun handle => handle.delegate.IsTyped ∧ handle.delegate.Wants source message name)
    (fun _ chosen => chosen.2.1.trans mine)
    fun pair member => by rw [(agree pair member).1, (agree pair member).2]
  obtain ⟨others, among, third, fourth⟩ := beside.select
    (fun handle => ¬handle.delegate.IsTyped ∧ handle.delegate.Wants source message name)
    (fun _ chosen => chosen.2.1.trans mine)
    fun pair member => by rw [(agree pair member).1, (agree pair member).2]
  refine ⟨typed ++ others, List.append_subset.mpr ⟨within, among⟩, ?_, ?_⟩
  · rw [List.map_append, ← first, ← third]
    exact beside.sound.lists.candidates_eq source message name
  · rw [List.map_append, ← second, ← fourth]
    exact beside.soundAlone.lists.candidates_eq source message name

theorem fills_eq (beside : Beside owner lane shared alone returned live twins listed) {slot : Slot}
    (mine : owner.slot slot = lane) :
    alone.bus.messenger.registry.fills slot = shared.bus.messenger.registry.fills slot := by
  rw [Bool.eq_iff_iff, beside.soundAlone.lists.fills_iff, beside.sound.lists.fills_iff]
  constructor
  · intro taken
    obtain ⟨handle, member, place⟩ := taken
    obtain ⟨pair, present, rfl⟩ := List.mem_map.mp member
    have twin := beside.alike pair (beside.sublist.subset present)
    have first : pair.1 ∈ live.filter fun handle => handle.lane = lane := by
      rw [beside.current]
      exact List.mem_map_of_mem present
    exact ⟨pair.1, (List.mem_filter.mp first).1, twin.place_eq_slot.mp place⟩
  · intro taken
    obtain ⟨handle, member, place⟩ := taken
    -- The slot's owner tells the lane of whoever fills it.
    have owned := beside.owned handle (beside.sound.registered.subset member)
    have own : handle.lane = lane := (owned.of_place place).symm.trans mine
    have first : handle ∈ listed.map Prod.fst := by
      rw [← beside.current]
      simp [member, own]
    obtain ⟨pair, present, rfl⟩ := List.mem_map.mp first
    have twin := beside.alike pair (beside.sublist.subset present)
    exact ⟨pair.2, List.mem_map_of_mem present, twin.place_eq_slot.mpr place⟩

theorem refusal_eq (beside : Beside owner lane shared alone returned live twins listed)
    {binding : Binding Filter} (belongs : binding.OwnedBy owner lane) (flags : Flags) :
    alone.bus.messenger.refusal binding flags = shared.bus.messenger.refusal binding flags := by
  unfold Messenger.refusal
  split
  · rfl
  · split
    · rename_i slot bound
      have mine : owner.slot slot = lane := by
        cases binding <;> simp_all [Binding.slot?, Binding.OwnedBy]
      rw [beside.fills_eq mine]
    · rfl

/-- Whatever leaves the delegates and the handles kept alone keeps the usages side by side, so long
as the stores and the logs agree. -/
theorem frame (beside : Beside owner lane shared alone returned live twins listed)
    (sound : later.Sound returned live)
    (soundAlone : beyond.Sound (twins.map Prod.snd) (listed.map Prod.snd))
    (kept : later.kept = shared.kept) (keptAlone : beyond.kept = alone.kept)
    (agree : Store.Agree owner lane twins later.bus.store beyond.bus.store)
    (sent : beyond.bus.messenger.sentMessages lane = later.bus.messenger.sentMessages lane) :
    Beside owner lane later beyond returned live twins listed :=
  { beside with
    sound, soundAlone, agree, sent
    kept := by
      rw [kept, keptAlone]
      exact beside.kept
    labels := by
      rw [kept]
      exact beside.labels }

/-- A new delegate on the shared bus that delivers to what its lane owns. -/
theorem owned_append (beside : Beside owner lane shared alone returned live twins listed)
    {handle : Handle} (owned : handle.Owned owner) :
    ∀ other ∈ returned ++ [handle], other.Owned owner := by
  intro other member
  rcases List.mem_append.mp member with old | new
  · exact beside.owned other old
  · exact List.mem_singleton.mp new ▸ owned

theorem labels_insert (beside : Beside owner lane shared alone returned live twins listed)
    {label : String} {handle : Handle} (labelled : owner.label label = handle.lane) :
    ∀ (called : String) (other : Handle),
      (shared.kept.insert label handle)[called]? = some other →
        other.lane = owner.label called := by
  intro called other found
  rw [Std.HashMap.getElem?_insert] at found
  split at found
  · rename_i here
    cases found
    exact beq_iff_eq.mp here ▸ labelled.symm
  · exact beside.labels called other found

/-- A registered delegate of the lane has a registered twin. -/
theorem mem_live_iff (beside : Beside owner lane shared alone returned live twins listed)
    {pair : Handle × Handle} (member : pair ∈ twins) :
    pair.1 ∈ live ↔ pair.2 ∈ listed.map Prod.snd := by
  have first : pair.1 ∈ live ↔ pair.1 ∈ listed.map Prod.fst := by
    rw [← beside.current, List.mem_filter]
    simp [(beside.mem_returned member).2]
  rw [first]
  constructor
  · intro present
    obtain ⟨other, listed, same⟩ := List.mem_map.mp present
    exact List.mem_map.mpr
      ⟨other, listed, (beside.twin_eq member (beside.sublist.subset listed)).mp same⟩
  · intro present
    obtain ⟨other, listed, same⟩ := List.mem_map.mp present
    exact List.mem_map.mpr
      ⟨other, listed, (beside.twin_eq member (beside.sublist.subset listed)).mpr same⟩

end Usage.Beside

end Beamline.Bus
