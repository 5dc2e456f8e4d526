import Beamline.Proofs.HistoryInvariant

/-!
The two maps of a registry describe the same delegates, whatever was done with the messenger; so its
check passes, its count is right and removal fails only for what is not registered.
-/

namespace Beamline.Bus

/-- The index places a number in a bucket just if the bucket has it, so a number is in no more than
one bucket, and no empty bucket or map is kept. -/
structure Registry.Bijective (registry : Registry) : Prop where
  placed : ∀ id type name,
    registry.index[id]? = some (type, name) ↔ id ∈ registry.bucket type name
  typesFilled : ∀ (type : TypeKey) (names : NameMap),
    registry.forward[type]? = some names → names.isEmpty = false
  bucketsFilled : ∀ (type : TypeKey) (names : NameMap) (name : NameKey) (bucket : Bucket),
    registry.forward[type]? = some names → names[name]? = some bucket → bucket.isEmpty = false

/-- What a walk through the buckets can see of a registry: nothing empty is kept, and each delegate
is indexed at the bucket where it is. -/
structure Registry.Tidy (registry : Registry) : Prop where
  indexed : ∀ id type name, id ∈ registry.bucket type name →
    registry.index[id]? = some (type, name)
  typesFilled : ∀ (type : TypeKey) (names : NameMap),
    registry.forward[type]? = some names → names.isEmpty = false
  bucketsFilled : ∀ (type : TypeKey) (names : NameMap) (name : NameKey) (bucket : Bucket),
    registry.forward[type]? = some names → names[name]? = some bucket → bucket.isEmpty = false

namespace Registry

variable {registry : Registry}

theorem mem_bucket {type : TypeKey} {name : NameKey} {id : Nat} :
    id ∈ registry.bucket type name ↔ ∃ (names : NameMap) (bucket : Bucket),
      registry.forward[type]? = some names ∧ names[name]? = some bucket ∧ id ∈ bucket := by
  simp only [Std.TreeMap.mem_iff_isSome_getElem?, Option.isSome_iff_exists, bucket_getElem?,
    Option.bind_eq_some_iff]
  constructor
  · rintro ⟨delegate, names, typed, bucket, named, found⟩
    exact ⟨names, bucket, typed, named, delegate, found⟩
  · rintro ⟨names, bucket, typed, named, delegate, found⟩
    exact ⟨delegate, names, typed, bucket, named, found⟩

theorem exists_mem_bucket {id : Nat} : (∃ type name, id ∈ registry.bucket type name) ↔
    id ∈ registry.handles.map Handle.id := by
  simp only [List.mem_map, mem_handles, Std.TreeMap.mem_iff_isSome_getElem?,
    Option.isSome_iff_exists]
  constructor
  · rintro ⟨type, name, delegate, found⟩
    exact ⟨{ id, delegate }, ⟨type, name, found⟩, rfl⟩
  · rintro ⟨handle, ⟨type, name, found⟩, rfl⟩
    exact ⟨type, name, handle.delegate, found⟩

private theorem bucketFault_eq_none_iff {type : TypeKey} {name : NameKey} {bucket : Bucket} :
    registry.bucketFault type name bucket = none ↔
      bucket.isEmpty = false ∧ ∀ id ∈ bucket, registry.index[id]? = some (type, name) := by
  unfold bucketFault
  split
  · simp_all
  · rename_i filled
    simp only [Bool.eq_false_iff.mpr filled, List.findSome?_eq_none_iff, Bucket.mem_handles,
      misplaced, ite_eq_left_iff, reduceCtorEq, imp_false, not_not, true_and]
    constructor
    · intro faultless id present
      exact faultless { id, delegate := bucket[id] } (Std.TreeMap.getElem?_eq_some_getElem present)
    · intro indexed handle found
      exact indexed handle.id (Std.TreeMap.mem_iff_isSome_getElem?.mpr (by simp [found]))

private theorem typeFault_eq_none_iff {type : TypeKey} {names : NameMap} :
    registry.typeFault type names = none ↔ names.isEmpty = false ∧
      ∀ (name : NameKey) (bucket : Bucket), names[name]? = some bucket →
        registry.bucketFault type name bucket = none := by
  unfold typeFault
  split
  · simp_all
  · rename_i filled
    simp [Bool.eq_false_iff.mpr filled, Std.HashMap.mem_toList_iff_getElem?_eq_some]

theorem tidy_iff : registry.Tidy ↔ ∀ (type : TypeKey) (names : NameMap),
    registry.forward[type]? = some names → registry.typeFault type names = none := by
  simp only [typeFault_eq_none_iff, bucketFault_eq_none_iff]
  constructor
  · intro tidy type names typed
    refine ⟨tidy.typesFilled type names typed, fun name bucket named =>
      ⟨tidy.bucketsFilled type names name bucket typed named, fun id present => ?_⟩⟩
    exact tidy.indexed id type name (mem_bucket.mpr ⟨names, bucket, typed, named, present⟩)
  · intro faultless
    refine ⟨fun id type name present => ?_, fun type names typed => (faultless type names typed).1,
      fun type names name bucket typed named =>
        ((faultless type names typed).2 name bucket named).1⟩
    obtain ⟨names, bucket, typed, named, present⟩ := mem_bucket.mp present
    exact ((faultless type names typed).2 name bucket named).2 id present

/-- The check finds nothing just if its walk sees nothing and its two counts agree. -/
theorem inconsistency_eq_none_iff : registry.inconsistency = none ↔
    registry.Tidy ∧ registry.handles.length = registry.index.size := by
  rw [tidy_iff]
  unfold inconsistency
  split
  · rename_i fault found
    obtain ⟨⟨type, names⟩, member, faulty⟩ := List.exists_of_findSome?_eq_some found
    simp only [reduceCtorEq, false_iff, not_and]
    intro faultless
    cases (faultless type names
      (Std.HashMap.mem_toList_iff_getElem?_eq_some.mp member)).symm.trans faulty
  · rename_i clean
    simp only [List.findSome?_eq_none_iff, Prod.forall,
      Std.HashMap.mem_toList_iff_getElem?_eq_some] at clean
    rw [and_iff_right clean]
    simp

namespace Tidy

theorem index_of_found (tidy : registry.Tidy) {type : TypeKey} {names : NameMap}
    {name : NameKey} {bucket : Bucket} {handle : Handle}
    (typed : registry.forward[type]? = some names) (named : names[name]? = some bucket)
    (found : bucket[handle.id]? = some handle.delegate) :
    registry.index[handle.id]? = some (type, name) := by
  refine tidy.indexed _ _ _ (mem_bucket.mpr ⟨names, bucket, typed, named, ?_⟩)
  rw [Std.TreeMap.mem_iff_isSome_getElem?, found]
  rfl

private theorem names_ids_nodup (tidy : registry.Tidy) {type : TypeKey}
    {names : NameMap} (typed : registry.forward[type]? = some names) :
    (names.handles.map Handle.id).Nodup := by
  rw [NameMap.handles, List.map_flatMap, List.nodup_flatMap]
  constructor
  · intro entry _
    have ordered := Bucket.ordered entry.2
    exact (List.pairwise_map.mpr ordered).imp Nat.ne_of_lt
  · refine (Std.HashMap.distinct_keys_toList (m := names)).imp_of_mem ?_
    intro one other present member different id first second
    obtain ⟨handle, found, same⟩ := List.mem_map.mp first
    obtain ⟨twin, met, equal⟩ := List.mem_map.mp second
    have here := tidy.index_of_found typed
      (Std.HashMap.mem_toList_iff_getElem?_eq_some.mp present) (Bucket.mem_handles.mp found)
    have there := tidy.index_of_found typed
      (Std.HashMap.mem_toList_iff_getElem?_eq_some.mp member) (Bucket.mem_handles.mp met)
    rw [equal, ← same, here] at there
    simp_all

/-- No number occurs twice in all buckets together. -/
theorem ids_nodup (tidy : registry.Tidy) : (registry.handles.map Handle.id).Nodup := by
  rw [Registry.handles, List.map_flatMap, List.nodup_flatMap]
  constructor
  · intro entry member
    exact tidy.names_ids_nodup (Std.HashMap.mem_toList_iff_getElem?_eq_some.mp member)
  · refine (Std.HashMap.distinct_keys_toList (m := registry.forward)).imp_of_mem ?_
    intro one other present member different id first second
    obtain ⟨handle, found, same⟩ := List.mem_map.mp first
    obtain ⟨twin, met, equal⟩ := List.mem_map.mp second
    obtain ⟨name, bucket, named, found⟩ := NameMap.mem_handles.mp found
    obtain ⟨called, further, titled, met⟩ := NameMap.mem_handles.mp met
    have here := tidy.index_of_found
      (Std.HashMap.mem_toList_iff_getElem?_eq_some.mp present) named found
    have there := tidy.index_of_found
      (Std.HashMap.mem_toList_iff_getElem?_eq_some.mp member) titled met
    rw [equal, ← same, here] at there
    simp_all

end Tidy

end Registry

namespace Registry.Bijective

variable {registry : Registry}

theorem tidy (bijective : registry.Bijective) : registry.Tidy where
  indexed id type name := (bijective.placed id type name).mpr
  typesFilled := bijective.typesFilled
  bucketsFilled := bijective.bucketsFilled

theorem ids_nodup (bijective : registry.Bijective) : (registry.handles.map Handle.id).Nodup :=
  bijective.tidy.ids_nodup

theorem length_handles (bijective : registry.Bijective) :
    registry.handles.length = registry.index.size := by
  rw [← Std.HashMap.length_keys, ← List.length_map (f := Handle.id)]
  refine List.Perm.length_eq ((List.perm_ext_iff_of_nodup bijective.ids_nodup
    Std.HashMap.nodup_keys).mpr fun id => ?_)
  rw [← exists_mem_bucket, Std.HashMap.mem_keys, Std.HashMap.mem_iff_isSome_getElem?,
    Option.isSome_iff_exists]
  simp only [← bijective.placed, Prod.exists]

theorem inconsistency_eq_none (bijective : registry.Bijective) : registry.inconsistency = none :=
  Registry.inconsistency_eq_none_iff.mpr ⟨bijective.tidy, bijective.length_handles⟩

end Registry.Bijective

namespace Registry.Lists

variable {registry : Registry} {live : List Handle}

theorem mem_bucket_iff (lists : Lists registry live) {id : Nat} {type : TypeKey}
    {name : NameKey} : id ∈ registry.bucket type name ↔
      ∃ delegate, { id, delegate } ∈ live ∧ delegate.typeKey = type ∧ delegate.nameKey = name := by
  simp only [Std.TreeMap.mem_iff_isSome_getElem?, Option.isSome_iff_exists, lists.bucket]

theorem bijective (lists : Lists registry live) : registry.Bijective where
  placed id type name := by rw [lists.index, lists.mem_bucket_iff]
  typesFilled := lists.typesFilled
  bucketsFilled := lists.bucketsFilled

theorem handles_perm (lists : Lists registry live) : registry.handles.Perm live :=
  (List.perm_ext_iff_of_nodup lists.bijective.ids_nodup.of_map lists.ordered.nodup).mpr
    fun _ => lists.mem_handles

theorem size_index (lists : Lists registry live) : registry.index.size = live.length := by
  rw [← lists.bijective.length_handles, lists.handles_perm.length_eq]

theorem isEmpty_iff (lists : Lists registry live) :
    live = [] ↔ registry.forward.isEmpty = true ∧ registry.index.isEmpty = true := by
  constructor
  · rintro rfl
    constructor
    · rw [Std.HashMap.isEmpty_iff_forall_not_mem]
      intro type present
      obtain ⟨names, typed⟩ := Option.isSome_iff_exists.mp
        (Std.HashMap.mem_iff_isSome_getElem?.mp present)
      obtain ⟨name, called⟩ := Std.HashMap.isEmpty_eq_false_iff_exists_mem.mp
        (lists.typesFilled type names typed)
      obtain ⟨bucket, named⟩ := Option.isSome_iff_exists.mp
        (Std.HashMap.mem_iff_isSome_getElem?.mp called)
      obtain ⟨id, listed⟩ := Std.TreeMap.isEmpty_eq_false_iff_exists_mem.mp
        (lists.bucketsFilled type names name bucket typed named)
      obtain ⟨delegate, found⟩ := Option.isSome_iff_exists.mp
        (Std.TreeMap.mem_iff_isSome_getElem?.mp listed)
      have member := (lists.bucket type name id delegate).mp (by
        rw [bucket_getElem?, typed, Option.bind_some, named, Option.bind_some, found])
      cases member.1
    · simpa [Std.HashMap.isEmpty_eq_size_eq_zero] using lists.size_index
  · intro bare
    obtain ⟨_, empty⟩ := bare
    have size := lists.size_index
    rw [Std.HashMap.isEmpty_eq_size_eq_zero, beq_iff_eq] at empty
    exact List.length_eq_zero_iff.mp (by omega)

end Registry.Lists

theorem Registry.erase_congr {registry : Registry} {handle twin : Handle}
    (same : twin.id = handle.id) (success : (registry.erase twin).1 = none) :
    registry.erase handle = registry.erase twin := by
  unfold Registry.erase at success ⊢
  rw [same] at success ⊢
  cases placed : registry.index[handle.id]? with
  | none => simp [placed] at success
  | some keys =>
    obtain ⟨type, name⟩ := keys
    simp only [placed] at success ⊢
    cases typed : registry.forward[type]? with
    | none => simp [typed] at success
    | some names =>
      simp only [typed] at success ⊢
      split at success
      · rename_i present
        simp [present]
      · cases success

namespace Usage.Sound

variable {usage : Usage} {returned live : List Handle}

theorem remove_of_missing (sound : usage.Sound returned live) {handle : Handle}
    (missing : ∀ listed ∈ live, listed.id ≠ handle.id) : usage.bus.remove handle =
      (.error (.consistency (.notRegistered handle.uniqueName)), usage.bus) := by
  simp only [Bus.remove, Messenger.remove, sound.lists.erase_of_missing missing]

/-- Removal with the number of a registered delegate removes that delegate. -/
theorem remove_of_id (sound : usage.Sound returned live) {handle listed : Handle}
    (member : listed ∈ live) (same : listed.id = handle.id) :
    usage.bus.remove handle = usage.bus.remove listed ∧
      ∃ registry, registry.Lists (live.filter fun other => other.id != handle.id) ∧
        usage.bus.remove handle = (.ok (), { usage.bus with
          messenger := { usage.bus.messenger with
            registry
            stats := { usage.bus.messenger.stats with
              removed := usage.bus.messenger.stats.removed + 1 } } }) := by
  obtain ⟨success, lists⟩ := sound.lists.erase member same
  obtain ⟨alike, _⟩ := sound.lists.erase member rfl
  have congruent := Registry.erase_congr same alike
  rcases erased : usage.bus.messenger.registry.erase handle with ⟨fault, registry⟩
  rw [erased] at success lists congruent
  subst success
  refine ⟨?_, registry, lists, ?_⟩
  · simp only [Bus.remove, Messenger.remove, erased, ← congruent]
  · simp only [Bus.remove, Messenger.remove, erased]

/-- Among the delegates ever returned, removal succeeds for those that are registered. -/
theorem remove_eq_ok_iff (sound : usage.Sound returned live) {handle : Handle}
    (issued : handle ∈ returned) : (usage.bus.remove handle).1 = .ok () ↔ handle ∈ live := by
  by_cases member : ∃ listed ∈ live, listed.id = handle.id
  · obtain ⟨listed, member, same⟩ := member
    have identical := sound.ordered.eq_of_id (sound.registered.subset member) issued same
    subst identical
    obtain ⟨_, registry, _, removed⟩ := sound.remove_of_id member rfl
    simp [removed, member]
  · have missing : ∀ listed ∈ live, listed.id ≠ handle.id :=
      fun listed present same => member ⟨listed, present, same⟩
    have absent : handle ∉ live := fun present => missing handle present rfl
    simp [sound.remove_of_missing missing, absent]

/-- Removal of a delegate that is no longer registered is an error of one kind and changes
nothing. -/
theorem remove_of_not_registered (sound : usage.Sound returned live) {handle : Handle}
    (issued : handle ∈ returned) (absent : handle ∉ live) : usage.bus.remove handle =
      (.error (.consistency (.notRegistered handle.uniqueName)), usage.bus) := by
  refine sound.remove_of_missing fun listed present same => ?_
  have identical := sound.ordered.eq_of_id (sound.registered.subset present) issued same
  exact absent (identical ▸ present)

/-- A messenger is dropped in peace just if no delegate is registered. Otherwise each registered one is
named, in some order. -/
theorem exists_dropFault_eq (sound : usage.Sound returned live) :
    ∃ names, names.Perm (live.map Handle.uniqueName) ∧ usage.bus.messenger.dropFault =
      if live.isEmpty then none else some (.droppedRegistered names) := by
  refine ⟨_, sound.lists.handles_perm.map _, ?_⟩
  unfold Messenger.dropFault Messenger.isEmpty Messenger.delegateCount
  rw [sound.lists.size_index]
  cases live <;> rfl

end Usage.Sound

/-- Whatever was done with a messenger, its two maps describe exactly the delegates returned and not
removed since; its check and its count agree, removal succeeds for these delegates and otherwise
only says that a delegate is not registered, and dropping it is a fault just if one is left, which
names those that are left. -/
theorem registry_bijective (store : Store) (operations : List Operation) :
    let answers := (Usage.fresh store).answers operations
    let bus := ((Usage.fresh store).after operations).bus
    bus.messenger.registry.Bijective ∧
      (∀ id, (∃ type name, id ∈ bus.messenger.registry.bucket type name) ↔
        ∃ handle ∈ live answers, handle.id = id) ∧
      bus.messenger.verify = .ok () ∧
      bus.messenger.delegateCount = (live answers).length ∧
      (∀ handle ∈ issued answers, (bus.remove handle).1 = .ok () ↔ handle ∈ live answers) ∧
      (∀ handle ∈ issued answers, handle ∉ live answers → bus.remove handle =
        (.error (.consistency (.notRegistered handle.uniqueName)), bus)) ∧
      (live answers = [] ↔ bus.messenger.registry.forward.isEmpty = true ∧
        bus.messenger.registry.index.isEmpty = true) ∧
      (∃ names, names.Perm ((live answers).map Handle.uniqueName) ∧ bus.messenger.dropFault =
        if (live answers).isEmpty then none else some (.droppedRegistered names)) ∧
      (issued answers).map Handle.id = List.range bus.messenger.nextId := by
  intro answers bus
  have sound := Usage.sound_after store operations
  have lists : bus.messenger.registry.Lists (live answers) := sound.lists
  refine ⟨lists.bijective, ?_, ?_, lists.size_index, fun handle => sound.remove_eq_ok_iff,
    fun handle => sound.remove_of_not_registered, lists.isEmpty_iff, sound.exists_dropFault_eq,
    sound.numbered⟩
  · intro id
    simp only [lists.mem_bucket_iff]
    constructor
    · intro bucketed
      obtain ⟨type, name, delegate, member, _⟩ := bucketed
      exact ⟨_, member, rfl⟩
    · intro registered
      obtain ⟨handle, member, rfl⟩ := registered
      exact ⟨_, _, handle.delegate, member, rfl, rfl⟩
  · simp [Messenger.verify, lists.bijective.inconsistency_eq_none]

end Beamline.Bus
