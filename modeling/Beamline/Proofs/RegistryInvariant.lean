import Beamline.Bus.Registry
import Mathlib.Data.List.Nodup

/-!
A registry describes one plain list of delegates in the order of registration. `Registry.Lists`
says so of both maps at once; listing a delegate and taking one out keep it true.
-/

namespace Beamline.Bus

/-- Delegates in the order of their numbers, none of which occurs twice. -/
def Ordered (handles : List Handle) : Prop :=
  handles.Pairwise fun first second => first.id < second.id

namespace Ordered

variable {first second : List Handle}

theorem nodup (ordered : Ordered first) : first.Nodup :=
  List.Pairwise.imp (fun less same => by subst same; exact Nat.lt_irrefl _ less) ordered

theorem filter (ordered : Ordered first) (wanted : Handle → Bool) : Ordered (first.filter wanted) :=
  List.Pairwise.filter wanted ordered

/-- Delegates in order are told apart by their numbers. -/
theorem eq_of_id (ordered : Ordered first) {one other : Handle} (present : one ∈ first)
    (member : other ∈ first) (same : one.id = other.id) : one = other := by
  induction first with
  | nil => simp at present
  | cons head rest ih =>
    obtain ⟨above, ordered⟩ := List.pairwise_cons.mp ordered
    rcases List.mem_cons.mp present with rfl | later <;>
      rcases List.mem_cons.mp member with rfl | further
    · rfl
    · have less := above other further
      omega
    · have less := above one later
      omega
    · exact ih ordered later further

theorem eq_of_mem_iff (ordered : Ordered first) (sorted : Ordered second)
    (same : ∀ handle, handle ∈ first ↔ handle ∈ second) : first = second := by
  have permuted : first.Perm second :=
    (List.perm_ext_iff_of_nodup ordered.nodup sorted.nodup).mpr same
  have apart (one other : Handle) (_ : one ∈ first) (_ : other ∈ second) (less : one.id < other.id)
      (more : other.id < one.id) : one = other := by
    omega
  exact permuted.eq_of_pairwise apart ordered sorted

end Ordered

/-- Sorting delegates without repetitions gives the orderly list of them. -/
theorem inOrder_eq {handles sorted : List Handle} (unique : handles.Nodup)
    (ordered : Ordered sorted) (same : ∀ handle, handle ∈ handles ↔ handle ∈ sorted) :
    inOrder handles = sorted := by
  have permuted : (inOrder handles).Perm sorted :=
    (List.mergeSort_perm _ _).trans ((List.perm_ext_iff_of_nodup unique ordered.nodup).mpr same)
  have apart (one other : Handle) (present : one ∈ inOrder handles) (member : other ∈ sorted)
      (less : one.id ≤ other.id) (more : other.id ≤ one.id) : one = other :=
    ordered.eq_of_id (permuted.subset present) member (Nat.le_antisymm less more)
  have sorting : (inOrder handles).Pairwise fun one other => decide (one.id ≤ other.id) = true :=
    List.pairwise_mergeSort (fun one other third => by simp; omega)
      (fun one other => by simp; omega) handles
  exact permuted.eq_of_pairwise apart (sorting.imp of_decide_eq_true) (ordered.imp Nat.le_of_lt)

/-! ## What the maps hold -/

theorem Bucket.mem_handles {bucket : Bucket} {handle : Handle} :
    handle ∈ bucket.handles ↔ bucket[handle.id]? = some handle.delegate := by
  rw [← Std.TreeMap.mem_toList_iff_getElem?_eq_some]
  constructor
  · intro member
    obtain ⟨entry, present, same⟩ := List.mem_map.mp member
    subst same
    exact present
  · intro present
    exact List.mem_map.mpr ⟨_, present, rfl⟩

theorem Bucket.ordered (bucket : Bucket) : Ordered bucket.handles := by
  have sorted := Std.TreeMap.ordered_keys_toList (t := bucket)
  apply List.pairwise_map.mpr
  exact sorted.imp fun less => Nat.compare_eq_lt.mp less

theorem NameMap.mem_handles {names : NameMap} {handle : Handle} :
    handle ∈ names.handles ↔ ∃ (name : NameKey) (bucket : Bucket), names[name]? = some bucket ∧
      bucket[handle.id]? = some handle.delegate := by
  simp only [NameMap.handles, List.mem_flatMap, Prod.exists,
    Std.HashMap.mem_toList_iff_getElem?_eq_some, Bucket.mem_handles]

namespace Registry

/-- The delegate with a number, looked up along both keys. -/
theorem bucket_getElem? (registry : Registry) (type : TypeKey) (name : NameKey) (id : Nat) :
    (registry.bucket type name)[id]? = registry.forward[type]?.bind fun names =>
      names[name]?.bind fun bucket => bucket[id]? := by
  simp only [Registry.bucket, Registry.names, Std.HashMap.getD_eq_getD_getElem?]
  cases registry.forward[type]? with
  | none => simp
  | some names =>
    simp only [Option.getD_some, Option.bind_some]
    cases names[name]? with
    | none => exact Std.TreeMap.getElem?_emptyc
    | some bucket => rfl

/-- The delegates of a registry are those found in its buckets. -/
theorem mem_handles {registry : Registry} {handle : Handle} :
    handle ∈ registry.handles ↔
      ∃ type name, (registry.bucket type name)[handle.id]? = some handle.delegate := by
  simp only [Registry.handles, List.mem_flatMap, Prod.exists, NameMap.mem_handles,
    Std.HashMap.mem_toList_iff_getElem?_eq_some, bucket_getElem?, Option.bind_eq_some_iff]
  constructor
  · intro listed
    obtain ⟨type, names, typed, name, bucket, named, found⟩ := listed
    exact ⟨type, name, names, typed, bucket, named, found⟩
  · intro bucketed
    obtain ⟨type, name, names, typed, bucket, named, found⟩ := bucketed
    exact ⟨type, names, typed, name, bucket, named, found⟩

theorem mem_handles_of_names {registry : Registry} {type : TypeKey} {handle : Handle}
    (member : handle ∈ (registry.names type).handles) : handle ∈ registry.handles := by
  obtain ⟨name, bucket, named, found⟩ := NameMap.mem_handles.mp member
  refine mem_handles.mpr ⟨type, name, ?_⟩
  rw [Registry.bucket, Std.HashMap.getD_eq_getD_getElem?, named]
  exact found

/-- A registry describes a list of delegates: each is in the bucket that its type and name name and
in no other, the index places it there, and no empty bucket or map is kept. -/
structure Lists (registry : Registry) (live : List Handle) : Prop where
  ordered : Ordered live
  bucket : ∀ type name id delegate, (registry.bucket type name)[id]? = some delegate ↔
    { id, delegate } ∈ live ∧ delegate.typeKey = type ∧ delegate.nameKey = name
  index : ∀ id type name, registry.index[id]? = some (type, name) ↔
    ∃ delegate, { id, delegate } ∈ live ∧ delegate.typeKey = type ∧ delegate.nameKey = name
  typesFilled : ∀ (type : TypeKey) (names : NameMap),
    registry.forward[type]? = some names → names.isEmpty = false
  bucketsFilled : ∀ (type : TypeKey) (names : NameMap) (name : NameKey) (bucket : Bucket),
    registry.forward[type]? = some names → names[name]? = some bucket → bucket.isEmpty = false

theorem lists_empty : Lists {} [] where
  ordered := List.Pairwise.nil
  bucket type name id delegate := by simp [bucket_getElem?]
  index id type name := by simp
  typesFilled type names found := by simp at found
  bucketsFilled type names name bucket found := by simp at found

/-! ## Listing a delegate -/

theorem insert_lookup (registry : Registry) (handle : Handle) (type : TypeKey) (name : NameKey)
    (id : Nat) : ((registry.insert handle).bucket type name)[id]? =
      if handle.delegate.typeKey = type ∧ handle.delegate.nameKey = name ∧ handle.id = id
      then some handle.delegate else (registry.bucket type name)[id]? := by
  by_cases typed : handle.delegate.typeKey = type
  · by_cases named : handle.delegate.nameKey = name
    · simp [Registry.insert, Registry.bucket, Registry.names, typed, named,
        Std.TreeMap.getElem?_insert]
    · simp [Registry.insert, Registry.bucket, Registry.names, typed, named, Std.HashMap.getD_insert]
  · simp [Registry.insert, Registry.bucket, Registry.names, typed, Std.HashMap.getD_insert]

private theorem insert_filled {registry : Registry} {live : List Handle}
    (lists : Lists registry live) (handle : Handle) {type : TypeKey} {names : NameMap}
    (found : (registry.insert handle).forward[type]? = some names) :
    names.isEmpty = false ∧ ∀ (name : NameKey) (bucket : Bucket),
      names[name]? = some bucket → bucket.isEmpty = false := by
  simp only [Registry.insert, Std.HashMap.getElem?_insert] at found
  by_cases typed : handle.delegate.typeKey = type
  · simp only [typed, beq_self_eq_true, ↓reduceIte, Option.some.injEq] at found
    subst found
    refine ⟨by simp, fun name bucket present => ?_⟩
    rw [Std.HashMap.getElem?_insert] at present
    by_cases named : handle.delegate.nameKey = name
    · simp only [named, beq_self_eq_true, ↓reduceIte, Option.some.injEq] at present
      subst present
      simp
    · simp only [beq_iff_eq, named, ↓reduceIte] at present
      cases old : registry.forward[type]? with
      | none => simp [Registry.names, Std.HashMap.getD_eq_getD_getElem?, old] at present
      | some before =>
        rw [Registry.names, Std.HashMap.getD_eq_getD_getElem?, old] at present
        exact lists.bucketsFilled type before name bucket old present
  · simp only [beq_iff_eq, typed, ↓reduceIte] at found
    exact ⟨lists.typesFilled type names found, fun name bucket =>
      lists.bucketsFilled type names name bucket found⟩

theorem Lists.insert {registry : Registry} {live : List Handle} (lists : Lists registry live)
    {handle : Handle} (later : ∀ other ∈ live, other.id < handle.id) :
    Lists (registry.insert handle) (live ++ [handle]) where
  ordered := List.pairwise_append.mpr
    ⟨lists.ordered, List.pairwise_singleton _ _, by simpa using later⟩
  bucket type name id delegate := by
    rw [insert_lookup]
    by_cases here : handle.delegate.typeKey = type ∧ handle.delegate.nameKey = name ∧
        handle.id = id
    · obtain ⟨typed, named, rfl⟩ := here
      have absent : ({ id := handle.id, delegate } : Handle) ∉ live := by
        intro member
        have less := later _ member
        exact Nat.lt_irrefl _ less
      simp only [typed, named, and_self, ↓reduceIte, Option.some.injEq, List.mem_append, absent,
        List.mem_singleton, false_or]
      constructor
      · rintro rfl
        exact ⟨rfl, typed, named⟩
      · intro keyed
        obtain ⟨same, _, _⟩ := keyed
        rw [← same]
    · simp only [here, ↓reduceIte, lists.bucket, List.mem_append, List.mem_singleton]
      constructor
      · intro old
        obtain ⟨member, keys⟩ := old
        exact ⟨.inl member, keys⟩
      · intro known
        rcases known with ⟨member | same, typed, named⟩
        · exact ⟨member, typed, named⟩
        · exact absurd ⟨by rw [← same, ← typed], by rw [← same, ← named], by rw [← same]⟩ here
  index id type name := by
    simp only [Registry.insert, Std.HashMap.getElem?_insert, beq_iff_eq]
    by_cases same : handle.id = id
    · subst same
      simp only [↓reduceIte, Option.some.injEq, Prod.mk.injEq, List.mem_append, List.mem_singleton]
      constructor
      · intro keys
        obtain ⟨typed, named⟩ := keys
        exact ⟨handle.delegate, .inr rfl, typed, named⟩
      · intro known
        rcases known with ⟨delegate, member | listed, typed, named⟩
        · exact absurd (later _ member) (Nat.lt_irrefl _)
        · rw [← congrArg Handle.delegate listed]
          exact ⟨typed, named⟩
    · simp only [same, ↓reduceIte, lists.index, List.mem_append, List.mem_singleton]
      constructor
      · intro old
        obtain ⟨delegate, member, keys⟩ := old
        exact ⟨delegate, .inl member, keys⟩
      · intro known
        rcases known with ⟨delegate, member | rfl, keys⟩
        · exact ⟨delegate, member, keys⟩
        · exact absurd rfl same
  typesFilled type names found := (insert_filled lists handle found).1
  bucketsFilled type names name bucket found := (insert_filled lists handle found).2 name bucket

/-! ## Taking a delegate out -/

private theorem withoutDelegate_lookup {names : NameMap} {name : NameKey} {bucket : Bucket}
    (named : names[name]? = some bucket) (id : Nat) (other : NameKey) :
    (withoutDelegate names name id)[other]? =
      if name = other then (if (bucket.erase id).isEmpty then none else some (bucket.erase id))
      else names[other]? := by
  simp only [withoutDelegate, named]
  split
  · simp [Std.HashMap.getElem?_erase]
  · simp [Std.HashMap.getElem?_insert]

/-- What is left of the registry after a delegate in a bucket was taken out. -/
private def taken (registry : Registry) (type : TypeKey) (name : NameKey) (names : NameMap)
    (id : Nat) : Registry where
  forward :=
    if (withoutDelegate names name id).isEmpty then registry.forward.erase type
    else registry.forward.insert type (withoutDelegate names name id)
  index := registry.index.erase id

private theorem taken_forward (registry : Registry) (type other : TypeKey) (name : NameKey)
    (names : NameMap) (id : Nat) : (registry.taken type name names id).forward[other]? =
      if type = other then (if (withoutDelegate names name id).isEmpty then none
        else some (withoutDelegate names name id))
      else registry.forward[other]? := by
  simp only [taken]
  split
  · simp [Std.HashMap.getElem?_erase]
  · simp [Std.HashMap.getElem?_insert]

private theorem kept_lookup (names : NameMap) (name : NameKey)
    (more : Bucket → Option Delegate) :
    (if names.isEmpty then none else some names).bind (fun left => left[name]?.bind more) =
      names[name]?.bind more := by
  split
  · rename_i empty
    rw [Std.HashMap.getElem?_of_isEmpty empty]
    rfl
  · rfl

private theorem taken_lookup {registry : Registry} {type : TypeKey} {name : NameKey}
    {names : NameMap} {bucket : Bucket} (typed : registry.forward[type]? = some names)
    (named : names[name]? = some bucket) (id : Nat) (other : TypeKey) (called : NameKey)
    (number : Nat) : ((registry.taken type name names id).bucket other called)[number]? =
      if type = other ∧ name = called ∧ id = number then none
      else (registry.bucket other called)[number]? := by
  have pruned := kept_lookup (withoutDelegate names name id) called fun bucket => bucket[number]?
  have shortened : (if (bucket.erase id).isEmpty then none else some (bucket.erase id)).bind
      (fun left => left[number]?) = if id = number then none else bucket[number]? := by
    have erased : (bucket.erase id)[number]? = if id = number then none else bucket[number]? := by
      simp [Std.TreeMap.getElem?_erase]
    rw [← erased]
    split
    · rename_i empty
      exact (Std.TreeMap.getElem?_of_isEmpty empty).symm
    · rfl
  rw [bucket_getElem?, bucket_getElem?, taken_forward]
  by_cases sameType : type = other
  · subst sameType
    simp only [↓reduceIte, typed, Option.bind_some, true_and]
    rw [pruned, withoutDelegate_lookup named]
    by_cases sameName : name = called
    · subst sameName
      simp only [↓reduceIte, named, Option.bind_some, true_and]
      exact shortened
    · simp [sameName]
  · simp [sameType]

/-- A delegate that is where the index says is taken out without an error. -/
private theorem erase_eq_taken {registry : Registry} {handle : Handle} {type : TypeKey}
    {name : NameKey} {names : NameMap} {bucket : Bucket}
    (placed : registry.index[handle.id]? = some (type, name))
    (typed : registry.forward[type]? = some names) (named : names[name]? = some bucket)
    (present : handle.id ∈ bucket) :
    registry.erase handle = (none, registry.taken type name names handle.id) := by
  simp [erase, placed, typed, taken, Std.HashMap.getD_eq_getD_getElem?, named, present]

private theorem erase_of_not_indexed {registry : Registry} {handle : Handle}
    (missing : registry.index[handle.id]? = none) :
    registry.erase handle = (some (.notRegistered handle.uniqueName), registry) := by
  simp [erase, missing]

namespace Lists

variable {registry : Registry} {live : List Handle}

theorem exists_bucket (lists : Lists registry live) {handle : Handle} (member : handle ∈ live) :
    ∃ names bucket, registry.forward[handle.delegate.typeKey]? = some names ∧
      names[handle.delegate.nameKey]? = some bucket ∧
      bucket[handle.id]? = some handle.delegate := by
  have found := (lists.bucket _ _ handle.id handle.delegate).mpr ⟨member, rfl, rfl⟩
  rw [bucket_getElem?] at found
  obtain ⟨names, typed, found⟩ := Option.bind_eq_some_iff.mp found
  obtain ⟨bucket, named, found⟩ := Option.bind_eq_some_iff.mp found
  exact ⟨names, bucket, typed, named, found⟩

theorem indexed (lists : Lists registry live) {handle : Handle} (member : handle ∈ live) :
    registry.index[handle.id]? = some (handle.delegate.typeKey, handle.delegate.nameKey) :=
  (lists.index _ _ _).mpr ⟨handle.delegate, member, rfl, rfl⟩

theorem index_eq_none (lists : Lists registry live) {id : Nat}
    (missing : ∀ handle ∈ live, handle.id ≠ id) : registry.index[id]? = none := by
  cases found : registry.index[id]? with
  | none => rfl
  | some place =>
    obtain ⟨delegate, member, _⟩ := (lists.index id place.1 place.2).mp found
    exact absurd rfl (missing _ member)

private theorem taken_filled (lists : Lists registry live) {type : TypeKey} {name : NameKey}
    {names : NameMap} {bucket : Bucket} (typed : registry.forward[type]? = some names)
    (named : names[name]? = some bucket) {id : Nat} {other : TypeKey} {left : NameMap}
    (found : (registry.taken type name names id).forward[other]? = some left) :
    left.isEmpty = false ∧ ∀ (called : NameKey) (bucket : Bucket),
      left[called]? = some bucket → bucket.isEmpty = false := by
  rw [taken_forward] at found
  split at found
  · split at found
    · simp at found
    · rename_i kept
      cases found
      refine ⟨Bool.eq_false_iff.mpr kept, fun called other present => ?_⟩
      rw [withoutDelegate_lookup named] at present
      split at present
      · split at present
        · simp at present
        · rename_i filled
          cases present
          exact Bool.eq_false_iff.mpr filled
      · exact lists.bucketsFilled type names called other typed present
  · exact ⟨lists.typesFilled other left found, fun called bucket =>
      lists.bucketsFilled other left called bucket found⟩

private theorem taken (lists : Lists registry live) {handle : Handle} (member : handle ∈ live)
    {names : NameMap} {bucket : Bucket}
    (typed : registry.forward[handle.delegate.typeKey]? = some names)
    (named : names[handle.delegate.nameKey]? = some bucket) :
    Lists (registry.taken handle.delegate.typeKey handle.delegate.nameKey names handle.id)
      (live.filter fun other => other.id != handle.id) where
  ordered := lists.ordered.filter _
  bucket type name id delegate := by
    rw [taken_lookup typed named]
    split
    · rename_i here
      simp [← here.2.2]
    · rename_i elsewhere
      simp only [lists.bucket, List.mem_filter, bne_iff_ne, ne_eq]
      constructor
      · intro known
        obtain ⟨present, keys⟩ := known
        refine ⟨⟨present, fun same => elsewhere ?_⟩, keys⟩
        have identical := lists.ordered.eq_of_id present member same
        subst identical
        exact ⟨keys.1, keys.2, rfl⟩
      · intro left
        obtain ⟨⟨present, _⟩, keys⟩ := left
        exact ⟨present, keys⟩
  index id type name := by
    simp only [Registry.taken, Std.HashMap.getElem?_erase, beq_iff_eq, List.mem_filter, bne_iff_ne]
    split
    · rename_i same
      simp [same]
    · rename_i different
      simp [lists.index, Ne.symm different]
  typesFilled _ _ found := (taken_filled lists typed named found).1
  bucketsFilled _ _ called bucket found := (taken_filled lists typed named found).2 called bucket

/-- Taking out a delegate of the list succeeds, and the rest of the list stays. The handle is known
by its number alone. -/
theorem erase (lists : Lists registry live) {handle listed : Handle} (member : listed ∈ live)
    (same : listed.id = handle.id) : (registry.erase handle).1 = none ∧
      Lists (registry.erase handle).2 (live.filter fun other => other.id != handle.id) := by
  obtain ⟨names, bucket, typed, named, found⟩ := lists.exists_bucket member
  have placed := lists.indexed member
  rw [same] at placed found
  have present : handle.id ∈ bucket := by
    simp [Std.TreeMap.mem_iff_isSome_getElem?, found]
  rw [erase_eq_taken placed typed named present]
  have remaining := lists.taken member typed named
  rw [same] at remaining
  exact ⟨rfl, remaining⟩

/-- A delegate that is not of the list is not taken out, and nothing changes. -/
theorem erase_of_missing (lists : Lists registry live) {handle : Handle}
    (missing : ∀ listed ∈ live, listed.id ≠ handle.id) :
    registry.erase handle = (some (.notRegistered handle.uniqueName), registry) :=
  erase_of_not_indexed (lists.index_eq_none missing)

/-- The delegates of a bucket are those of the list with its keys, in the order of the list. -/
theorem bucket_handles (lists : Lists registry live) (type : TypeKey) (name : NameKey) :
    (registry.bucket type name).handles = live.filter fun handle =>
      handle.delegate.typeKey = type ∧ handle.delegate.nameKey = name := by
  apply (Bucket.ordered _).eq_of_mem_iff (lists.ordered.filter _)
  intro handle
  simp [Bucket.mem_handles, lists.bucket]

theorem mem_handles (lists : Lists registry live) {handle : Handle} :
    handle ∈ registry.handles ↔ handle ∈ live := by
  simp only [Registry.mem_handles, lists.bucket]
  constructor
  · intro bucketed
    obtain ⟨type, name, member, _⟩ := bucketed
    exact member
  · intro member
    exact ⟨_, _, member, rfl, rfl⟩

end Lists

end Registry

end Beamline.Bus
