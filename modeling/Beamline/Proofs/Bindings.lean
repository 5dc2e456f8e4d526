import Beamline.Bus.Bindings
import Beamline.Proofs.Accounting
import Beamline.Proofs.Lists
import Beamline.Proofs.RegistryBijection

namespace Beamline.Bus

namespace Bindings

variable {bindings : Bindings} {bus : Bus} {flags : Flags}

/-- A suitable registration for a module. -/
theorem register_of_suitable {binding : Binding Filter}
    (suitable : bus.messenger.refusal binding flags = none) :
    let handle := bus.nextHandle bindings.identity binding flags
    bindings.register bus binding flags =
      (.ok handle, { bindings with handles := bindings.handles ++ [handle] },
        (bus.register bindings.identity binding flags).2) := by
  simp only [register, Bus.register_of_suitable suitable]

theorem bindSlot_of_suitable {kind : SlotKind} {payload : PayloadType} {slot : Slot} {store : Store}
    (made : bus.store.newSlot kind payload = (slot, store))
    (suitable : bus.messenger.refusal (.slot slot) flags = none) :
    let handle := ({ bus with store } : Bus).nextHandle bindings.identity (.slot slot) flags
    bindings.bindSlot bus kind payload flags =
      (.ok slot, { bindings with handles := bindings.handles ++ [handle] },
        (({ bus with store } : Bus).register bindings.identity (.slot slot) flags).2) := by
  have registered := @register_of_suitable bindings { bus with store } flags (.slot slot) suitable
  simp only [bindSlot, made, registered]

/-- To bind a new slot is to make it and then to register it. -/
theorem bindSlot_eq (bindings : Bindings) (bus : Bus) (kind : SlotKind)
    (payload : PayloadType) (flags : Flags) :
    let slot : Slot := { number := bus.store.next, kind, payload }
    let registered := bindings.register
      { bus with store := (bus.store.newSlot kind payload).2 } (.slot slot) flags
    bindings.bindSlot bus kind payload flags = (registered.1.map fun _ => slot, registered.2) := by
  intro slot registered
  have made : bus.store.newSlot kind payload = (slot, (bus.store.newSlot kind payload).2) := rfl
  unfold bindSlot
  rw [made]
  rcases told : registered with ⟨_ | _, _, _⟩ <;> simp only [registered, slot] at told <;>
    simp only [slot, told] <;> rfl

/-- All delegates that bindings hold are delegates of their module. -/
def Own (bindings : Bindings) : Prop :=
  ∀ handle ∈ bindings.handles, handle.delegate.receiver = bindings.identity

theorem Own.register (own : bindings.Own) (bus : Bus) (binding : Binding Filter) (flags : Flags) :
    (bindings.register bus binding flags).2.1.Own := by
  cases refusal : bus.messenger.refusal binding flags with
  | some reason =>
    simp only [Bindings.register, register_of_refused refusal]
    exact own
  | none =>
    rw [register_of_suitable refusal]
    intro handle member
    rcases List.mem_append.mp member with old | new
    · exact own handle old
    · rw [List.mem_singleton.mp new]
      rfl

theorem Own.bindSlot (own : bindings.Own) (bus : Bus) (kind : SlotKind) (payload : PayloadType)
    (flags : Flags) : (bindings.bindSlot bus kind payload flags).2.1.Own := by
  rw [bindSlot_eq]
  exact own.register _ _ flags

/-! ## Removals -/

/-- Whether a delegate is none of those that bindings hold. The delegates of a messenger are told
apart by their numbers. -/
def spares (bindings : Bindings) (handle : Handle) : Bool :=
  bindings.handles.all fun held => handle.id != held.id

private theorem removeAll_cons (bus : Bus) (handle : Handle) (rest : List Handle) :
    (removeAll bus (handle :: rest)).2 = (removeAll (bus.remove handle).2 rest).2 := by
  simp only [removeAll]
  split <;> rfl

/-- What is left when bindings go, whether their delegates were removed before or not. -/
theorem drop_snd (bindings : Bindings) (bus : Bus) :
    (bindings.drop bus).2 = (removeAll bus bindings.handles).2 := by
  unfold drop
  split
  · rename_i none
    rw [List.isEmpty_iff.mp none]
    rfl
  · unfold release
    rcases removeAll bus bindings.handles with ⟨_ | error, bus⟩ <;> rfl

end Bindings

namespace Sound

variable {bus : Bus} {returned live : List Handle}

/-- What a removal changes: the registry, and the count of removed delegates. -/
theorem remove_snd (sound : bus.Sound returned live) (handle : Handle) :
    let left := live.filter fun other => other.id != handle.id
    ∃ registry gone, registry.Lists left ∧ left.length + gone = live.length ∧
      (bus.remove handle).2 = { bus with
        messenger := { bus.messenger with
          registry
          stats := { bus.messenger.stats with
            removed := bus.messenger.stats.removed + gone } } } := by
  intro left
  by_cases member : ∃ listed ∈ live, listed.id = handle.id
  · obtain ⟨listed, member, same⟩ := member
    obtain ⟨_, registry, lists, removed⟩ := Usage.Sound.remove_of_id sound member same
    have fewer := (Usage.Sound.lists sound).ordered.length_without member
    rw [same] at fewer
    exact ⟨registry, 1, lists, fewer, congrArg Prod.snd removed⟩
  · have missing : ∀ listed ∈ live, listed.id ≠ handle.id :=
      fun listed present same => member ⟨listed, present, same⟩
    have kept : left = live := by simpa [left] using missing
    have refused := Usage.Sound.remove_of_missing sound missing
    refine ⟨bus.messenger.registry, 0, kept ▸ Usage.Sound.lists sound, by rw [kept, Nat.add_zero],
      congrArg Prod.snd refused⟩

/-- A removal keeps the messenger sound. -/
theorem remove (sound : bus.Sound returned live) (handle : Handle) :
    (bus.remove handle).2.Sound returned (live.filter fun other => other.id != handle.id) :=
  (Usage.Sound.remove sound handle).bus

theorem removeAll_snd (sound : bus.Sound returned live) (handles : List Handle) :
    let left := live.filter fun other => handles.all fun handle => other.id != handle.id
    ∃ registry gone, registry.Lists left ∧ left.length + gone = live.length ∧
      (Bindings.removeAll bus handles).2 = { bus with
        messenger := { bus.messenger with
          registry
          stats := { bus.messenger.stats with
            removed := bus.messenger.stats.removed + gone } } } ∧
      (Bindings.removeAll bus handles).2.Sound returned left := by
  induction handles generalizing bus live with
  | nil =>
    have all : (live.filter fun other => ([] : List Handle).all fun handle =>
        other.id != handle.id) = live := by simp
    rw [all]
    exact ⟨bus.messenger.registry, 0, Usage.Sound.lists sound, rfl, rfl, sound⟩
  | cons handle rest ih =>
    obtain ⟨_, one, _, fewer, removed⟩ := sound.remove_snd handle
    obtain ⟨registry, more, lists, fewest, left, later⟩ := ih (sound.remove handle)
    have same : (live.filter fun other => (handle :: rest).all fun handle =>
        other.id != handle.id) =
          (live.filter fun other => other.id != handle.id).filter fun other =>
            rest.all fun handle => other.id != handle.id := by
      rw [List.filter_filter]
      exact List.filter_congr fun other _ => by rw [List.all_cons, Bool.and_comm]
    rw [same, Bindings.removeAll_cons]
    refine ⟨registry, one + more, lists, ?_, ?_, later⟩
    · omega
    · rw [left, removed, Nat.add_assoc]

/-- The error of removals is that of the first delegate that is not registered. -/
theorem removeAll_fst (sound : bus.Sound returned live) {handles : List Handle}
    (distinct : (handles.map Handle.id).Nodup) : (Bindings.removeAll bus handles).1 =
      (handles.find? fun handle => live.all fun listed => listed.id != handle.id).map fun handle =>
        .consistency (.notRegistered handle.uniqueName) := by
  induction handles generalizing bus live with
  | nil => rfl
  | cons handle rest ih =>
    rw [List.map_cons, List.nodup_cons] at distinct
    obtain ⟨fresh, distinct⟩ := distinct
    by_cases member : ∃ listed ∈ live, listed.id = handle.id
    · obtain ⟨listed, member, same⟩ := member
      obtain ⟨_, registry, _, removed⟩ := Usage.Sound.remove_of_id sound member same
      have present : (live.all fun listed => listed.id != handle.id) = false :=
        List.all_eq_false.mpr ⟨listed, member, by simp [same]⟩
      have later := ih (sound.remove handle) distinct
      -- That one delegate is gone tells nothing about the rest, whose numbers are different.
      have others : rest.find? (fun other => (live.filter fun other =>
          other.id != handle.id).all fun listed => listed.id != other.id) =
            rest.find? fun other => live.all fun listed => listed.id != other.id := by
        refine find?_congr fun other further => ?_
        have different : other.id ≠ handle.id := fun same =>
          fresh (same ▸ List.mem_map_of_mem further)
        rw [List.all_filter]
        refine List.all_congr rfl fun listed => ?_
        by_cases equal : listed.id = handle.id <;> simp [equal, Ne.symm different]
      rw [List.find?_cons, present, ← others, ← later]
      change bus.remove handle = _ at removed
      simp only [Bindings.removeAll, removed]
    · have missing : ∀ listed ∈ live, listed.id ≠ handle.id :=
        fun listed present same => member ⟨listed, present, same⟩
      have absent : (live.all fun listed => listed.id != handle.id) = true := by
        simpa using missing
      have refused := Usage.Sound.remove_of_missing sound missing
      change bus.remove handle = _ at refused
      simp only [Bindings.removeAll, refused, List.find?_cons, absent, Option.map_some]

end Sound

end Beamline.Bus
