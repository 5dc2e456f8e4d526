import Beamline.Proofs.RegistryBijection
import Mathlib.Data.List.Perm.Subperm

/-!
The check of a registry decides whether its two maps describe the same delegates, whatever the maps
hold: it looks at the buckets only, and comparing two counts settles the rest of the index.
-/

namespace Beamline.Bus

namespace Registry

variable {registry : Registry}

namespace Tidy

theorem ids_subset (tidy : registry.Tidy) :
    registry.handles.map Handle.id ⊆ registry.index.keys := by
  intro id listed
  obtain ⟨type, name, present⟩ := exists_mem_bucket.mpr listed
  rw [Std.HashMap.mem_keys, Std.HashMap.mem_iff_isSome_getElem?, tidy.indexed id type name present]
  rfl

/-- Different numbers, all known to the index and as many as it knows, are all that it knows. -/
theorem ids_perm (tidy : registry.Tidy)
    (counted : registry.handles.length = registry.index.size) :
    (registry.handles.map Handle.id).Perm registry.index.keys := by
  have enough : registry.index.keys.length ≤ (registry.handles.map Handle.id).length := by
    simp [Std.HashMap.length_keys, counted]
  exact (tidy.ids_nodup.subperm tidy.ids_subset).perm_of_length_le enough

/-- So the index leads nowhere else than into the buckets. -/
theorem bijective (tidy : registry.Tidy)
    (counted : registry.handles.length = registry.index.size) : registry.Bijective where
  placed id type name := by
    refine ⟨fun placed => ?_, tidy.indexed id type name⟩
    have known : id ∈ registry.index.keys := by
      rw [Std.HashMap.mem_keys, Std.HashMap.mem_iff_isSome_getElem?, placed]
      rfl
    obtain ⟨other, called, present⟩ :=
      exists_mem_bucket.mpr ((tidy.ids_perm counted).mem_iff.mpr known)
    have there := tidy.indexed id other called present
    rw [placed] at there
    cases there
    exact present
  typesFilled := tidy.typesFilled
  bucketsFilled := tidy.bucketsFilled

end Tidy

/-- The check of a registry finds nothing just if the maps describe the same delegates. -/
theorem inconsistency_eq_none_iff_bijective : registry.inconsistency = none ↔ registry.Bijective := by
  refine ⟨fun clean => ?_, Bijective.inconsistency_eq_none⟩
  obtain ⟨tidy, counted⟩ := inconsistency_eq_none_iff.mp clean
  exact tidy.bijective counted

end Registry

namespace Messenger

theorem verify_eq_ok_iff (messenger : Messenger) :
    messenger.verify = .ok () ↔ messenger.registry.Bijective := by
  rw [← Registry.inconsistency_eq_none_iff_bijective]
  unfold verify
  cases messenger.registry.inconsistency <;> simp

theorem verify_of_not_bijective {messenger : Messenger}
    (flawed : ¬ messenger.registry.Bijective) :
    ∃ fault, messenger.verify = .error (.consistency fault) := by
  rw [← Registry.inconsistency_eq_none_iff_bijective] at flawed
  obtain ⟨fault, found⟩ := Option.ne_none_iff_exists'.mp flawed
  exact ⟨fault, by simp [verify, found]⟩

end Messenger

/-- The check passes just if the two maps describe the same delegates and nothing empty is kept, and
otherwise reports an inconsistency: a number in two buckets, an indexed number in no bucket or a
delegate that is indexed elsewhere never goes unnoticed. -/
theorem verify_decides (messenger : Messenger) :
    let registry := messenger.registry
    let rejected := ∃ fault, messenger.verify = .error (.consistency fault)
    (messenger.verify = .ok () ↔ registry.Bijective) ∧
      (rejected ↔ ¬ registry.Bijective) ∧
      (∀ id type name other called, id ∈ registry.bucket type name →
        id ∈ registry.bucket other called → (type, name) ≠ (other, called) → rejected) ∧
      (∀ id ∈ registry.index, (∀ type name, id ∉ registry.bucket type name) → rejected) ∧
      (∀ id type name, id ∈ registry.bucket type name →
        registry.index[id]? ≠ some (type, name) → rejected) := by
  intro registry rejected
  refine ⟨messenger.verify_eq_ok_iff, ⟨?_, Messenger.verify_of_not_bijective⟩, ?_, ?_, ?_⟩
  · rintro ⟨fault, faulty⟩ bijective
    cases (messenger.verify_eq_ok_iff.mpr bijective).symm.trans faulty
  · intro id type name other called here there apart
    refine Messenger.verify_of_not_bijective fun bijective => apart ?_
    have placed := (bijective.placed id type name).mpr here
    exact Option.some.inj (placed.symm.trans ((bijective.placed id other called).mpr there))
  · intro id known absent
    refine Messenger.verify_of_not_bijective fun bijective => ?_
    obtain ⟨⟨type, name⟩, placed⟩ :=
      Option.isSome_iff_exists.mp (Std.HashMap.mem_iff_isSome_getElem?.mp known)
    exact absent type name ((bijective.placed id type name).mp placed)
  · intro id type name present misplaced
    exact Messenger.verify_of_not_bijective fun bijective =>
      misplaced ((bijective.placed id type name).mpr present)

end Beamline.Bus
