import Beamline.Proofs.Lists
import Beamline.Proofs.WatchedLanes

namespace Beamline.Bus

theorem occurrences_eq {names texts : List String} (distinct : names.Nodup)
    (increasing : names.Pairwise (· ≤ ·)) (same : ∀ text, text ∈ names ↔ text ∈ texts) :
    occurrences texts = names.map fun text => (text, texts.count text) := by
  have sorted : (texts.eraseDups.mergeSort fun first second => first ≤ second).Pairwise
      fun first second => first ≤ second := by
    have ordered := @List.pairwise_mergeSort _
      (fun first second : String => decide (first ≤ second))
      (by simpa using fun _ _ _ => String.le_trans) (by simpa using String.le_total)
      texts.eraseDups
    simpa using ordered
  have permuted : (texts.eraseDups.mergeSort fun first second => first ≤ second).Perm names := by
    refine (List.mergeSort_perm _ _).trans ?_
    apply (List.perm_ext_iff_of_nodup (eraseDups_nodup texts) distinct).mpr
    intro text
    rw [List.mem_eraseDups, same]
  have equal := permuted.eq_of_pairwise (fun _ _ _ _ => String.le_antisymm) sorted increasing
  rw [occurrences, equal]

/-- The number of the filter that a delegate asks. -/
def Handle.filter? (handle : Handle) : Option Nat :=
  match handle.place with
  | .filter number => some number
  | .slot _ => none

theorem Handle.filter?_eq_some {handle : Handle} {number : Nat} :
    handle.filter? = some number ↔ handle.place = .filter number := by
  unfold filter?
  cases handle.place <;> simp

theorem Store.asked_perm {store : Store} {tally : Nat} {numbers : List Nat}
    (distinct : numbers.Nodup) (tallies : ∀ number, store.tallyOf? number =
      if number ∈ numbers then some (some tally) else none) :
    (store.asked (· == tally)).Perm (numbers.flatMap fun number =>
      (store.filterState number).calls.map fun call => call.message.type.name) := by
  have known (number : Nat) (state : FilterState) :
      store.filters[number]? = some state ↔
        number ∈ numbers ∧ state = store.filterState number := by
    have tallied := tallies number
    unfold tallyOf? at tallied
    unfold filterState
    cases found : store.filters[number]? with
    | none =>
      have absent : number ∉ numbers := fun among => by simp [found, among] at tallied
      simp [absent]
    | some other =>
      have among : number ∈ numbers := by
        by_contra absent
        simp [found, absent] at tallied
      simp [Std.HashMap.getD_eq_getD_getElem?, found, among, eq_comm]
  have listed : store.filters.toList.Perm
      (numbers.map fun number => (number, store.filterState number)) := by
    refine (List.perm_ext_iff_of_nodup ?_ ?_).mpr fun (number, state) => ?_
    · have keys := store.filters.distinct_keys_toList
      exact keys.imp fun different same => by simp [same] at different
    · exact List.Nodup.map (fun _ _ same => congrArg Prod.fst same) distinct
    · rw [Std.HashMap.mem_toList_iff_getElem?_eq_some, known, List.mem_map]
      constructor
      · rintro ⟨among, rfl⟩
        exact ⟨number, among, rfl⟩
      · rintro ⟨other, among, same⟩
        cases same
        exact ⟨among, rfl⟩
  refine (listed.flatMap_right _).trans (.of_eq ?_)
  rw [List.flatMap_map]
  apply List.flatMap_congr
  intro number among
  have present : store.tallyOf? number = some (some tally) := by rw [tallies, if_pos among]
  have tallied : (store.filterState number).tally = some tally := by
    have same := Store.tallyOf?_eq (by rw [present]; rfl)
    rw [present] at same
    exact (Option.some.inj same).symm
  simp [tallied]

end Beamline.Bus
