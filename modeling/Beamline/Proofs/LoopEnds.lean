import Beamline.Run.Simulation

/-! How the ends of the lanes' event loops tell the end of them all. -/

namespace Beamline.Run.LaneEnds

variable {ends : List (Except Stop Nat)} {fault : Fault}

theorem fault?_eq_some (found : fault? ends = some fault) : .error (.fault fault) ∈ ends := by
  obtain ⟨ended, member, same⟩ := List.exists_of_findSome?_eq_some found
  rcases ended with (_ | reason) | _ <;> simp_all

theorem together_of_ok (completed : ∀ ended ∈ ends, ∃ count, ended = .ok count) :
    together ends = .ok () := by
  have none {α : Type} {pick : Except Stop Nat → Option α} (quiet : ∀ count, pick (.ok count) = none) :
      ends.findSome? pick = none := by
    refine List.findSome?_eq_none_iff.mpr fun ended member => ?_
    obtain ⟨count, rfl⟩ := completed ended member
    exact quiet count
  have fault : fault? ends = Option.none := none fun _ => rfl
  have own : ownError? ends = Option.none := none fun _ => rfl
  have any : anyError? ends = Option.none := none fun _ => rfl
  rw [together, fault, own, any]

/-- Lanes succeed together where each of them does. -/
theorem together_ok (ok : together ends = .ok ()) {ended : Except Stop Nat}
    (member : ended ∈ ends) : ∃ processed, ended = .ok processed := by
  obtain ⟨noFault, noError⟩ : fault? ends = none ∧ anyError? ends = none := by
    unfold together at ok
    split at ok
    · exact absurd ok nofun
    · exact absurd ok nofun
    · exact absurd ok nofun
    · rename_i noFault _ noError
      exact ⟨noFault, noError⟩
  rcases ended with (error | fault) | processed
  · exact absurd (List.findSome?_eq_none_iff.mp noError _ member) nofun
  · exact absurd (List.findSome?_eq_none_iff.mp noFault _ member) nofun
  · exact ⟨processed, rfl⟩

theorem together_fault (failed : together ends = .error (.fault fault)) :
    .error (.fault fault) ∈ ends := by
  unfold together at failed
  split at failed
  · rename_i found
    obtain rfl := Stop.fault.inj (Except.error.inj failed)
    exact fault?_eq_some found
  · exact absurd (Except.error.inj failed) nofun
  · exact absurd (Except.error.inj failed) nofun
  · exact absurd failed nofun

/-- Lanes of which nothing but one fault stops any meet this fault together. -/
theorem together_of_fault
    (each : ∀ ended ∈ ends, (∃ processed, ended = .ok processed) ∨
      ended = .error (.fault fault))
    (faulty : .error (.fault fault) ∈ ends) : together ends = .error (.fault fault) := by
  cases found : fault? ends with
  | none => exact absurd (List.findSome?_eq_none_iff.mp found _ faulty) nofun
  | some other =>
    rcases each _ (fault?_eq_some found) with ⟨processed, same⟩ | same
    · cases same
    · cases same
      rw [together, found]

end Beamline.Run.LaneEnds
