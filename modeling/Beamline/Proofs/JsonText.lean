import Beamline.Json.Reader
import Beamline.Proofs.JsonCodecs

namespace Beamline.Json

namespace Reader

theorem real?_proper {text : List Char} {json : Json} (read : real? text = some json) :
    json.Proper := by
  obtain ⟨value, _, read⟩ := Option.bind_eq_some_iff.mp read
  split at read
  · cases read
    exact .float ‹_›
  · cases read

private theorem number?_proper {text : List Char} {json : Json} (read : number? text = some json) :
    json.Proper := by
  simp only [number?] at read
  split at read
  · cases read
  · split at read
    · split at read
      · cases read
        exact .int (by omega) (by omega)
      · split at read
        · cases read
          exact .int (by omega) (by omega)
        · exact real?_proper read
    · exact real?_proper read

private theorem putMember_proper {members : List (String × Json)} {key : String} {value : Json}
    (each : ∀ member ∈ members, Proper member.2) (proper : value.Proper) :
    ∀ member ∈ putMember members key value, Proper member.2 := by
  intro member mem
  rcases List.mem_append.mp mem with old | new
  · exact each member (List.mem_filter.mp old).1
  · rw [List.mem_singleton.mp new]
    exact proper

/-- The three readers call each other with less fuel; what they have read so far is proper. -/
theorem readers_proper (fuel : Nat) :
    (∀ {text json rest}, value? fuel text = some (json, rest) → json.Proper) ∧
    (∀ {text read json rest}, (∀ item ∈ read, Proper item) →
      items? fuel text read = some (json, rest) → json.Proper) ∧
    (∀ {text read json rest}, (∀ member ∈ read, Proper member.2) →
      members? fuel text read = some (json, rest) → json.Proper) := by
  induction fuel with
  | zero =>
    refine ⟨fun given => ?_, fun _ given => ?_, fun _ given => ?_⟩
    · cases given
    · cases given
    · cases given
  | succ fuel ih =>
    obtain ⟨value, items, members⟩ := ih
    refine ⟨fun given => ?_, fun each given => ?_, fun each given => ?_⟩
    · unfold value? at given
      split at given
      · cases given
        exact .null
      · cases given
        exact .bool _
      · cases given
        exact .bool _
      · obtain ⟨_, _, made⟩ := Option.map_eq_some_iff.mp given
        cases made
        exact .str _
      · split at given
        · cases given
          exact .arr (List.forall_mem_nil _)
        · exact items (List.forall_mem_nil _) given
      · split at given
        · cases given
          exact .obj (List.forall_mem_nil _)
        · exact members (List.forall_mem_nil _) given
      · obtain ⟨_, read, made⟩ := Option.bind_eq_some_iff.mp given
        cases made
        exact number?_proper read
    · unfold items? at given
      obtain ⟨⟨item, rest⟩, read, given⟩ := Option.bind_eq_some_iff.mp given
      have more := List.forall_mem_cons.mpr ⟨value read, each⟩
      dsimp only at given
      split at given
      · cases given
        exact .arr fun item mem => more item (List.mem_reverse.mp mem)
      · exact items more given
      · cases given
    · unfold members? at given
      split at given
      · obtain ⟨⟨key, rest⟩, _, given⟩ := Option.bind_eq_some_iff.mp given
        dsimp only at given
        split at given
        · obtain ⟨⟨held, rest⟩, read, given⟩ := Option.bind_eq_some_iff.mp given
          have more : ∀ member ∈ putMember _ key held, Proper member.2 :=
            putMember_proper each (value read)
          dsimp only at given
          split at given
          · cases given
            exact .obj more
          · exact members more given
          · cases given
        · cases given
      · cases given

end Reader

theorem parse?_proper {text : String} {json : Json} (read : parse? text = some json) :
    json.Proper := by
  obtain ⟨⟨value, rest⟩, given, read⟩ := Option.bind_eq_some_iff.mp read
  dsimp only at read
  split at read
  · cases read
    exact (Reader.readers_proper _).1 given
  · cases read

end Beamline.Json
