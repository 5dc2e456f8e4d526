import Beamline.Proofs.Detectors
import Beamline.Proofs.FloatSigns
import Beamline.Record.Written

/-!
Where the look-up of a pixel ends in a fault. A detector that was built has a pixel to answer with
or answers that there is none. A description that is read is not checked, so its matrix may be
without pixels; then the look-up faults at the places that the sensor contains, and only there.
-/

namespace Beamline.Detector

variable {detector : Detector} {place : Position}

/-- The look-up answers, and what it answers is a pixel of the matrix. -/
def Answers (detector : Detector) (place : Position) : Prop :=
  ∃ found, detector.pixelAt place = .ok found ∧
    ∀ pixel ∈ found, pixel.x < detector.pixels.1 ∧ pixel.y < detector.pixels.2

theorem Filled.answers (filled : detector.Filled) (place : Position) : detector.Answers place := by
  obtain ⟨pixelOf, told, _, within⟩ := filled.pixelAt
  exact ⟨pixelOf place, told place, within place⟩

theorem answers_of_outside (outside : detector.contains place = false) :
    detector.Answers place :=
  ⟨none, if_neg (Bool.eq_false_iff.mp outside), by simp⟩

theorem lastPixel_of_empty {count : UInt32} (empty : ¬ 0 < count) :
    lastPixel count = .error .subtraction :=
  if_pos (not_not.mp ((pixels_pos_iff count).not.mp empty))

theorem pixelAt_of_unfilled (inside : detector.contains place = true)
    (unfilled : ¬ detector.Filled) : detector.pixelAt place = .error .subtraction := by
  unfold Detector.pixelAt
  rw [if_pos inside]
  by_cases columns : 0 < detector.pixels.1
  · have rows : ¬ 0 < detector.pixels.2 := fun rows => unfilled ⟨columns, rows⟩
    obtain ⟨last, same, _⟩ := min_lastPixel columns 0
    rw [same, lastPixel_of_empty rows]
    rfl
  · rw [lastPixel_of_empty columns]
    rfl

/-- The look-up faults just at the places of a sensor whose matrix has no pixel for them. -/
theorem pixelAt_eq_error_iff {fault : Fault} : detector.pixelAt place = .error fault ↔
    detector.contains place = true ∧ ¬ detector.Filled ∧ fault = .subtraction := by
  constructor
  · intro failed
    have unanswered : ¬ detector.Answers place := by
      rintro ⟨found, told, _⟩
      rw [told] at failed
      cases failed
    have inside : detector.contains place = true := by
      by_contra outside
      exact unanswered (answers_of_outside (Bool.eq_false_iff.mpr outside))
    have unfilled : ¬ detector.Filled := fun filled => unanswered (filled.answers place)
    rw [pixelAt_of_unfilled inside unfilled] at failed
    exact ⟨inside, unfilled, (Except.error.inj failed).symm⟩
  · rintro ⟨inside, unfilled, rfl⟩
    exact pixelAt_of_unfilled inside unfilled

theorem answers_iff :
    detector.Answers place ↔ ¬ (detector.contains place = true ∧ ¬ detector.Filled) := by
  constructor
  · rintro ⟨found, told, _⟩ ⟨inside, unfilled⟩
    rw [pixelAt_of_unfilled inside unfilled] at told
    cases told
  · intro filled
    by_cases inside : detector.contains place = true
    · exact Filled.answers (not_not.mp fun unfilled => filled ⟨inside, unfilled⟩) place
    · exact answers_of_outside (Bool.eq_false_iff.mpr inside)

theorem contains_centre (inside : detector.contains place = true) :
    detector.contains {} = true := by
  obtain ⟨wide, high, thick⟩ := contains_iff.mp inside
  exact contains_iff.mpr ⟨Number.abs_zero_le_of_abs_le wide, Number.abs_zero_le_of_abs_le high,
    Number.abs_zero_le_of_abs_le thick⟩

/-- The look-up answers everywhere if there are pixels, or if not even the centre is contained. -/
theorem forall_answers_iff :
    (∀ place, detector.Answers place) ↔ detector.Filled ∨ detector.contains {} = false := by
  constructor
  · intro total
    by_contra neither
    obtain ⟨unfilled, inside⟩ := not_or.mp neither
    exact answers_iff.mp (total {}) ⟨Bool.not_eq_false _ ▸ inside, unfilled⟩
  · rintro (filled | outside) place
    · exact filled.answers place
    · refine answers_iff.mpr fun ⟨inside, _⟩ => ?_
      rw [contains_centre inside] at outside
      cases outside

/-- At every place a detector that was built has a pixel of its matrix or none. For a detector that
was read from JSON, of which nothing is checked, the look-up faults just where a matrix without
columns or rows contains the place, and otherwise answers so as well: it answers everywhere just if
there are pixels or the centre lies outside of the sensor. -/
theorem pixelAt_of_built_or_read (detector : Detector) :
    (∀ name model position pixels pitch thickness,
      build name model position pixels pitch thickness = .ok detector →
        ∀ place, detector.Answers place) ∧
    ∀ json, ofJson? json = some detector →
      (∀ place fault, detector.pixelAt place = .error fault ↔
        detector.contains place = true ∧ ¬ detector.Filled ∧ fault = .subtraction) ∧
      (∀ place, detector.Answers place ↔
        ¬ (detector.contains place = true ∧ ¬ detector.Filled)) ∧
      ((∀ place, detector.Answers place) ↔
        detector.Filled ∨ detector.contains {} = false) := by
  constructor
  · intro name model position pixels pitch thickness built
    exact (build_eq_ok.mp built).2.filled.answers
  · intro json _
    exact ⟨fun _ _ => pixelAt_eq_error_iff, fun _ => answers_iff, forall_answers_iff⟩

def twoRows (columns : UInt32) : Detector where
  name := "d"
  model := "m"
  position := {}
  pixels := (columns, 2)
  pitch := (0.5, 0.25)
  thickness := 0.5

def describedTwoRows (columns : Nat) : Json :=
  .obj [("name", .str "d"), ("model", .str "m"), ("position", .arr [.int 0, .int 0, .int 0]),
    ("pixels", .arr [.ofNat columns, .int 2]), ("pitch", .arr [.float 0.5, .float 0.25]),
    ("thickness", .float 0.5)]

/-- A sensor with columns that was built, and one without that was read: there the look-up answers
beside the sensor and faults at its centre. -/
theorem pixelAt_of_four_and_no_columns :
    (build "d" "m" {} (4, 2) (0.5, 0.25) 0.5 = .ok (twoRows 4) ∧ (twoRows 4).Answers {}) ∧
    ofJson? (describedTwoRows 0) = some (twoRows 0) ∧ (twoRows 0).Answers { x := 0.5 } ∧
      (twoRows 0).pixelAt {} = .error .subtraction ∧ ¬ ∀ place, (twoRows 0).Answers place := by
  have built : build "d" "m" {} (4, 2) (0.5, 0.25) 0.5 = .ok (twoRows 4) := rfl
  have read : ofJson? (describedTwoRows 0) = some (twoRows 0) := rfl
  have unfilled : ¬ (twoRows 0).Filled := fun filled => absurd filled.columns (by decide)
  have inside : (twoRows 0).contains {} = true := rfl
  have beside : (twoRows 0).contains { x := 0.5 } = false := rfl
  obtain ⟨onBuilt, -⟩ := pixelAt_of_built_or_read (twoRows 4)
  obtain ⟨-, onRead⟩ := pixelAt_of_built_or_read (twoRows 0)
  obtain ⟨faults, answers, total⟩ := onRead _ read
  refine ⟨⟨built, onBuilt _ _ _ _ _ _ built {}⟩, read, (answers _).mpr ?_,
    (faults {} .subtraction).mpr ⟨inside, unfilled, rfl⟩, total.not.mpr ?_⟩
  · rw [beside]
    simp
  · rw [inside]
    simp [unfilled]

/-- A detector can be read whose look-up faults at the centre; it cannot be built. -/
theorem columnless_is_read : ofJson? (describedTwoRows 0) = some (twoRows 0) ∧
    ¬ (twoRows 0).Answers {} ∧
    build "d" "m" {} (0, 2) (0.5, 0.25) 0.5 = .error (.emptyMatrix "d") := by
  refine ⟨rfl, ?_, rfl⟩
  have fault : (twoRows 0).pixelAt {} = .error .subtraction := rfl
  rintro ⟨found, told, _⟩
  rw [fault] at told
  cases told

end Beamline.Detector
