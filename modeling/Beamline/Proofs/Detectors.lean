import Beamline.Geometry.Detector
import Mathlib.Tactic.Choose

namespace Beamline.Detector

/-- What is checked of a detector. Sizes are only checked not to be zero or less. -/
structure Checked (detector : Detector) : Prop where
  named : detector.name ≠ ""
  columns : 0 < detector.pixels.1
  rows : 0 < detector.pixels.2
  wide : ¬ detector.pitch.1 ≤ 0
  high : ¬ detector.pitch.2 ≤ 0
  thick : ¬ detector.thickness ≤ 0

theorem pixels_pos_iff (count : UInt32) : 0 < count ↔ ¬ (count == 0) = true := by
  rw [beq_iff_eq, UInt32.lt_iff_toNat_lt, ← UInt32.toNat_inj]
  exact Nat.pos_iff_ne_zero

/-- Detectors are built from what passes the checks. -/
theorem build_eq_ok {name model : String} {position : Position} {pixels : UInt32 × UInt32}
    {pitch : Float × Float} {thickness : Float} {detector : Detector} :
    build name model position pixels pitch thickness = .ok detector ↔
      detector = { name, model, position, pixels, pitch, thickness } ∧ detector.Checked := by
  constructor
  · intro built
    unfold build at built
    split at built
    · cases built
    · rename_i named
      split at built
      · cases built
      · rename_i counted
        split at built
        · cases built
        · rename_i sized
          cases built
          simp only [Bool.or_eq_true, decide_eq_true_eq, not_or] at counted sized
          exact ⟨rfl, {
            named := fun empty => named (String.isEmpty_iff.mpr empty)
            columns := (pixels_pos_iff _).mpr counted.1
            rows := (pixels_pos_iff _).mpr counted.2
            wide := sized.1.1
            high := sized.1.2
            thick := sized.2 }⟩
  · rintro ⟨rfl, named, columns, rows, wide, high, thick⟩
    unfold build
    rw [if_neg (by simpa using named), if_neg (by simp_all [pixels_pos_iff]), if_neg (by simp_all)]

/-! ## Pixels -/

variable {detector : Detector}

theorem contains_iff {place : Position} : detector.contains place = true ↔
    place.x.abs ≤ detector.halfSize.x ∧ place.y.abs ≤ detector.halfSize.y ∧
      place.z.abs ≤ detector.halfSize.z := by
  constructor
  · intro inside
    obtain ⟨flat, thick⟩ := Bool.and_eq_true_iff.mp inside
    obtain ⟨wide, high⟩ := Bool.and_eq_true_iff.mp flat
    exact ⟨of_decide_eq_true wide, of_decide_eq_true high, of_decide_eq_true thick⟩
  · intro ⟨wide, high, thick⟩
    exact Bool.and_eq_true_iff.mpr ⟨Bool.and_eq_true_iff.mpr ⟨decide_eq_true wide,
      decide_eq_true high⟩, decide_eq_true thick⟩

theorem min_lastPixel {count : UInt32} (filled : 0 < count) (number : UInt32) :
    ∃ last, lastPixel count = .ok last ∧ min number last < count := by
  refine ⟨count - 1, if_neg ((pixels_pos_iff count).mp filled), ?_⟩
  rw [UInt32.lt_iff_toNat_lt] at filled
  have one : (1 : UInt32) ≤ count := UInt32.le_iff_toNat_le.mpr filled
  have last : (count - 1).toNat < count.toNat := by
    rw [UInt32.toNat_sub_of_le _ _ one]
    exact Nat.sub_lt filled Nat.one_pos
  have least : min number (count - 1) = if number ≤ count - 1 then number else count - 1 := rfl
  rw [least, UInt32.lt_iff_toNat_lt]
  split
  · rename_i before
    exact Nat.lt_of_le_of_lt (UInt32.le_iff_toNat_le.mp before) last
  · exact last

/-- A matrix with at least one column and one row. -/
structure Filled (detector : Detector) : Prop where
  columns : 0 < detector.pixels.1
  rows : 0 < detector.pixels.2

/-- Every place in a sensor with a filled matrix has a pixel of it, every other place none. -/
theorem Filled.pixelAt (filled : detector.Filled) : ∃ pixelOf : Position → Option PixelIndex,
    (∀ place, detector.pixelAt place = .ok (pixelOf place)) ∧
    (∀ place, (pixelOf place).isSome = detector.contains place) ∧
    ∀ place, ∀ pixel ∈ pixelOf place,
      pixel.x < detector.pixels.1 ∧ pixel.y < detector.pixels.2 := by
  have found (place : Position) : ∃ pixel : Option PixelIndex, detector.pixelAt place = .ok pixel ∧
      pixel.isSome = detector.contains place ∧
      ∀ inside ∈ pixel, inside.x < detector.pixels.1 ∧ inside.y < detector.pixels.2 := by
    unfold Detector.pixelAt
    split
    · rename_i inside
      obtain ⟨column, first, left⟩ := min_lastPixel filled.columns
        (Number.floorWord ((place.x + detector.halfSize.x) / detector.pitch.1))
      obtain ⟨row, second, low⟩ := min_lastPixel filled.rows
        (Number.floorWord ((place.y + detector.halfSize.y) / detector.pitch.2))
      rw [first, second]
      exact ⟨_, rfl, inside.symm, by simp [left, low]⟩
    · rename_i outside
      exact ⟨none, rfl, (Bool.eq_false_iff.mpr outside).symm, by simp⟩
  choose pixelOf pixel same inside using found
  exact ⟨pixelOf, pixel, same, inside⟩

theorem Checked.filled (checked : detector.Checked) : detector.Filled :=
  ⟨checked.columns, checked.rows⟩

/-- Every place in a detector that was built has a pixel of its matrix, every other place none. -/
theorem Checked.pixelAt (checked : detector.Checked) : ∃ pixelOf : Position → Option PixelIndex,
    (∀ place, detector.pixelAt place = .ok (pixelOf place)) ∧
    (∀ place, (pixelOf place).isSome = detector.contains place) ∧
    ∀ place, ∀ pixel ∈ pixelOf place,
      pixel.x < detector.pixels.1 ∧ pixel.y < detector.pixels.2 :=
  checked.filled.pixelAt

end Beamline.Detector
