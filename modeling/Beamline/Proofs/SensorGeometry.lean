import Beamline.Proofs.AcceptedConfig
import Beamline.Proofs.Detectors
import Beamline.Proofs.FloatSigns

/-!
The geometry of the detectors that are built. Sizes are compared with zero, and not-a-number
compares with nothing: the sensors whose sizes are numbers have their centre in their matrix, every
other sensor covers no place at all.
-/

namespace Beamline.Detector

open Number (floatSign)

/-- The sizes that are compared with zero. -/
def sizes (detector : Detector) : List Float :=
  [detector.pitch.1, detector.pitch.2, detector.thickness]

/-- A sensor with a place for a pixel: its sizes are greater than zero, and the pixel over its
centre is one of the matrix. -/
structure Solid (detector : Detector) : Prop where
  large : ∀ size ∈ detector.sizes, 0 < size
  centre : detector.contains {} = true
  pixel : ∃ pixel, detector.pixelAt {} = .ok (some pixel) ∧
    pixel.x < detector.pixels.1 ∧ pixel.y < detector.pixels.2

/-- A sensor that covers nothing. -/
structure Void (detector : Detector) : Prop where
  outside : ∀ place, detector.contains place = false
  pixelless : ∀ place, detector.pixelAt place = .ok none

/-- What holds of the detectors that are built. -/
structure Sensor (detector : Detector) : Prop where
  named : detector.name ≠ ""
  columns : 1 ≤ detector.pixels.1
  rows : 1 ≤ detector.pixels.2
  sized : ∀ size ∈ detector.sizes, 0 < size ∨ size.isNaN = true
  solid_iff : detector.Solid ↔ ∀ size ∈ detector.sizes, size.isNaN = false
  void_iff : detector.Void ↔ ∃ size ∈ detector.sizes, size.isNaN = true

variable {detector : Detector}

theorem Checked.sized (checked : detector.Checked) :
    ∀ size ∈ detector.sizes, 0 < size ∨ size.isNaN = true := by
  simp only [sizes, List.forall_mem_cons, ← Number.not_le_zero_iff]
  exact ⟨checked.wide, checked.high, checked.thick, List.forall_mem_nil _⟩

/-- The centre of a sensor lies in it, as halves of sizes greater than zero have no negative
sign, even if they underflow. -/
theorem Checked.centre (checked : detector.Checked)
    (large : ∀ size ∈ detector.sizes, 0 < size) : detector.contains {} = true := by
  simp only [sizes, List.forall_mem_cons] at large
  obtain ⟨wide, high, thick, -⟩ := large
  have half {count : UInt32} {pitch : Float} (filled : 0 < count) (positive : 0 < pitch) :
      floatSign (count.toFloat * pitch / 2) = some .positive :=
    Number.floatSign_half (Number.floatSign_mul_of_pos (Number.toFloat_pos filled) positive)
  rw [contains_iff]
  exact ⟨Number.abs_zero_le (half checked.columns wide),
    Number.abs_zero_le (half checked.rows high),
    Number.abs_zero_le (Number.floatSign_half (Number.floatSign_of_pos thick))⟩

theorem Solid.numbers (solid : detector.Solid) :
    ∀ size ∈ detector.sizes, size.isNaN = false :=
  fun size among => Number.isNaN_eq_false_of_pos (solid.large size among)

theorem Checked.solid (checked : detector.Checked)
    (numbers : ∀ size ∈ detector.sizes, size.isNaN = false) : detector.Solid := by
  have large (size : Float) (among : size ∈ detector.sizes) : 0 < size :=
    (checked.sized size among).resolve_right (Bool.eq_false_iff.mp (numbers size among))
  have centre := checked.centre large
  obtain ⟨pixelOf, told, covered, within⟩ := checked.pixelAt
  obtain ⟨pixel, same⟩ := Option.isSome_iff_exists.mp ((covered {}).trans centre)
  exact ⟨large, centre, pixel, (told {}).trans (congrArg _ same), within {} pixel same⟩

/-- A size that is not a number makes half of the extent not a number, in which no place lies. -/
theorem outside_of_isNaN (unsized : ∃ size ∈ detector.sizes, size.isNaN = true) (place : Position) :
    detector.contains place = false := by
  obtain ⟨size, among, unknown⟩ := unsized
  have none := Number.isNaN_iff.mp unknown
  have product (count : UInt32) :=
    Number.floatSign_half_of_none (Number.floatSign_mul_of_none none count.toFloat)
  rw [Bool.eq_false_iff, ne_eq, contains_iff]
  rintro ⟨wide, high, thick⟩
  rcases List.mem_cons.mp among with rfl | among
  · exact Number.not_le_of_none (product _) _ wide
  rcases List.mem_cons.mp among with rfl | among
  · exact Number.not_le_of_none (product _) _ high
  · obtain rfl := List.mem_singleton.mp among
    exact Number.not_le_of_none (Number.floatSign_half_of_none none) _ thick

private theorem void_of_isNaN (unsized : ∃ size ∈ detector.sizes, size.isNaN = true) :
    detector.Void where
  outside := outside_of_isNaN unsized
  pixelless place := if_neg (Bool.eq_false_iff.mp (outside_of_isNaN unsized place))

theorem Solid.not_void (solid : detector.Solid) : ¬ detector.Void := by
  intro void
  have outside := void.outside {}
  rw [solid.centre] at outside
  cases outside

theorem Checked.sensor (checked : detector.Checked) : detector.Sensor where
  named := checked.named
  columns := UInt32.le_iff_toNat_le.mpr (UInt32.lt_iff_toNat_lt.mp checked.columns)
  rows := UInt32.le_iff_toNat_le.mpr (UInt32.lt_iff_toNat_lt.mp checked.rows)
  sized := checked.sized
  solid_iff := ⟨Solid.numbers, checked.solid⟩
  void_iff := by
    refine ⟨fun void => ?_, void_of_isNaN⟩
    by_contra numbers
    refine (checked.solid fun size among => Bool.eq_false_iff.mpr fun unknown => ?_).not_void void
    exact numbers ⟨size, among, unknown⟩

theorem Sensor.checked (sensor : detector.Sensor) : detector.Checked := by
  have sized := sensor.sized
  simp only [sizes, List.forall_mem_cons, ← Number.not_le_zero_iff] at sized
  exact {
    named := sensor.named
    columns := UInt32.lt_iff_toNat_lt.mpr (UInt32.le_iff_toNat_le.mp sensor.columns)
    rows := UInt32.lt_iff_toNat_lt.mpr (UInt32.le_iff_toNat_le.mp sensor.rows)
    wide := sized.1
    high := sized.2.1
    thick := sized.2.2.1 }

/-- A description builds its detector just if this is a sensor: one with a name, pixels, and sizes
that are greater than zero or not numbers. Its centre has a pixel of the matrix just if all of its
sizes are numbers, and it covers no place at all just if one of them is not. The detectors of a
configuration are sensors as well. -/
theorem sensor_of_build (name model : String) (position : Position) (pixels : UInt32 × UInt32)
    (pitch : Float × Float) (thickness : Float) (config : Config) :
    (∀ detector, build name model position pixels pitch thickness = .ok detector ↔
      detector = { name, model, position, pixels, pitch, thickness } ∧ detector.Sensor) ∧
    ∀ detectors, config.detectors = .ok detectors → ∀ detector ∈ detectors, detector.Sensor := by
  constructor
  · intro detector
    rw [build_eq_ok]
    exact and_congr_right fun _ => ⟨Checked.sensor, Sensor.checked⟩
  · intro detectors accepted detector among
    obtain ⟨_, built⟩ := Run.detectors_eq_ok.mp accepted
    exact (Run.checked_of_buildPlanes built detector among).sensor

def standard : Detector where
  name := "dut"
  model := "timepix"
  position := { z := Float.ofNat 0 * planeSpacing }
  pixels := (256, 256)
  pitch := (0.055, 0.055)
  thickness := 0.3

/-- A standard plane is a sensor, also as the only one of a configuration. -/
theorem standard_sensor :
    let config : Config := { planes := Plane.row ["dut"] }
    (build "dut" "timepix" standard.position (256, 256) (0.055, 0.055) 0.3 = .ok standard ∧
      standard.Sensor) ∧ config.detectors = .ok [standard] ∧ standard.Sensor := by
  intro config
  have built : build "dut" "timepix" standard.position (256, 256) (0.055, 0.055) 0.3 =
      .ok standard := rfl
  have accepted : Config.detectors { planes := Plane.row ["dut"] } = .ok [standard] := rfl
  obtain ⟨alone, configured⟩ := sensor_of_build "dut" "timepix" standard.position (256, 256)
    (0.055, 0.055) 0.3 config
  exact ⟨⟨built, ((alone standard).mp built).2⟩, accepted,
    configured [standard] accepted standard List.mem_cons_self⟩

/-- A detector whose pitch along one axis is not a number. -/
def pitchless : Detector :=
  { standard with pitch := (0 / 0, 0.055) }

/-- A detector is built, on its own and for a configuration, that has no pixel over its centre. -/
theorem pitchless_is_built :
    let config : Config := { planes := [{ Plane.standard "dut" 0 with pitch := (0 / 0, 0.055) }] }
    build "dut" "timepix" standard.position (256, 256) (0 / 0, 0.055) 0.3 = .ok pitchless ∧
      config.detectors = .ok [pitchless] ∧ ¬ 0 < pitchless.pitch.1 ∧
      pitchless.contains {} = false ∧ pitchless.pixelAt {} = .ok none :=
  ⟨rfl, rfl, by decide, rfl, rfl⟩

end Beamline.Detector
