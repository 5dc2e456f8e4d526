import Beamline.Bus.Identity
import Beamline.Proofs.JsonCodecs
import Beamline.Record.Written

/-!
Records survive being written as JSON and read back. `ofJson?_eq_some_iff` says from which values a
record is read, in terms of its fields, and its codec is put together from theirs. A record is
finite when all its numbers are; one without floating-point numbers always is.
-/

namespace Beamline

open Json (Codec FieldCodec RoundTrips float_codec int32_codec text_codec word16_codec
  word32_codec word64_codec)
open Json (optional required)

/-! ## Points, pixels and carriers -/

namespace Position

structure Finite (point : Position) : Prop where
  x : point.x.isFinite = true
  y : point.y.isFinite = true
  z : point.z.isFinite = true

theorem ofJson?_eq_some_iff {json : Json} {point : Position} :
    ofJson? json = some point ↔
      ∃ x y z, json.fields? ["x", "y", "z"] = some [x, y, z] ∧
        required Json.float? x = some point.x ∧ required Json.float? y = some point.y ∧
        required Json.float? z = some point.z := by
  cases point
  unfold ofJson?
  split
  · rename_i fields
    simp [fields, Option.bind_eq_some_iff]
  · simp_all

theorem codec : Codec Finite toJson ofJson? where
  written_proper _ := by
    refine .obj ?_
    simp only [List.forall_mem_cons]
    exact ⟨float_codec.written_proper _, float_codec.written_proper _,
      float_codec.written_proper _, List.forall_mem_nil _⟩
  unread_null := rfl
  reshaped finite reshaped := by
    obtain ⟨_, fields, given⟩ := reshaped.fields (by simp)
    obtain _ | ⟨x, _ | ⟨y, _ | ⟨z, _ | _⟩⟩⟩ := given
    exact ofJson?_eq_some_iff.mpr ⟨_, _, _, fields, float_codec.required.reshaped finite.x x,
      float_codec.required.reshaped finite.y y, float_codec.required.reshaped finite.z z⟩
  writable_of_read proper read := by
    obtain ⟨_, _, _, fields, x, y, z⟩ := ofJson?_eq_some_iff.mp read
    have proper := proper.fields fields
    simp only [List.forall_mem_cons] at proper
    obtain ⟨first, second, third, _⟩ := proper
    exact ⟨float_codec.required.writable_of_read first x,
      float_codec.required.writable_of_read second y,
      float_codec.required.writable_of_read third z⟩

end Position

namespace PixelIndex

theorem ofJson?_eq_some_iff {json : Json} {pixel : PixelIndex} :
    ofJson? json = some pixel ↔
      ∃ x y, json.fields? ["x", "y"] = some [x, y] ∧
        required Json.word32? x = some pixel.x ∧ required Json.word32? y = some pixel.y := by
  cases pixel
  unfold ofJson?
  split
  · rename_i fields
    simp [fields, Option.bind_eq_some_iff]
  · simp_all

theorem codec : Codec (fun _ => True) toJson ofJson? where
  written_proper _ := by
    refine .obj ?_
    simp only [List.forall_mem_cons]
    exact ⟨word32_codec.written_proper _, word32_codec.written_proper _, List.forall_mem_nil _⟩
  unread_null := rfl
  reshaped _ reshaped := by
    obtain ⟨_, fields, given⟩ := reshaped.fields (by simp)
    obtain _ | ⟨x, _ | ⟨y, _ | _⟩⟩ := given
    exact ofJson?_eq_some_iff.mpr ⟨_, _, fields, word32_codec.required.reshaped trivial x,
      word32_codec.required.reshaped trivial y⟩
  writable_of_read _ _ := trivial

end PixelIndex

theorem Carrier.codec : Codec (fun _ => True) Carrier.toJson Carrier.ofJson? where
  written_proper carrier := by cases carrier <;> exact .str _
  unread_null := rfl
  reshaped {carrier json} _ reshaped := by
    cases carrier <;> cases reshaped <;> rfl
  writable_of_read _ _ := trivial

theorem LaneId.codec : Codec (fun _ => True) LaneId.toJson LaneId.ofJson? where
  written_proper lane := word16_codec.written_proper lane.index
  unread_null := rfl
  reshaped _ reshaped := by
    rw [LaneId.ofJson?, word16_codec.reshaped trivial reshaped]
    rfl
  writable_of_read _ _ := trivial

/-- Indices into messages are integers, so they never look absent. -/
theorem index_field : FieldCodec (fun _ => True) writtenIndex (optional Json.word64?) :=
  word64_codec.optional fun _ => Json.noConfusion

/-! ## Records -/

namespace Track

structure Finite (track : Track) : Prop where
  origin : track.origin.Finite
  energy : track.energy.isFinite = true

theorem ofJson?_eq_some_iff {json : Json} {track : Track} :
    ofJson? json = some track ↔
      ∃ particleId origin energy parent,
        json.fields? ["particle_id", "origin", "initial_kinetic_energy_kev", "parent"] =
          some [particleId, origin, energy, parent] ∧
        required Json.int32? particleId = some track.particleId ∧
        required Position.ofJson? origin = some track.origin ∧
        required Json.float? energy = some track.energy ∧
        optional Json.word64? parent = some track.parent := by
  cases track
  unfold ofJson?
  split
  · rename_i fields
    simp [fields, Option.bind_eq_some_iff]
  · simp_all

theorem codec : Codec Finite toJson ofJson? where
  written_proper _ := by
    refine .obj ?_
    simp only [List.forall_mem_cons]
    exact ⟨int32_codec.written_proper _, Position.codec.written_proper _,
      float_codec.written_proper _, index_field.written_proper _, List.forall_mem_nil _⟩
  unread_null := rfl
  reshaped finite reshaped := by
    obtain ⟨_, fields, given⟩ := reshaped.fields (by simp)
    obtain _ | ⟨particleId, _ | ⟨origin, _ | ⟨energy, _ | ⟨parent, _ | _⟩⟩⟩⟩ := given
    exact ofJson?_eq_some_iff.mpr ⟨_, _, _, _, fields,
      int32_codec.required.reshaped trivial particleId,
      Position.codec.required.reshaped finite.origin origin,
      float_codec.required.reshaped finite.energy energy, index_field.reshaped trivial parent⟩
  writable_of_read proper read := by
    obtain ⟨_, _, _, _, fields, _, origin, energy, _⟩ := ofJson?_eq_some_iff.mp read
    have proper := proper.fields fields
    simp only [List.forall_mem_cons] at proper
    obtain ⟨_, second, third, _⟩ := proper
    exact ⟨Position.codec.required.writable_of_read second origin,
      float_codec.required.writable_of_read third energy⟩

end Track

namespace Particle

structure Finite (particle : Particle) : Prop where
  localBegin : particle.localBegin.Finite
  globalBegin : particle.globalBegin.Finite
  localEnd : particle.localEnd.Finite
  globalEnd : particle.globalEnd.Finite

theorem ofJson?_eq_some_iff {json : Json} {particle : Particle} :
    ofJson? json = some particle ↔
      ∃ localBegin globalBegin localEnd globalEnd particleId parent,
        json.fields? ["local_begin_point", "global_begin_point", "local_end_point",
            "global_end_point", "particle_id", "parent"] =
          some [localBegin, globalBegin, localEnd, globalEnd, particleId, parent] ∧
        required Position.ofJson? localBegin = some particle.localBegin ∧
        required Position.ofJson? globalBegin = some particle.globalBegin ∧
        required Position.ofJson? localEnd = some particle.localEnd ∧
        required Position.ofJson? globalEnd = some particle.globalEnd ∧
        required Json.int32? particleId = some particle.particleId ∧
        optional Json.word64? parent = some particle.parent := by
  cases particle
  unfold ofJson?
  split
  · rename_i fields
    simp [fields, Option.bind_eq_some_iff]
  · simp_all

theorem codec : Codec Finite toJson ofJson? where
  written_proper _ := by
    refine .obj ?_
    simp only [List.forall_mem_cons]
    exact ⟨Position.codec.written_proper _, Position.codec.written_proper _,
      Position.codec.written_proper _, Position.codec.written_proper _,
      int32_codec.written_proper _, index_field.written_proper _, List.forall_mem_nil _⟩
  unread_null := rfl
  reshaped finite reshaped := by
    obtain ⟨_, fields, given⟩ := reshaped.fields (by simp)
    obtain _ | ⟨localBegin, _ | ⟨globalBegin, _ | ⟨localEnd, _ | ⟨globalEnd, _ | ⟨particleId, _ |
      ⟨parent, _ | _⟩⟩⟩⟩⟩⟩ := given
    exact ofJson?_eq_some_iff.mpr ⟨_, _, _, _, _, _, fields,
      Position.codec.required.reshaped finite.localBegin localBegin,
      Position.codec.required.reshaped finite.globalBegin globalBegin,
      Position.codec.required.reshaped finite.localEnd localEnd,
      Position.codec.required.reshaped finite.globalEnd globalEnd,
      int32_codec.required.reshaped trivial particleId, index_field.reshaped trivial parent⟩
  writable_of_read proper read := by
    obtain ⟨_, _, _, _, _, _, fields, localBegin, globalBegin, localEnd, globalEnd, _⟩ :=
      ofJson?_eq_some_iff.mp read
    have proper := proper.fields fields
    simp only [List.forall_mem_cons] at proper
    obtain ⟨first, second, third, fourth, _⟩ := proper
    exact ⟨Position.codec.required.writable_of_read first localBegin,
      Position.codec.required.writable_of_read second globalBegin,
      Position.codec.required.writable_of_read third localEnd,
      Position.codec.required.writable_of_read fourth globalEnd⟩

end Particle

namespace Deposit

structure Finite (deposit : Deposit) : Prop where
  localPosition : deposit.localPosition.Finite
  globalPosition : deposit.globalPosition.Finite
  time : deposit.time.isFinite = true

theorem ofJson?_eq_some_iff {json : Json} {deposit : Deposit} :
    ofJson? json = some deposit ↔
      ∃ localPosition globalPosition carrier charge time particle,
        json.fields? ["local_position", "global_position", "carrier", "charge", "event_time_ns",
            "mc_particle"] =
          some [localPosition, globalPosition, carrier, charge, time, particle] ∧
        required Position.ofJson? localPosition = some deposit.localPosition ∧
        required Position.ofJson? globalPosition = some deposit.globalPosition ∧
        required Carrier.ofJson? carrier = some deposit.carrier ∧
        required Json.word32? charge = some deposit.charge ∧
        required Json.float? time = some deposit.time ∧
        optional Json.word64? particle = some deposit.particle := by
  cases deposit
  unfold ofJson?
  split
  · rename_i fields
    simp [fields, Option.bind_eq_some_iff]
  · simp_all

theorem codec : Codec Finite toJson ofJson? where
  written_proper _ := by
    refine .obj ?_
    simp only [List.forall_mem_cons]
    exact ⟨Position.codec.written_proper _, Position.codec.written_proper _,
      Carrier.codec.written_proper _, word32_codec.written_proper _,
      float_codec.written_proper _, index_field.written_proper _, List.forall_mem_nil _⟩
  unread_null := rfl
  reshaped finite reshaped := by
    obtain ⟨_, fields, given⟩ := reshaped.fields (by simp)
    obtain _ | ⟨localPosition, _ | ⟨globalPosition, _ | ⟨carrier, _ | ⟨charge, _ | ⟨time, _ |
      ⟨particle, _ | _⟩⟩⟩⟩⟩⟩ := given
    exact ofJson?_eq_some_iff.mpr ⟨_, _, _, _, _, _, fields,
      Position.codec.required.reshaped finite.localPosition localPosition,
      Position.codec.required.reshaped finite.globalPosition globalPosition,
      Carrier.codec.required.reshaped trivial carrier,
      word32_codec.required.reshaped trivial charge,
      float_codec.required.reshaped finite.time time, index_field.reshaped trivial particle⟩
  writable_of_read proper read := by
    obtain ⟨_, _, _, _, _, _, fields, localPosition, globalPosition, _, _, time, _⟩ :=
      ofJson?_eq_some_iff.mp read
    have proper := proper.fields fields
    simp only [List.forall_mem_cons] at proper
    obtain ⟨first, second, _, _, fifth, _⟩ := proper
    exact ⟨Position.codec.required.writable_of_read first localPosition,
      Position.codec.required.writable_of_read second globalPosition,
      float_codec.required.writable_of_read fifth time⟩

end Deposit

namespace PixelCharge

def Finite (record : PixelCharge) : Prop :=
  record.charge.isFinite = true

theorem ofJson?_eq_some_iff {json : Json} {record : PixelCharge} :
    ofJson? json = some record ↔
      ∃ pixel charge, json.fields? ["pixel", "charge"] = some [pixel, charge] ∧
        required PixelIndex.ofJson? pixel = some record.pixel ∧
        required Json.float? charge = some record.charge := by
  cases record
  unfold ofJson?
  split
  · rename_i fields
    simp [fields, Option.bind_eq_some_iff]
  · simp_all

theorem codec : Codec Finite toJson ofJson? where
  written_proper _ := by
    refine .obj ?_
    simp only [List.forall_mem_cons]
    exact ⟨PixelIndex.codec.written_proper _, float_codec.written_proper _,
      List.forall_mem_nil _⟩
  unread_null := rfl
  reshaped finite reshaped := by
    obtain ⟨_, fields, given⟩ := reshaped.fields (by simp)
    obtain _ | ⟨pixel, _ | ⟨charge, _ | _⟩⟩ := given
    exact ofJson?_eq_some_iff.mpr ⟨_, _, fields,
      PixelIndex.codec.required.reshaped trivial pixel,
      float_codec.required.reshaped finite charge⟩
  writable_of_read proper read := by
    obtain ⟨_, _, fields, _, charge⟩ := ofJson?_eq_some_iff.mp read
    have proper := proper.fields fields
    simp only [List.forall_mem_cons] at proper
    exact float_codec.required.writable_of_read proper.2.1 charge

end PixelCharge

namespace PixelHit

def Finite (hit : PixelHit) : Prop :=
  hit.time.isFinite = true

theorem ofJson?_eq_some_iff {json : Json} {hit : PixelHit} :
    ofJson? json = some hit ↔
      ∃ pixel time signal,
        json.fields? ["pixel", "time_ns", "signal"] = some [pixel, time, signal] ∧
        required PixelIndex.ofJson? pixel = some hit.pixel ∧
        required Json.float? time = some hit.time ∧
        required Json.word32? signal = some hit.signal := by
  cases hit
  unfold ofJson?
  split
  · rename_i fields
    simp [fields, Option.bind_eq_some_iff]
  · simp_all

theorem codec : Codec Finite toJson ofJson? where
  written_proper _ := by
    refine .obj ?_
    simp only [List.forall_mem_cons]
    exact ⟨PixelIndex.codec.written_proper _, float_codec.written_proper _,
      word32_codec.written_proper _, List.forall_mem_nil _⟩
  unread_null := rfl
  reshaped finite reshaped := by
    obtain ⟨_, fields, given⟩ := reshaped.fields (by simp)
    obtain _ | ⟨pixel, _ | ⟨time, _ | ⟨signal, _ | _⟩⟩⟩ := given
    exact ofJson?_eq_some_iff.mpr ⟨_, _, _, fields,
      PixelIndex.codec.required.reshaped trivial pixel,
      float_codec.required.reshaped finite time, word32_codec.required.reshaped trivial signal⟩
  writable_of_read proper read := by
    obtain ⟨_, _, _, fields, _, time, _⟩ := ofJson?_eq_some_iff.mp read
    have proper := proper.fields fields
    simp only [List.forall_mem_cons] at proper
    exact float_codec.required.writable_of_read proper.2.1 time

end PixelHit

/-! ## Detectors -/

theorem Json.Codec.pair {α : Type} {writable : α → Prop} {write : α → Json}
    {read? : Json → Option α} (codec : Codec writable write read?) :
    Codec (fun values : α × α => writable values.1 ∧ writable values.2)
      (fun values => .arr [write values.1, write values.2]) (Json.pair? read?) where
  written_proper values := by
    refine .arr ?_
    simp only [List.forall_mem_cons]
    exact ⟨codec.written_proper _, codec.written_proper _, List.forall_mem_nil _⟩
  unread_null := rfl
  reshaped {values json} holds reshaped := by
    cases reshaped with
    | same => simp [Json.pair?, codec.restored holds.1, codec.restored holds.2]
    | tuple each =>
      obtain _ | ⟨first, _ | ⟨second, _ | _⟩⟩ := each
      simp [Json.pair?, codec.reshaped holds.1 first, codec.reshaped holds.2 second]
  writable_of_read {json values} proper read := by
    unfold Json.pair? at read
    split at read
    · cases proper with
      | arr each =>
        simp only [List.forall_mem_cons] at each
        simp only [Option.bind_eq_bind, Option.bind_eq_some_iff] at read
        obtain ⟨first, one, second, other, made⟩ := read
        cases made
        exact ⟨codec.writable_of_read each.1 one, codec.writable_of_read each.2.1 other⟩
    · cases read

namespace Detector

structure Finite (detector : Detector) : Prop where
  position : detector.position.Finite
  pitch : detector.pitch.1.isFinite = true ∧ detector.pitch.2.isFinite = true
  thickness : detector.thickness.isFinite = true

theorem ofJson?_eq_some_iff {json : Json} {detector : Detector} :
    ofJson? json = some detector ↔
      ∃ name model position pixels pitch thickness,
        json.fields? ["name", "model", "position", "pixels", "pitch", "thickness"] =
          some [name, model, position, pixels, pitch, thickness] ∧
        required Json.text? name = some detector.name ∧
        required Json.text? model = some detector.model ∧
        required Position.ofJson? position = some detector.position ∧
        required (Json.pair? Json.word32?) pixels = some detector.pixels ∧
        required (Json.pair? Json.float?) pitch = some detector.pitch ∧
        required Json.float? thickness = some detector.thickness := by
  cases detector
  unfold ofJson?
  split
  · rename_i fields
    simp [fields, Option.bind_eq_some_iff, -Prod.exists]
  · simp_all

theorem codec : Codec Finite toJson ofJson? where
  written_proper _ := by
    refine .obj ?_
    simp only [List.forall_mem_cons]
    exact ⟨text_codec.written_proper _, text_codec.written_proper _,
      Position.codec.written_proper _, word32_codec.pair.written_proper (_, _),
      float_codec.pair.written_proper (_, _), float_codec.written_proper _, List.forall_mem_nil _⟩
  unread_null := rfl
  reshaped finite reshaped := by
    obtain ⟨_, fields, given⟩ := reshaped.fields (by simp)
    obtain _ | ⟨name, _ | ⟨model, _ | ⟨position, _ | ⟨pixels, _ | ⟨pitch, _ |
      ⟨thickness, _ | _⟩⟩⟩⟩⟩⟩ := given
    exact ofJson?_eq_some_iff.mpr ⟨_, _, _, _, _, _, fields,
      text_codec.required.reshaped trivial name, text_codec.required.reshaped trivial model,
      Position.codec.required.reshaped finite.position position,
      word32_codec.pair.required.reshaped ⟨trivial, trivial⟩ pixels,
      float_codec.pair.required.reshaped finite.pitch pitch,
      float_codec.required.reshaped finite.thickness thickness⟩
  writable_of_read proper read := by
    obtain ⟨_, _, _, _, _, _, fields, _, _, position, _, pitch, thickness⟩ :=
      ofJson?_eq_some_iff.mp read
    have proper := proper.fields fields
    simp only [List.forall_mem_cons] at proper
    obtain ⟨_, _, third, _, fifth, sixth, _⟩ := proper
    exact ⟨Position.codec.required.writable_of_read third position,
      float_codec.pair.required.writable_of_read fifth pitch,
      float_codec.required.writable_of_read sixth thickness⟩

end Detector

/-! ## Round trips -/

/-- Records of every kind are recovered from what they are written as just if they are finite, and
then from its other forms too. Whatever value a record was read from, it is read again from what it
is written as, so that normal forms stay as they are. -/
theorem records_round_trip :
    RoundTrips Position.Finite Position.toJson Position.ofJson? ∧
    RoundTrips (fun _ => True) PixelIndex.toJson PixelIndex.ofJson? ∧
    RoundTrips (fun _ => True) Carrier.toJson Carrier.ofJson? ∧
    RoundTrips (fun _ => True) LaneId.toJson LaneId.ofJson? ∧
    RoundTrips Track.Finite Track.toJson Track.ofJson? ∧
    RoundTrips Particle.Finite Particle.toJson Particle.ofJson? ∧
    RoundTrips Deposit.Finite Deposit.toJson Deposit.ofJson? ∧
    RoundTrips PixelCharge.Finite PixelCharge.toJson PixelCharge.ofJson? ∧
    RoundTrips PixelHit.Finite PixelHit.toJson PixelHit.ofJson? ∧
    RoundTrips Detector.Finite Detector.toJson Detector.ofJson? :=
  ⟨Position.codec.roundTrips, PixelIndex.codec.roundTrips, Carrier.codec.roundTrips,
    LaneId.codec.roundTrips, Track.codec.roundTrips, Particle.codec.roundTrips,
    Deposit.codec.roundTrips, PixelCharge.codec.roundTrips, PixelHit.codec.roundTrips,
    Detector.codec.roundTrips⟩

def someCharge : PixelCharge where
  pixel := { x := 2, y := 3 }
  charge := Float.ofInt 40

/-- The same charge as an array, whose amount is an integer and whose pixel has its members in
another order and one too many. -/
def looseCharge : Json :=
  .arr [.obj [("y", .int 3), ("label", .str "spare"), ("x", .int 2)], .int 40]

private theorem looseCharge_proper : looseCharge.Proper := by
  refine .arr ?_
  simp only [List.forall_mem_cons]
  refine ⟨.obj ?_, .int (by decide) (by decide), List.forall_mem_nil _⟩
  simp only [List.forall_mem_cons]
  exact ⟨.int (by decide) (by decide), .str _, .int (by decide) (by decide),
    List.forall_mem_nil _⟩

theorem someCharge_finite : someCharge.Finite :=
  Number.isFinite_ofInt (by decide) (by decide)

private theorem someCharge_reshaped : Json.Reshaped someCharge.toJson looseCharge := by
  have amount : Json.ofFloat someCharge.charge = .float (Float.ofInt 40) := if_pos someCharge_finite
  rw [PixelCharge.toJson, amount]
  refine .array (.cons (.object ?_ ?_) (.cons (.whole 40) .nil))
  · simp only [List.forall_mem_cons]
    refine ⟨?_, ?_, List.forall_mem_nil _⟩
    · rintro _ ⟨⟩
      exact .same _
    · rintro _ ⟨⟩
      exact .same _
  · simp only [List.forall_mem_cons]
    refine ⟨?_, ?_, List.forall_mem_nil _⟩
    · rintro ⟨⟩
    · rintro ⟨⟩

/-- The charge is recovered from either form, and the loose one has the other as its normal form. -/
theorem someCharge_recovered :
    PixelCharge.ofJson? someCharge.toJson = some someCharge ∧
    PixelCharge.ofJson? looseCharge = some someCharge ∧
    Json.normalized PixelCharge.toJson PixelCharge.ofJson? looseCharge =
      some someCharge.toJson := by
  obtain ⟨_, _, _, _, _, _, _, charges, _⟩ := records_round_trip
  have read := charges.reshaped _ _ someCharge_finite someCharge_reshaped
  refine ⟨charges.reread looseCharge _ looseCharge_proper read, read, ?_⟩
  rw [Json.normalized, read, Option.map_some]

end Beamline
