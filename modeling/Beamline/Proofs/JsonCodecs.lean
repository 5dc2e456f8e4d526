import Beamline.Json.Value
import Beamline.Proofs.FloatRange

namespace Beamline.Json

/-- The values that a JSON document can have: integers have 64 bits, other numbers are finite. -/
inductive Proper : Json → Prop
  | null : Proper .null
  | bool (value : Bool) : Proper (.bool value)
  | int {value : Int} (least : -2 ^ 63 ≤ value) (greatest : value < 2 ^ 64) : Proper (.int value)
  | float {value : Float} (finite : value.isFinite = true) : Proper (.float value)
  | str (value : String) : Proper (.str value)
  | arr {items : List Json} (each : ∀ item ∈ items, Proper item) : Proper (.arr items)
  | obj {members : List (String × Json)} (each : ∀ member ∈ members, Proper member.2) :
      Proper (.obj members)

/-! ## Fields -/

/-- A field holds a proper value, or is missing. -/
def ProperField (field : Option Json) : Prop :=
  ∀ json ∈ field, json.Proper

private theorem properField_lookup {members : List (String × Json)} {name : String}
    (each : ∀ member ∈ members, Proper member.2) : ProperField (members.lookup name) := by
  intro json found
  obtain ⟨_, _, split, _⟩ := List.lookup_eq_some_iff.mp found
  exact each (name, json) (by rw [split]; simp)

/-- The fields of a proper value are proper, whichever way it gives them. -/
theorem Proper.fields {json : Json} {names : List String} {fields : List (Option Json)}
    (proper : json.Proper) (given : json.fields? names = some fields) :
    ∀ field ∈ fields, ProperField field := by
  intro field mem
  cases proper with
  | null | bool | int | float | str => cases given
  | arr each =>
    simp only [fields?] at given
    split at given
    · cases given
      obtain ⟨item, present, rfl⟩ := List.mem_map.mp mem
      intro json same
      cases same
      exact each item present
    · cases given
  | obj each =>
    cases given
    obtain ⟨name, _, rfl⟩ := List.mem_map.mp mem
    exact properField_lookup each

private theorem lookup_of_mem {members : List (String × Json)} {member : String × Json}
    (distinct : (members.map Prod.fst).Nodup) (mem : member ∈ members) :
    members.lookup member.1 = some member.2 := by
  induction members with
  | nil => cases mem
  | cons first rest ih =>
    rw [List.map_cons, List.nodup_cons] at distinct
    rw [List.lookup_cons]
    cases mem with
    | head => rw [beq_self_eq_true]
    | tail _ mem =>
      have other : (member.1 == first.1) = false := by
        rw [beq_eq_false_iff_ne]
        intro same
        exact distinct.1 (same ▸ List.mem_map_of_mem mem)
      rw [other]
      exact ih distinct.2 mem

/-- An object with distinct keys gives the values of all its members under their own keys. -/
theorem fields?_obj {members : List (String × Json)} (distinct : (members.map Prod.fst).Nodup) :
    (Json.obj members).fields? (members.map Prod.fst) =
      some (members.map fun member => some member.2) := by
  change some ((members.map Prod.fst).map fun name => members.lookup name) = _
  rw [List.map_map]
  exact congrArg some (List.map_congr_left fun member mem => lookup_of_mem distinct mem)

/-! ## Other forms -/

/-- Other forms of a value, at any depth: a whole number as an integer, and the members of an object
in any order and among others, where one that is null may be missing, or their values alone as an
array. -/
inductive Reshaped : Json → Json → Prop
  | same (json : Json) : Reshaped json json
  | whole (value : Int) : Reshaped (.float (Float.ofInt value)) (.int value)
  | tuple {items others : List Json} (each : List.Forall₂ Reshaped items others) :
      Reshaped (.arr items) (.arr others)
  | array {members : List (String × Json)} {items : List Json}
      (each : List.Forall₂ (fun member item => Reshaped member.2 item) members items) :
      Reshaped (.obj members) (.arr items)
  | object {members others : List (String × Json)}
      (given : ∀ member ∈ members, ∀ other, others.lookup member.1 = some other →
        Reshaped member.2 other)
      (missing : ∀ member ∈ members, others.lookup member.1 = none → member.2 = .null) :
      Reshaped (.obj members) (.obj others)

/-- Other forms of a field. -/
inductive ReshapedField : Json → Option Json → Prop
  | given {json other : Json} (reshaped : Reshaped json other) : ReshapedField json (some other)
  | missing : ReshapedField .null none

private theorem Reshaped.ne_null {json other : Json} (reshaped : Reshaped json other)
    (shown : json ≠ .null) : other ≠ .null := by
  cases reshaped with
  | same => exact shown
  | whole | tuple | array | object => exact Json.noConfusion

/-- In every form an object gives its members as fields. -/
theorem Reshaped.fields {members : List (String × Json)} {json : Json}
    (reshaped : Reshaped (.obj members) json) (distinct : (members.map Prod.fst).Nodup) :
    ∃ fields, json.fields? (members.map Prod.fst) = some fields ∧
      List.Forall₂ (fun member field => ReshapedField member.2 field) members fields := by
  cases reshaped with
  | same =>
    refine ⟨_, fields?_obj distinct, List.forall₂_map_right_iff.mpr ?_⟩
    exact List.forall₂_same.mpr fun member _ => .given (.same member.2)
  | @array _ items each =>
    have long : items.length = (members.map Prod.fst).length := by
      rw [List.length_map, each.length_eq]
    refine ⟨items.map some, if_pos long, List.forall₂_map_right_iff.mpr ?_⟩
    exact each.imp fun _ _ reshaped => .given reshaped
  | @object _ others given missing =>
    refine ⟨members.map fun member => others.lookup member.1, ?_,
      List.forall₂_map_right_iff.mpr (List.forall₂_same.mpr fun member mem => ?_)⟩
    · exact congrArg some List.map_map
    · cases found : others.lookup member.1 with
      | none =>
        rw [missing member mem found]
        exact .missing
      | some other => exact .given (given member mem other found)

/-! ## Codecs -/

/-- Writing gives proper values, from which in every form what is writable is read back, and what
is read from any proper value is writable. -/
structure Codec {α : Type} (writable : α → Prop) (write : α → Json)
    (read? : Json → Option α) : Prop where
  written_proper : ∀ value, (write value).Proper
  unread_null : read? .null = none
  reshaped : ∀ {value json}, writable value → Reshaped (write value) json →
    read? json = some value
  writable_of_read : ∀ {json value}, json.Proper → read? json = some value → writable value

/-- The same for a value that is a field of a record. -/
structure FieldCodec {α : Type} (writable : α → Prop) (write : α → Json)
    (read? : Option Json → Option α) : Prop where
  written_proper : ∀ value, (write value).Proper
  reshaped : ∀ {value field}, writable value → ReshapedField (write value) field →
    read? field = some value
  writable_of_read : ∀ {field value}, ProperField field → read? field = some value →
    writable value

/-- A JSON value as it is written after it was read. -/
def normalized {α : Type} (write : α → Json) (read? : Json → Option α) (json : Json) :
    Option Json :=
  (read? json).map write

/-- Values and JSON values go to and fro. -/
structure RoundTrips {α : Type} (finite : α → Prop) (write : α → Json)
    (read? : Json → Option α) : Prop where
  /-- The finite values, and no others, are recovered. -/
  recovered : ∀ value, read? (write value) = some value ↔ finite value
  /-- A finite value is also recovered from other forms of what is written. -/
  reshaped : ∀ value json, finite value → Reshaped (write value) json → read? json = some value
  /-- Whatever a value was read from, it is read again from its written form. -/
  reread : ∀ json value, json.Proper → read? json = some value →
    read? (write value) = some value
  /-- To normalize a second time changes nothing. -/
  settled : ∀ json : Json, json.Proper →
    (normalized write read? json).bind (normalized write read?) = normalized write read? json

section

variable {α : Type} {writable : α → Prop} {write : α → Json} {read? : Json → Option α}

theorem Codec.restored (codec : Codec writable write read?) {value : α} (holds : writable value) :
    read? (write value) = some value :=
  codec.reshaped holds (.same _)

theorem Codec.recovered (codec : Codec writable write read?) (value : α) :
    read? (write value) = some value ↔ writable value :=
  ⟨codec.writable_of_read (codec.written_proper value), codec.restored⟩

private theorem Codec.normalized_written (codec : Codec writable write read?) {value : α}
    (holds : writable value) : normalized write read? (write value) = some (write value) := by
  rw [normalized, codec.restored holds]
  rfl

theorem Codec.roundTrips (codec : Codec writable write read?) :
    RoundTrips writable write read? where
  recovered := codec.recovered
  reshaped _ _ := codec.reshaped
  reread json value proper read := codec.restored (codec.writable_of_read proper read)
  settled json proper := by
    cases read : read? json with
    | none => rw [normalized, read, Option.map_none, Option.bind_none]
    | some value =>
      have holds := codec.writable_of_read proper read
      rw [normalized, read, Option.map_some, Option.bind_some, codec.normalized_written holds]

theorem Codec.required (codec : Codec writable write read?) :
    FieldCodec writable write (required read?) where
  written_proper := codec.written_proper
  reshaped {value field} holds given := by
    generalize same : write value = written at given
    cases given with
    | given reshaped => exact codec.reshaped holds (same ▸ reshaped)
    | missing =>
      have restored := codec.restored holds
      rw [same, codec.unread_null] at restored
      cases restored
  writable_of_read proper read := by
    obtain ⟨json, present, read⟩ := Option.bind_eq_some_iff.mp read
    exact codec.writable_of_read (proper json present) read

private theorem optional_eq_some {json : Json} (shown : json ≠ .null) :
    optional read? (some json) = (read? json).map some := by
  cases json with
  | null => exact absurd rfl shown
  | bool | int | float | str | arr | obj => rfl

/-- A value may be left out if it is never written as null. -/
theorem Codec.optional (codec : Codec (fun _ => True) write read?)
    (shown : ∀ value, write value ≠ .null) :
    FieldCodec (fun _ => True) (ofOption write) (optional read?) where
  written_proper value := by
    cases value with
    | none => exact .null
    | some held => exact codec.written_proper held
  reshaped {value field} _ given := by
    cases value with
    | none =>
      cases given with
      | given reshaped =>
        cases reshaped
        rfl
      | missing => rfl
    | some held =>
      rw [ofOption] at given
      generalize same : write held = written at given
      cases given with
      | given reshaped =>
        rw [optional_eq_some (reshaped.ne_null (same ▸ shown held)),
          codec.reshaped trivial (same ▸ reshaped)]
        rfl
      | missing => exact absurd same (shown held)
  writable_of_read _ _ := trivial

end

/-! ## Numbers and texts -/

theorem float_codec : Codec (fun value => value.isFinite = true) ofFloat float? where
  written_proper value := by
    unfold ofFloat
    split
    · exact .float ‹_›
    · exact .null
  unread_null := rfl
  reshaped {value json} finite reshaped := by
    rw [ofFloat, if_pos finite] at reshaped
    cases reshaped with
    | same => rfl
    | whole => rfl
  writable_of_read proper read := by
    cases proper with
    | int least greatest =>
      cases read
      exact Number.isFinite_ofInt least greatest
    | float finite =>
      cases read
      exact finite
    | null | bool | str | arr | obj => cases read

private theorem integer?_int {value least greatest : Int} (above : least ≤ value)
    (below : value ≤ greatest) : (Json.int value).integer? least greatest = some value :=
  if_pos ⟨above, below⟩

section

variable {α : Type}

/-- What is written as an integer in the range of its type is read back. -/
theorem Codec.ofInteger {least greatest : Int} {number : α → Int} {make : Int → α}
    (lowest : -2 ^ 63 ≤ least) (highest : greatest < 2 ^ 64)
    (above : ∀ value, least ≤ number value) (below : ∀ value, number value ≤ greatest)
    (made : ∀ value, make (number value) = value) :
    Codec (fun _ => True) (fun value => .int (number value))
      (fun json => (json.integer? least greatest).map make) where
  written_proper value :=
    .int (lowest.trans (above value)) ((below value).trans_lt highest)
  unread_null := rfl
  reshaped {value json} _ reshaped := by
    cases reshaped
    rw [integer?_int (above value) (below value)]
    exact congrArg some (made value)
  writable_of_read _ _ := trivial

theorem Codec.ofWord {greatest : Nat} {number : α → Nat} {make : Nat → α}
    (highest : greatest < 2 ^ 64) (below : ∀ value, number value < greatest + 1)
    (made : ∀ value, make (number value) = value) :
    Codec (fun _ => True) (fun value => ofNat (number value))
      (fun json => (json.integer? 0 greatest).map fun value => make value.toNat) :=
  .ofInteger (by decide) (Int.ofNat_lt.mpr highest) (fun _ => Int.natCast_nonneg _)
    (fun value => Int.ofNat_le.mpr (Nat.le_of_lt_succ (below value))) made

end

theorem word16_codec : Codec (fun _ => True) (fun word : UInt16 => .ofNat word.toNat) word16? :=
  .ofWord (by decide) UInt16.toNat_lt fun _ => UInt16.ofNat_toNat

theorem word32_codec : Codec (fun _ => True) (fun word : UInt32 => .ofNat word.toNat) word32? :=
  .ofWord (by decide) UInt32.toNat_lt fun _ => UInt32.ofNat_toNat

theorem word64_codec : Codec (fun _ => True) (fun word : UInt64 => .ofNat word.toNat) word64? :=
  .ofWord (by decide) UInt64.toNat_lt fun _ => UInt64.ofNat_toNat

theorem int32_codec : Codec (fun _ => True) (fun number : Int32 => .int number.toInt) int32? :=
  .ofInteger (by decide) (by decide) Int32.le_toInt
    (fun number => Int.le_sub_one_of_lt number.toInt_lt) Int32.ofInt_toInt

theorem text_codec : Codec (fun _ => True) .str text? where
  written_proper := .str
  unread_null := rfl
  reshaped _ reshaped := by
    cases reshaped
    rfl
  writable_of_read _ _ := trivial

end Beamline.Json
