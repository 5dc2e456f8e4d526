import Beamline.Proofs.Delivery

/-!
One delegate on two buses, under two numbers. Users cannot tell such twins apart by anything else,
so what they see of two buses is alike if it differs in the numbers of twins alone.
-/

namespace Beamline.Bus

/-- The lane that uses a label, a slot, or a memory of filters. -/
structure Ownership where
  label : String → LaneId
  slot : Slot → LaneId
  memory : Nat → LaneId

/-- A binding with another filter in its place. -/
def Binding.map {F G : Type} (change : F → G) : Binding F → Binding G
  | .slot storage => .slot storage
  | .filter payload asked => .filter payload (change asked)
  | .anyFilter asked => .anyFilter (change asked)

/-- What a binding delivers to belongs to a lane: its slot, or the memory that its filter shares. -/
def Binding.OwnedBy (owner : Ownership) (lane : LaneId) : Binding Filter → Prop
  | .slot storage => owner.slot storage = lane
  | .filter _ asked | .anyFilter asked => ∀ memory ∈ asked.memory, owner.memory memory = lane

namespace Handle

def lane (handle : Handle) : LaneId :=
  handle.delegate.receiver.lane

/-- What a delegate delivers to belongs to the lane of its receiver. -/
def Owned (owner : Ownership) (handle : Handle) : Prop :=
  (handle.delegate.binding.map Installed.filter).OwnedBy owner handle.lane

theorem Owned.slot {owner : Ownership} {handle : Handle} (owned : handle.Owned owner) {slot : Slot}
    (bound : handle.delegate.binding = .slot slot) : owner.slot slot = handle.lane := by
  simpa [Owned, bound, Binding.map, Binding.OwnedBy] using owned

theorem Owned.of_place {owner : Ownership} {handle : Handle} (owned : handle.Owned owner)
    {slot : Slot} (place : handle.place = .slot slot) : owner.slot slot = handle.lane := by
  rw [Handle.place, Binding.place_eq_slot] at place
  cases bound : handle.delegate.binding <;>
    simp_all [Owned, Binding.map, Binding.OwnedBy, Binding.slot?]

theorem Owned.memory {owner : Ownership} {handle : Handle} (owned : handle.Owned owner)
    {installed : Installed} (bound : handle.delegate.binding.installed? = some installed) :
    ∀ memory ∈ installed.filter.memory, owner.memory memory = handle.lane := by
  cases taken : handle.delegate.binding <;>
    simp_all [Owned, Binding.map, Binding.OwnedBy, Binding.installed?]

/-- One delegate on two buses: bound in the same way, but perhaps under other numbers. -/
structure Twins (first second : Handle) : Prop where
  receiver : second.delegate.receiver = first.delegate.receiver
  flags : second.delegate.flags = first.delegate.flags
  binding : second.delegate.binding.map Installed.filter =
    first.delegate.binding.map Installed.filter

end Handle

/-- Errors that are equal, or that name a delegate and its twin. -/
inductive BusError.Alike (twins : List (Handle × Handle)) : BusError → BusError → Prop
  | same (error : BusError) : Alike twins error error
  | invalidBinding {pair : Handle × Handle} (member : pair ∈ twins)
      (text payload name : String) (reason : Refusal) :
      Alike twins (.invalidBinding (text ++ pair.1.idText) payload name reason)
        (.invalidBinding (text ++ pair.2.idText) payload name reason)
  | notRegistered {pair : Handle × Handle} (member : pair ∈ twins) (text : String) :
      Alike twins (.consistency (.notRegistered (text ++ pair.1.idText)))
        (.consistency (.notRegistered (text ++ pair.2.idText)))

/-- Results that are equal, or errors that are alike. -/
inductive ResultAlike {α : Type} (twins : List (Handle × Handle)) :
    Except BusError α → Except BusError α → Prop
  | ok (value : α) : ResultAlike twins (.ok value) (.ok value)
  | error {first second : BusError} (alike : first.Alike twins second) :
      ResultAlike twins (.error first) (.error second)

/-- Answers that differ in the numbers of delegates alone. -/
inductive Answer.Alike (twins : List (Handle × Handle)) : Answer → Answer → Prop
  | same (answer : Answer) : Alike twins answer answer
  | registered {pair : Handle × Handle} (member : pair ∈ twins) :
      Alike twins (.registered (.ok pair.1)) (.registered (.ok pair.2))
  | removed {pair : Handle × Handle} (member : pair ∈ twins) {first second : Except BusError Unit}
      (alike : ResultAlike twins first second) :
      Alike twins (.removed pair.1 first) (.removed pair.2 second)
  | dispatched {first second : Except BusError Report} (alike : ResultAlike twins first second) :
      Alike twins (.dispatched first) (.dispatched second)

section Growth

variable {twins more : List (Handle × Handle)} (grown : twins ⊆ more)

include grown

theorem BusError.Alike.mono {first second : BusError} (alike : first.Alike twins second) :
    first.Alike more second := by
  cases alike with
  | same => exact .same _
  | invalidBinding member => exact .invalidBinding (grown member) _ _ _ _
  | notRegistered member => exact .notRegistered (grown member) _

theorem ResultAlike.mono {α : Type} {first second : Except BusError α}
    (alike : ResultAlike twins first second) : ResultAlike more first second := by
  cases alike with
  | ok value => exact .ok value
  | error alike => exact .error (alike.mono grown)

/-- Answers stay alike when more twins are known. -/
theorem Answer.Alike.mono {first second : Answer} (alike : first.Alike twins second) :
    first.Alike more second := by
  cases alike with
  | same => exact .same _
  | registered member => exact .registered (grown member)
  | removed member alike => exact .removed (grown member) (alike.mono grown)
  | dispatched alike => exact .dispatched (alike.mono grown)

end Growth

namespace Handle.Twins

variable {first second : Handle}

theorem payload (twins : first.Twins second) :
    second.delegate.binding.payload = first.delegate.binding.payload := by
  have same := twins.binding
  cases bound : first.delegate.binding <;> cases other : second.delegate.binding <;>
    simp_all [Binding.map, Binding.payload]

theorem kind (twins : first.Twins second) :
    second.delegate.binding.kind = first.delegate.binding.kind := by
  have same := twins.binding
  cases bound : first.delegate.binding <;> cases other : second.delegate.binding <;>
    simp_all [Binding.map, Binding.kind]

theorem payloadName (twins : first.Twins second) :
    second.delegate.binding.payloadName = first.delegate.binding.payloadName := by
  rw [Binding.payloadName, Binding.payloadName, twins.payload]

/-- The names of twins differ in their numbers alone. -/
theorem bindingName (twins : first.Twins second) :
    bindingName second.delegate.receiver second.delegate.binding =
      bindingName first.delegate.receiver first.delegate.binding := by
  rw [Bus.bindingName, Bus.bindingName, twins.receiver, twins.kind, twins.payloadName]

theorem isTyped_iff (twins : first.Twins second) :
    second.delegate.IsTyped ↔ first.delegate.IsTyped := by
  rw [Delegate.IsTyped, Delegate.IsTyped, twins.payload]

theorem wants_iff (twins : first.Twins second) {source : Identity} {message : Message}
    {name : String} : second.delegate.Wants source message name ↔
      first.delegate.Wants source message name := by
  rw [Delegate.Wants, Delegate.Wants, twins.payload, twins.receiver, twins.flags]

theorem unmet (twins : first.Twins second) : second.unmet = first.unmet := by
  rw [Handle.unmet, Handle.unmet, Delegate.nameKey, Delegate.nameKey, twins.payloadName,
    twins.receiver, twins.flags]

/-- A slot is filled by both twins or by neither. -/
theorem place_eq_slot (twins : first.Twins second) {slot : Slot} :
    second.place = .slot slot ↔ first.place = .slot slot := by
  have same := twins.binding
  cases bound : first.delegate.binding <;> cases other : second.delegate.binding <;>
    simp_all [Binding.map, Handle.place, Binding.place]

theorem slot (twins : first.Twins second) {slot : Slot}
    (bound : first.delegate.binding = .slot slot) : second.delegate.binding = .slot slot := by
  have same := twins.binding
  cases other : second.delegate.binding <;> simp_all [Binding.map]

theorem filter (twins : first.Twins second) {payload : PayloadType} {installed : Installed}
    (bound : first.delegate.binding = .filter payload installed) : ∃ number,
      second.delegate.binding = .filter payload { installed with number } := by
  have same := twins.binding
  cases other : second.delegate.binding with
  | filter taken asked =>
    obtain ⟨number, asked⟩ := asked
    simp_all [Binding.map]
  | slot _ => simp_all [Binding.map]
  | anyFilter _ => simp_all [Binding.map]

theorem anyFilter (twins : first.Twins second) {installed : Installed}
    (bound : first.delegate.binding = .anyFilter installed) : ∃ number,
      second.delegate.binding = .anyFilter { installed with number } := by
  have same := twins.binding
  cases other : second.delegate.binding with
  | anyFilter asked =>
    obtain ⟨number, asked⟩ := asked
    simp_all [Binding.map]
  | slot _ => simp_all [Binding.map]
  | filter _ _ => simp_all [Binding.map]

theorem refused {twins : List (Handle × Handle)} {pair : Handle × Handle} (member : pair ∈ twins)
    (twin : pair.1.Twins pair.2) (name : String) :
    (pair.1.refused name).Alike twins (pair.2.refused name) := by
  rw [Handle.refused, Handle.refused, Handle.uniqueName, Handle.uniqueName, twin.bindingName,
    twin.payloadName]
  exact .invalidBinding member _ _ _ _

end Handle.Twins

end Beamline.Bus
