import Beamline.Proofs.DemoEvent
import Beamline.Proofs.LaneEvents
import Beamline.Proofs.Lists

namespace Beamline.Demo

open Bus Run

/-! ## The modules of a lane -/

inductive Role
  | generator
  | transfer (detector : Detector)
  | digitizer (detector : Detector)
  | reader
  | monitor

def roles (detectors : List Detector) : List Role :=
  .generator :: (detectors.map .transfer ++ detectors.map .digitizer ++ [.reader, .monitor])

/-- Whether a message comes from a detector, or from none. -/
def Suits (detector : Detector) (message : Message) : Prop :=
  ∀ origin ∈ message.detector, detector.name = origin.name

instance (detector : Detector) (message : Message) : Decidable (Suits detector message) :=
  inferInstanceAs (Decidable (∀ origin ∈ message.detector, detector.name = origin.name))

/-- How many delegates of a module take a message. -/
def Role.takes (message : Message) : Role → Nat
  | generator => 0
  | transfer detector => if message.type = .deposit ∧ Suits detector message then 1 else 0
  | digitizer detector => if message.type = .pixelCharge ∧ Suits detector message then 1 else 0
  | reader => if message.type = .deposit ∨ message.type = .particle then 1 else 0
  | monitor => 1

/-- An identity in a lane, without names for its messages. -/
structure Unnamed (lane : LaneId) (detector : Option Detector) (identity : Identity) : Prop where
  lane : identity.lane = lane
  detector : identity.detector = detector
  input : identity.input = ""
  output : identity.output = ""

def watching (tally id : Nat) (identity : Identity) (number : Nat) : Handle where
  id
  delegate := {
    receiver := identity
    flags := { ignoreName := true }
    binding := .anyFilter { number, filter := Monitor.watcher tally } }

/-- A module in its role, with the delegates that the role wants. -/
inductive Plays (tally : Nat) (lane : LaneId) (detectors : List Detector) (pipeline : Pipeline) :
    Role → Module Counters → Prop
  | generator (state : Counters) (identity : Identity) (unnamed : Unnamed lane none identity) :
    Plays tally lane detectors pipeline .generator {
      bindings := { identity }
      behaviour := Generator.behaviour detectors pipeline
      state }
  | transfer (state : Counters) (detector : Detector) (identity : Identity)
      (unnamed : Unnamed lane (some detector) identity) (id : Nat) (slot : Slot)
      (kind : slot.kind = .multi) (payload : slot.payload = .deposit) :
    Plays tally lane detectors pipeline (.transfer detector) {
      bindings := { identity, handles := [.ofSlot id identity slot {}] }
      behaviour := Transfer.behaviour detector slot
      state }
  | digitizer (state : Counters) (detector : Detector) (identity : Identity)
      (unnamed : Unnamed lane (some detector) identity) (id : Nat) (slot : Slot)
      (kind : slot.kind = .single) (payload : slot.payload = .pixelCharge) :
    Plays tally lane detectors pipeline (.digitizer detector) {
      bindings := { identity, handles := [.ofSlot id identity slot { required := true }] }
      behaviour := Digitizer.behaviour detector pipeline slot
      state }
  | reader (state : Counters) (identity : Identity) (unnamed : Unnamed lane none identity)
      (first second : Nat) (deposits particles : Slot)
      (depositsKind : deposits.kind = .multi) (depositsPayload : deposits.payload = .deposit)
      (particlesKind : particles.kind = .multi)
      (particlesPayload : particles.payload = .particle) :
    Plays tally lane detectors pipeline .reader {
      bindings := {
        identity
        handles := [.ofSlot first identity deposits {}, .ofSlot second identity particles {}] }
      behaviour := Reader.behaviour deposits
      state }
  | monitor (state : Counters) (identity : Identity) (unnamed : Unnamed lane none identity)
      (id number : Nat) :
    Plays tally lane detectors pipeline .monitor {
      bindings := { identity, handles := [watching tally id identity number] }
      behaviour := Monitor.behaviour tally
      state }

def counted (module : Module Counters) (gain : Totals) : Module Counters :=
  { module with state := module.state.plus gain }

namespace Unnamed

variable {lane : LaneId} {detector : Detector} {identity : Identity} {id : Nat} {slot : Slot}
  {required : Bool} {message : Message}

theorem takes_iff (unnamed : Unnamed lane none identity) :
    (Handle.ofSlot id identity slot { required }).Takes lane message ↔
      message.type = slot.payload := by
  simp [Handle.Takes, Delegate.Wants, Handle.ofSlot, unnamed.lane, unnamed.detector,
    unnamed.input, Binding.payload, eq_comm]

theorem takes_iff_suits (unnamed : Unnamed lane (some detector) identity) :
    (Handle.ofSlot id identity slot { required }).Takes lane message ↔
      message.type = slot.payload ∧ Suits detector message := by
  simp [Handle.Takes, Delegate.Wants, Handle.ofSlot, unnamed.lane, unnamed.detector,
    unnamed.input, Binding.payload, Suits, and_comm, @eq_comm _ slot.payload]

theorem watches (unnamed : Unnamed lane none identity) (tally number : Nat) :
    (watching tally id identity number).Watches tally where
  binding := ⟨number, rfl⟩
  everyName := rfl
  everyDetector := unnamed.detector

end Unnamed

section Plays

variable {tally : Nat} {lane : LaneId} {detectors : List Detector} {pipeline : Pipeline}
  {role : Role} {module : Module Counters}

theorem Plays.counted (plays : Plays tally lane detectors pipeline role module)
    (gain : Totals) : Plays tally lane detectors pipeline role (counted module gain) := by
  cases plays with
  | generator state identity unnamed => exact .generator _ identity unnamed
  | transfer state detector identity unnamed id slot kind payload =>
    exact .transfer _ detector identity unnamed id slot kind payload
  | digitizer state detector identity unnamed id slot kind payload =>
    exact .digitizer _ detector identity unnamed id slot kind payload
  | reader state identity unnamed first second deposits particles depositsKind depositsPayload
      particlesKind particlesPayload =>
    exact .reader _ identity unnamed first second deposits particles depositsKind depositsPayload
      particlesKind particlesPayload
  | monitor state identity unnamed id number => exact .monitor _ identity unnamed id number

theorem Plays.located (plays : Plays tally lane detectors pipeline role module) :
    module.bindings.identity.lane = lane ∧ module.bindings.identity.output = "" := by
  cases plays with
  | generator state identity unnamed => exact ⟨unnamed.lane, unnamed.output⟩
  | transfer state detector identity unnamed => exact ⟨unnamed.lane, unnamed.output⟩
  | digitizer state detector identity unnamed => exact ⟨unnamed.lane, unnamed.output⟩
  | reader state identity unnamed => exact ⟨unnamed.lane, unnamed.output⟩
  | monitor state identity unnamed => exact ⟨unnamed.lane, unnamed.output⟩

/-- How many delegates of a module take a message depends on its role alone. -/
theorem Plays.countP_takes (plays : Plays tally lane detectors pipeline role module)
    (message : Message) :
    module.bindings.handles.countP (fun handle => handle.Takes lane message) =
      role.takes message := by
  cases plays with
  | generator state identity unnamed => rfl
  | transfer state detector identity unnamed id slot kind payload =>
    simp [List.countP_cons, unnamed.takes_iff_suits, payload, Role.takes]
  | digitizer state detector identity unnamed id slot kind payload =>
    simp [List.countP_cons, unnamed.takes_iff_suits, payload, Role.takes]
  | reader state identity unnamed first second deposits particles depositsKind depositsPayload
      particlesKind particlesPayload =>
    cases type : message.type <;> simp [unnamed.takes_iff, depositsPayload, particlesPayload,
      Role.takes, type]
  | monitor state identity unnamed id number =>
    have watches : (watching tally id identity number).Takes lane message :=
      (unnamed.watches tally number).takes_iff.mpr unnamed.lane
    simp [watches, Role.takes]

/-- A slot that is filled once in an event belongs to the digitizer of a detector. -/
theorem Plays.digitizer_of_single (plays : Plays tally lane detectors pipeline role module)
    {handle : Handle} (member : handle ∈ module.bindings.handles) {slot : Slot}
    (place : handle.place = .slot slot) (single : slot.kind = .single) : ∃ detector,
      role = .digitizer detector ∧ ∀ message, handle.Takes lane message ↔
        message.type = .pixelCharge ∧ Suits detector message := by
  cases plays with
  | generator state identity unnamed => cases member
  | transfer state detector identity unnamed id storage kind payload =>
    cases List.mem_singleton.mp member
    cases place
    rw [kind] at single
    cases single
  | digitizer state detector identity unnamed id storage kind payload =>
    cases List.mem_singleton.mp member
    exact ⟨detector, rfl, fun message => payload ▸ unnamed.takes_iff_suits⟩
  | reader state identity unnamed first second deposits particles depositsKind depositsPayload
      particlesKind particlesPayload =>
    rcases List.mem_pair.mp member with rfl | rfl
    · cases place
      rw [depositsKind] at single
      cases single
    · cases place
      rw [particlesKind] at single
      cases single
  | monitor state identity unnamed id number =>
    cases List.mem_singleton.mp member
    cases place

end Plays

/-! ## A lane with its modules -/

/-- A lane with the modules of the chain. Their delegates are the registered ones of the lane. -/
structure Crewed (tally : Nat) (live : List Handle) (detectors : List Detector)
    (pipeline : Pipeline) (lane : LaneId) (modules : List (Module Counters)) : Prop where
  watched : Watched tally live
  apart : (detectors.map Detector.name).Nodup
  matrices : ∀ detector ∈ detectors, detector.Filled
  own : (live.filter fun handle => handle.lane = lane) = handlesOf modules
  plays : List.Forall₂ (Plays tally lane detectors pipeline) (roles detectors) modules

namespace Crewed

variable {tally : Nat} {live : List Handle} {detectors : List Detector} {pipeline : Pipeline}
  {lane : LaneId} {modules : List (Module Counters)}

theorem mem_own (crewed : Crewed tally live detectors pipeline lane modules) {handle : Handle} :
    (handle ∈ live ∧ handle.lane = lane) ↔
      ∃ module ∈ modules, handle ∈ module.bindings.handles := by
  rw [← mem_handlesOf, ← crewed.own, List.mem_filter, decide_eq_true_eq]

theorem mine (crewed : Crewed tally live detectors pipeline lane modules)
    {module : Module Counters} (member : module ∈ modules) :
    Mine live lane module.bindings.handles :=
  fun _ bound => crewed.mem_own.mpr ⟨module, member, bound⟩

theorem role_of_mem (crewed : Crewed tally live detectors pipeline lane modules)
    {module : Module Counters} (member : module ∈ modules) :
    ∃ role ∈ roles detectors, Plays tally lane detectors pipeline role module :=
  forall₂_of_mem_right crewed.plays member

private theorem module_of_mem (crewed : Crewed tally live detectors pipeline lane modules)
    {role : Role} (member : role ∈ roles detectors) :
    ∃ module ∈ modules, Plays tally lane detectors pipeline role module :=
  forall₂_of_mem_right crewed.plays.flip member

/-- Every lane has a monitor. -/
theorem monitored (crewed : Crewed tally live detectors pipeline lane modules) :
    ∃ handle ∈ live, handle.Watches tally ∧ handle.lane = lane := by
  have played : Role.monitor ∈ roles detectors := by simp [roles]
  obtain ⟨module, member, plays⟩ := crewed.module_of_mem played
  cases plays with
  | monitor state identity unnamed id number =>
    obtain ⟨listed, own⟩ := crewed.mine member _ List.mem_cons_self
    exact ⟨_, listed, unnamed.watches tally number, own⟩

def situation (crewed : Crewed tally live detectors pipeline lane modules)
    {module : Module Counters} (member : module ∈ modules) (event : UInt64) : Situation where
  tally
  live
  lane
  bindings := module.bindings
  event
  watched := crewed.watched
  located := by
    obtain ⟨role, _, plays⟩ := crewed.role_of_mem member
    exact plays.located.1
  unnamed := by
    obtain ⟨role, _, plays⟩ := crewed.role_of_mem member
    exact plays.located.2
  mine := crewed.mine member
  monitored := crewed.monitored

theorem owned (crewed : Crewed tally live detectors pipeline lane modules) :
    Owned live lane modules where
  mine _ member := crewed.mine member
  all _ listed own := crewed.mem_own.mp ⟨listed, own⟩

/-- A slot of the lane that is filled once in an event is a digitizer's. -/
theorem digitizer_of_single (crewed : Crewed tally live detectors pipeline lane modules)
    {handle : Handle} (listed : handle ∈ live) (own : handle.lane = lane) {slot : Slot}
    (place : handle.place = .slot slot) (single : slot.kind = .single) : ∃ detector, ∀ message,
      handle.Takes lane message ↔ message.type = .pixelCharge ∧ Suits detector message := by
  obtain ⟨receiver, among, bound⟩ := crewed.mem_own.mp ⟨listed, own⟩
  obtain ⟨role, _, plays⟩ := crewed.role_of_mem among
  obtain ⟨detector, _, takes⟩ := plays.digitizer_of_single bound place single
  exact ⟨detector, takes⟩

/-- Only pixel charges can meet a slot that is filled already. -/
theorem plain (crewed : Crewed tally live detectors pipeline lane modules)
    {module : Module Counters} (member : module ∈ modules) (event : UInt64) (view : View)
    (message : Message) (other : message.type ≠ .pixelCharge) :
    (crewed.situation member event).Free view message := by
  intro handle listed takes slot place single
  obtain ⟨detector, only⟩ := crewed.digitizer_of_single listed takes.1 place single
  exact absurd ((only message).mp takes).1 other

end Crewed

end Beamline.Demo
