import Beamline.Proofs.RegistryBijection
import Beamline.Proofs.ExchangeInvariant

/-!
A registration is made or refused as a whole. It is refused just if its options do not suit its kind
or a registered delegate fills its slot already, so storage has one delegate at a time.
-/

namespace Beamline.Bus

/-- Options that a kind of delegate can have. -/
structure Flags.Suits (flags : Flags) (kind : DelegateKind) : Prop where
  namesApart : ¬(flags.ignoreName = true ∧ flags.unnamedOnly = true)
  overwrites : flags.allowOverwrite = true → kind = .single

theorem Flags.incompatibility_eq_none_iff {flags : Flags} {kind : DelegateKind} :
    flags.incompatibility kind = none ↔ flags.Suits kind := by
  constructor
  · intro compatible
    unfold incompatibility at compatible
    split at compatible
    · cases compatible
    · rename_i apart
      split at compatible
      · cases compatible
      · rename_i allowed
        exact ⟨by simpa using apart, by simpa using allowed⟩
  · intro suits
    obtain ⟨apart, overwrites⟩ := suits
    have names : (flags.ignoreName && flags.unnamedOnly) = false := by simpa using apart
    have storage : (flags.allowOverwrite && kind != .single) = false := by simpa using overwrites
    simp [incompatibility, names, storage]

namespace Sound

variable {bus : Bus} {returned live : List Handle} {receiver : Identity}
  {binding : Binding Filter} {flags : Flags}

private theorem refusal_eq_none_iff (sound : bus.Sound returned live) :
    bus.messenger.refusal binding flags = none ↔ flags.Suits binding.kind ∧
      ∀ slot ∈ binding.slot?, ∀ other ∈ live, other.place ≠ .slot slot := by
  constructor
  · intro suitable
    refine ⟨?_, fun slot bound other member filled => ?_⟩
    · rw [← Flags.incompatibility_eq_none_iff]
      unfold Messenger.refusal at suitable
      split at suitable
      · cases suitable
      · assumption
    · have taken := (sound.lists.fills_iff slot).mpr ⟨other, member, filled⟩
      rw [fills_of_suitable suitable bound] at taken
      cases taken
  · intro suitable
    obtain ⟨suits, free⟩ := suitable
    exact sound.refusal_eq_none (Flags.incompatibility_eq_none_iff.mpr suits) free

theorem register_eq_ok_iff (sound : bus.Sound returned live) :
    (∃ handle, (bus.register receiver binding flags).1 = .ok handle) ↔
      flags.Suits binding.kind ∧
        ∀ slot ∈ binding.slot?, ∀ other ∈ live, other.place ≠ .slot slot := by
  rw [← sound.refusal_eq_none_iff]
  cases refusal : bus.messenger.refusal binding flags with
  | none => simp [register_of_suitable refusal]
  | some reason => simp [register_of_refused refusal]

/-- The number of a new delegate is greater than every number handed out before. -/
theorem id_lt_nextHandle (sound : bus.Sound returned live) :
    ∀ other ∈ returned, other.id < (bus.nextHandle receiver binding flags).id :=
  fun _ member => Usage.Sound.id_lt sound member

/-- Once its delegate is removed, a slot can be bound again, by whatever receiver. -/
theorem rebind (sound : bus.Sound returned live) {handle : Handle} (member : handle ∈ live)
    {slot : Slot} (place : handle.place = .slot slot)
    (suits : flags.Suits (Binding.kind (.slot slot : Binding Filter))) :
    ∃ rebound, ((bus.remove handle).2.register receiver (.slot slot) flags).1 = .ok rebound := by
  have removed : (bus.remove handle).2.Sound returned _ := (Usage.Sound.remove sound handle).bus
  rw [removed.register_eq_ok_iff]
  refine ⟨suits, fun named bound other present filled => ?_⟩
  cases bound
  obtain ⟨listed, different⟩ := List.mem_filter.mp present
  have symmetric : Std.Symm fun first second : Handle => first.place ≠ second.place :=
    ⟨fun _ _ apart => apart.symm⟩
  by_cases same : handle = other
  · subst same
    simp at different
  · exact (Usage.Sound.placesApart sound).forall member listed same (place.trans filled.symm)

end Sound

theorem install_contents (store : Store) (binding : Binding Filter) (slot : Slot) :
    (install store binding).2.contents slot = store.contents slot := by
  cases binding <;> rfl

/-- A refused registration leaves everybody's messengers, storage and handles as they were. -/
theorem Exchange.perform_of_refused {exchange : Exchange} {number : Nat} (label : String)
    {receiver : Identity} {binding : Binding Filter} {flags : Flags} {error : BusError}
    (refused : ((exchange.bus number).register receiver binding flags).1 = .error error) :
    exchange.perform {
        messenger := number, operation := .register label receiver binding flags } =
      (.registered (.error error), exchange) := by
  cases refusal : (exchange.bus number).messenger.refusal binding flags with
  | none =>
    rw [register_of_suitable refusal] at refused
    cases refused
  | some reason =>
    have registered : (exchange.bus number).register receiver binding flags =
        (.error error, exchange.bus number) :=
      Prod.ext refused (by rw [register_of_refused refusal])
    have answered : (exchange.usage number).step (.register label receiver binding flags) =
        (.registered (.error error), exchange.usage number) := by
      simp only [Usage.step, Usage.register, usage_bus, registered]
      rfl
    have kept : (fun other => if other = number then exchange.messengers number
        else exchange.messengers other) = exchange.messengers := by
      funext other
      split
      · rename_i same
        rw [same]
      · rfl
    simp only [perform, answered]
    exact congrArg (fun messengers => (_, { exchange with messengers })) kept

/-- Whatever was asked of which messenger before, a registration is made just if its options suit
its kind and no registered delegate fills its slot. If it is refused, nothing changes. If it is made,
the number of the new delegate is greater than all before, the delegate is added where it belongs,
and every other delegate, the logs and what the slots hold stay as they were. So no two registered
delegates fill one slot, and a slot can be bound again just if its delegates were removed. -/
theorem registration_atomic (requests : List Request) (number : Nat) (receiver : Identity)
    (binding : Binding Filter) (flags : Flags) :
    let exchange := Exchange.fresh.after requests
    let answers := Exchange.fresh.answers requests number
    let bus := exchange.bus number
    let result := (bus.register receiver binding flags).1
    let later := (bus.register receiver binding flags).2
    ((∃ handle, result = .ok handle) ↔ flags.Suits binding.kind ∧
        ∀ slot ∈ binding.slot?, ∀ other ∈ live answers, other.place ≠ .slot slot) ∧
      (∀ error, result = .error error → later = bus ∧ ∀ label,
        exchange.perform {
            messenger := number, operation := .register label receiver binding flags } =
          (.registered (.error error), exchange)) ∧
      (∀ handle, result = .ok handle →
        handle.delegate.receiver = receiver ∧ handle.delegate.flags = flags ∧
          handle.delegate.binding.slot? = binding.slot? ∧
          (∀ other ∈ issued answers, other.id < handle.id) ∧
          (∀ type name id, (later.messenger.registry.bucket type name)[id]? =
            if handle.delegate.typeKey = type ∧ handle.delegate.nameKey = name ∧ handle.id = id
            then some handle.delegate else (bus.messenger.registry.bucket type name)[id]?) ∧
          (∀ id : Nat, later.messenger.registry.index[id]? =
            if handle.id = id then some (handle.delegate.typeKey, handle.delegate.nameKey)
            else bus.messenger.registry.index[id]?) ∧
          later.messenger.sent = bus.messenger.sent ∧
          ∀ slot, later.store.contents slot = bus.store.contents slot) ∧
      ((live answers).Pairwise fun first second =>
        ∀ slot, first.place = .slot slot → second.place ≠ .slot slot) ∧
      ∀ slot, flags.Suits (Binding.kind (.slot slot : Binding Filter)) →
        ((∃ handle, (bus.register receiver (.slot slot) flags).1 = .ok handle) ↔
          ∀ handle ∈ issued answers, handle.place = .slot slot → handle ∉ live answers) ∧
        ∀ handle ∈ live answers, handle.place = .slot slot → ∃ rebound,
          ((bus.remove handle).2.register receiver (.slot slot) flags).1 = .ok rebound := by
  intro exchange answers bus result later
  have sound : bus.Sound (issued answers) (live answers) := Exchange.sound_after requests number
  refine ⟨sound.register_eq_ok_iff, ?_, ?_, sound.slotsApart, ?_⟩
  · intro error refused
    refine ⟨?_, fun label => Exchange.perform_of_refused label refused⟩
    cases refusal : bus.messenger.refusal binding flags with
    | none =>
      simp only [result, register_of_suitable refusal] at refused
      cases refused
    | some reason => simp only [later, register_of_refused refusal]
  · intro handle made
    cases refusal : bus.messenger.refusal binding flags with
    | some reason =>
      simp only [result, register_of_refused refusal] at made
      cases made
    | none =>
      simp only [result, register_of_suitable refusal] at made
      cases made
      simp only [later, register_of_suitable refusal]
      refine ⟨rfl, rfl, ?_, sound.id_lt_nextHandle, Registry.insert_lookup _ _, ?_, trivial,
        install_contents _ _⟩
      · cases binding <;> rfl
      · intro id
        simp [Registry.insert, Std.HashMap.getElem?_insert]
  · intro slot suits
    refine ⟨?_, fun handle member place => sound.rebind member place suits⟩
    rw [sound.register_eq_ok_iff]
    constructor
    · intro made handle _ place registered
      exact made.2 slot rfl handle registered place
    · intro removed
      refine ⟨suits, fun named bound other member place => ?_⟩
      cases bound
      exact removed other (sound.registered.subset member) place member

end Beamline.Bus
