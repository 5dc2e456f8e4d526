import Beamline.Bus.Exchange
import Beamline.Proofs.HistoryInvariant
import Mathlib.Data.List.Induction

namespace Beamline.Bus

/-- What is sound about a bus does not depend on the handles that its users keep. -/
def Sound (bus : Bus) (returned live : List Handle) : Prop :=
  ({ bus } : Usage).Sound returned live

theorem Usage.Sound.bus {usage : Usage} {returned live : List Handle}
    (sound : usage.Sound returned live) : usage.bus.Sound returned live where
  lists := sound.lists
  numbered := sound.numbered
  registered := sound.registered
  kept label handle found := by simp at found
  slotsApart := sound.slotsApart
  filtersApart := sound.filtersApart
  installed := sound.installed

/-- What leaves the registry and the numbering alone may use up numbers of the store. -/
theorem Sound.frame {bus later : Bus} {returned live : List Handle}
    (sound : bus.Sound returned live)
    (registry : later.messenger.registry = bus.messenger.registry)
    (nextId : later.messenger.nextId = bus.messenger.nextId)
    (more : bus.store.next ≤ later.store.next) : later.Sound returned live where
  lists := registry ▸ sound.lists
  numbered := nextId ▸ sound.numbered
  registered := sound.registered
  kept := sound.kept
  slotsApart := sound.slotsApart
  filtersApart := sound.filtersApart
  installed handle member number place :=
    Nat.lt_of_lt_of_le (sound.installed handle member number place) more

def Handle.ofSlot (id : Nat) (receiver : Identity) (slot : Slot) (flags : Flags) : Handle where
  id := id
  delegate := { receiver, flags, binding := .slot slot }

@[simp]
theorem Handle.ofSlot_place (id : Nat) (receiver : Identity) (slot : Slot) (flags : Flags) :
    (ofSlot id receiver slot flags).place = .slot slot := rfl

theorem Usage.next_le_step (usage : Usage) (operation : Operation) :
    usage.bus.store.next ≤ (usage.step operation).2.bus.store.next := by
  cases operation with
  | register label receiver binding flags =>
    simp only [Usage.step, Usage.register]
    cases refusal : usage.bus.messenger.refusal binding flags with
    | some reason => simp [register_of_refused refusal]
    | none => simpa [register_of_suitable refusal] using install_next_le _ binding
  | remove label =>
    simp only [Usage.step, Usage.withHandle]
    cases usage.kept[label]? <;> exact Nat.le_refl _
  | reset label =>
    simp only [Usage.step, Usage.withHandle]
    cases usage.kept[label]? with
    | none => exact Nat.le_refl _
    | some handle => exact Nat.le_of_eq (Delegate.reset_next _ _).symm
  | inspect label =>
    simp only [Usage.step, Usage.withHandle]
    cases usage.kept[label]? <;> exact Nat.le_refl _
  | dispatch source message name =>
    obtain ⟨_, _, store⟩ := dispatch_frame usage.bus source message name
    simp [Usage.step, store]
  | drain slot => exact Nat.le_refl _
  | resetSlot slot => exact Nat.le_refl _
  | hasReceiver source message name => exact Nat.le_refl _
  | read slot => exact Nat.le_refl _
  | sentMessages lane => exact Nat.le_refl _
  | clearSent lane => exact Nat.le_refl _

/-- One operation keeps a bus sound, also one with a handle that another messenger returned. -/
theorem Sound.step (usage : Usage) {returned live : List Handle}
    (sound : usage.bus.Sound returned live) (operation : Operation) :
    (usage.step operation).2.bus.Sound (returned ++ (usage.step operation).1.handle?.toList)
      ((usage.step operation).1.follow live) := by
  have unchanged (answer : Answer) (silent : answer.handle? = none)
      (same : answer.follow live = live) {later : Bus} (kept : later.Sound returned live) :
      later.Sound (returned ++ answer.handle?.toList) (answer.follow live) := by
    rw [silent, same]
    simpa using kept
  cases operation with
  | register label receiver binding flags =>
    have registered := (Usage.Sound.register sound label receiver binding flags).bus
    simp only [Usage.step, Usage.register] at registered ⊢
    generalize usage.bus.register receiver binding flags = result at registered ⊢
    rcases result with ⟨error | handle, bus⟩ <;> exact registered
  | remove label =>
    simp only [Usage.step, Usage.withHandle]
    cases usage.kept[label]? with
    | none => exact unchanged _ rfl rfl sound
    | some handle =>
      have removed := (Usage.Sound.remove sound handle).bus
      simpa [Answer.handle?, Answer.follow] using removed
  | reset label =>
    simp only [Usage.step, Usage.withHandle]
    cases usage.kept[label]? with
    | none => exact unchanged _ rfl rfl sound
    | some handle =>
      exact unchanged _ rfl rfl
        (sound.frame rfl rfl (Nat.le_of_eq (Delegate.reset_next _ _).symm))
  | inspect label =>
    simp only [Usage.step, Usage.withHandle]
    cases usage.kept[label]? <;> exact unchanged _ rfl rfl sound
  | dispatch source message name =>
    obtain ⟨registry, nextId, store⟩ := dispatch_frame usage.bus source message name
    exact unchanged _ rfl rfl (sound.frame registry nextId (by simp [Usage.step, store]))
  | hasReceiver source message name => exact unchanged _ rfl rfl sound
  | read slot => exact unchanged _ rfl rfl sound
  | drain slot => exact unchanged _ rfl rfl (sound.frame rfl rfl (Nat.le_refl _))
  | resetSlot slot => exact unchanged _ rfl rfl (sound.frame rfl rfl (Nat.le_refl _))
  | sentMessages lane => exact unchanged _ rfl rfl sound
  | clearSent lane => exact unchanged _ rfl rfl (sound.frame rfl rfl (Nat.le_refl _))

/-- A suitable registration adds its delegate to the registered ones. -/
theorem Sound.register {bus : Bus} {returned live : List Handle} (sound : bus.Sound returned live)
    {receiver : Identity} {binding : Binding Filter} {flags : Flags}
    (suitable : bus.messenger.refusal binding flags = none) :
    (bus.register receiver binding flags).2.Sound
      (returned ++ [bus.nextHandle receiver binding flags])
      (live ++ [bus.nextHandle receiver binding flags]) := by
  have registered := (Usage.Sound.register sound "" receiver binding flags).bus
  simpa only [Usage.register, register_of_suitable suitable, Answer.handle?, Option.toList_some,
    Answer.follow] using registered

/-- A registration is not refused if its options suit it and no registered delegate fills its
slot. -/
theorem Sound.refusal_eq_none {bus : Bus} {returned live : List Handle}
    (sound : bus.Sound returned live) {binding : Binding Filter} {flags : Flags}
    (suits : flags.incompatibility binding.kind = none)
    (free : ∀ slot ∈ binding.slot?, ∀ other ∈ live, other.place ≠ .slot slot) :
    bus.messenger.refusal binding flags = none := by
  unfold Messenger.refusal
  rw [suits]
  cases bound : binding.slot? with
  | none => rfl
  | some slot =>
    have vacant : bus.messenger.registry.fills slot = false := by
      rw [← Bool.not_eq_true, sound.lists.fills_iff slot]
      rintro ⟨other, member, filled⟩
      exact free slot bound other member filled
    simp [vacant]

theorem Sound.nextId_eq {bus : Bus} {returned live : List Handle}
    (sound : bus.Sound returned live) : bus.messenger.nextId = returned.length := by
  have counted := congrArg List.length sound.numbered
  simpa using counted.symm

/-! ## Every exchange -/

theorem issued_concat (answers : List Answer) (answer : Answer) :
    issued (answers ++ [answer]) = issued answers ++ answer.handle?.toList := by
  cases found : answer.handle? <;> simp [issued, found]

theorem live_concat (answers : List Answer) (answer : Answer) :
    live (answers ++ [answer]) = answer.follow (live answers) := by
  simp [live]

theorem Answer.mem_follow {answer : Answer} {live : List Handle} {handle : Handle}
    (member : handle ∈ answer.follow live) : handle ∈ live ∨ answer.handle? = some handle := by
  cases answer with
  | registered result =>
    cases result with
    | error error => exact .inl member
    | ok other =>
      rcases List.mem_append.mp member with old | new
      · exact .inl old
      · rw [List.mem_singleton.mp new]
        exact .inr rfl
  | removed other result => exact .inl (List.mem_filter.mp member).1
  | _ => exact .inl member

theorem mem_live_append {earlier later : List Answer} {handle : Handle}
    (member : handle ∈ live (earlier ++ later)) : handle ∈ live earlier ∨ handle ∈ issued later := by
  induction later using List.reverseRecOn with
  | nil =>
    rw [List.append_nil] at member
    exact .inl member
  | append_singleton later answer ih =>
    rw [← List.append_assoc, live_concat] at member
    rw [issued_concat]
    rcases Answer.mem_follow member with old | new
    · exact (ih old).imp id (List.mem_append_left _)
    · exact .inr (List.mem_append_right _ (by simp [new]))

namespace Exchange

variable (exchange : Exchange)

theorem after_append (earlier later : List Request) :
    exchange.after (earlier ++ later) = (exchange.after earlier).after later := by
  simp [after]

theorem stages_append (earlier later : List Request) :
    exchange.stages (earlier ++ later) =
      exchange.stages earlier ++ (exchange.after earlier).stages later := by
  induction earlier generalizing exchange with
  | nil => rfl
  | cons request rest ih =>
    simp only [List.cons_append, stages, ih]
    rfl

/-- Every request is made to the exchange that the requests before it left. -/
theorem mem_stages {requests : List Request} {stage : Exchange × Request}
    (member : stage ∈ exchange.stages requests) : ∃ earlier later,
      requests = earlier ++ stage.2 :: later ∧ stage.1 = exchange.after earlier := by
  induction requests generalizing exchange with
  | nil => cases member
  | cons request rest ih =>
    rcases List.mem_cons.mp member with rfl | further
    · exact ⟨[], rest, rfl, rfl⟩
    · obtain ⟨earlier, later, rfl, met⟩ := ih _ further
      exact ⟨request :: earlier, later, rfl, met⟩

theorem after_concat (requests : List Request) (request : Request) :
    exchange.after (requests ++ [request]) = ((exchange.after requests).perform request).2 := by
  simp [after]

theorem answers_append (earlier later : List Request) (number : Nat) :
    exchange.answers (earlier ++ later) number =
      exchange.answers earlier number ++ (exchange.after earlier).answers later number := by
  simp [answers, stages_append]

theorem answers_singleton (request : Request) (number : Nat) :
    exchange.answers [request] number =
      if request.messenger = number then [(exchange.perform request).1] else [] := by
  by_cases same : request.messenger = number <;> simp [answers, stages, same]

theorem registrations_append (earlier later : List Request) :
    exchange.registrations (earlier ++ later) =
      exchange.registrations earlier ++ (exchange.after earlier).registrations later := by
  simp [registrations, stages_append]

/-- The delegates that a messenger returned are told from what is seen of it. -/
theorem mem_registrations_iff {requests : List Request} {number : Nat} {handle : Handle} :
    (number, handle) ∈ exchange.registrations requests ↔
      handle ∈ issued (exchange.answers requests number) := by
  simp only [registrations, issued, answers, List.mem_filterMap, List.mem_map, List.mem_filter,
    Option.map_eq_some_iff, Prod.mk.injEq, beq_iff_eq]
  constructor
  · intro listed
    obtain ⟨stage, member, registered, returned, same, rfl⟩ := listed
    exact ⟨_, ⟨stage, ⟨member, same⟩, rfl⟩, returned⟩
  · intro returned
    obtain ⟨answer, ⟨stage, ⟨member, same⟩, rfl⟩, found⟩ := returned
    exact ⟨stage, member, handle, found, same, rfl⟩

@[simp]
theorem usage_bus (number : Nat) : (exchange.usage number).bus = exchange.bus number := rfl

@[simp]
theorem bus_store (number : Nat) : (exchange.bus number).store = exchange.store := rfl

theorem perform_store (request : Request) : (exchange.perform request).2.store =
    ((exchange.usage request.messenger).step request.operation).2.bus.store := rfl

theorem next_le_perform (request : Request) :
    exchange.store.next ≤ (exchange.perform request).2.store.next :=
  Usage.next_le_step (exchange.usage request.messenger) request.operation

theorem perform_bus_self (request : Request) :
    (exchange.perform request).2.bus request.messenger =
      ((exchange.usage request.messenger).step request.operation).2.bus := by
  simp [perform, bus]

theorem perform_bus_other (request : Request) {number : Nat}
    (different : number ≠ request.messenger) :
    ((exchange.perform request).2.bus number).messenger = (exchange.bus number).messenger := by
  simp [perform, bus, different]

/-- Binding a slot that no registered delegate fills adds a delegate with the next number. -/
theorem bind_slot {exchange : Exchange} {number : Nat} {returned live : List Handle}
    (sound : (exchange.bus number).Sound returned live) (label : String) (receiver : Identity)
    (slot : Slot) (flags : Flags)
    (suits : flags.incompatibility (Binding.kind (.slot slot : Binding Filter)) = none)
    (free : ∀ other ∈ live, other.place ≠ .slot slot) :
    let handle := Handle.ofSlot returned.length receiver slot flags
    let performed := exchange.perform {
      messenger := number
      operation := .register label receiver (.slot slot) flags }
    performed.1 = .registered (.ok handle) ∧ performed.2.store = exchange.store ∧
      (performed.2.bus number).Sound (returned ++ [handle]) (live ++ [handle]) := by
  intro handle performed
  have suitable : (exchange.bus number).messenger.refusal (.slot slot) flags = none :=
    sound.refusal_eq_none suits fun other bound => by
      cases bound
      exact free
  have next : (exchange.bus number).nextHandle receiver (.slot slot) flags = handle := by
    rw [nextHandle, sound.nextId_eq]
    rfl
  have registered : (exchange.bus number).register receiver (.slot slot) flags = _ :=
    register_of_suitable suitable
  rw [next] at registered
  have answered : performed.1 = .registered (.ok handle) := by
    simp only [performed, perform, usage, Usage.step, Usage.register, registered]
  have stepped := Sound.step (exchange.usage number) sound
    (.register label receiver (.slot slot) flags)
  rw [← perform_bus_self exchange { messenger := number, .. }] at stepped
  refine ⟨answered, ?_, ?_⟩
  · simp only [performed, perform, usage, Usage.step, Usage.register, registered]
    rfl
  · change Sound _ (returned ++ performed.1.handle?.toList) (performed.1.follow live) at stepped
    rw [answered] at stepped
    exact stepped

/-- Whatever was asked of which messenger, each of them is sound. -/
theorem sound_after (requests : List Request) (number : Nat) :
    ((fresh.after requests).bus number).Sound (issued (fresh.answers requests number))
      (live (fresh.answers requests number)) := by
  -- Only the messenger that performs the last request lists something else than before.
  induction requests using List.reverseRecOn with
  | nil => exact (Usage.sound_fresh {}).bus
  | append_singleton requests request ih =>
    rw [after_append, answers_append]
    by_cases same : request.messenger = number
    · have stepped := Sound.step ((fresh.after requests).usage number) ih request.operation
      rw [answers_singleton, if_pos same, issued_concat, live_concat]
      subst same
      rw [← perform_bus_self] at stepped
      exact stepped
    · have messenger := perform_bus_other (fresh.after requests) request (Ne.symm same)
      rw [answers_singleton, if_neg same, List.append_nil]
      exact ih.frame (congrArg Messenger.registry messenger) (congrArg Messenger.nextId messenger)
        (next_le_perform _ request)

end Exchange

end Beamline.Bus
