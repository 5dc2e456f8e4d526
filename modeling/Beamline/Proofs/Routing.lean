import Beamline.Proofs.HistoryInvariant

/-!
Routing through the buckets of the registry equals a scan of the plain list of registered delegates
with a test of each delegate for itself.
-/

namespace Beamline.Bus

/-- Whether a delegate is to get a message that `source` dispatches under a name, told from the
delegate alone: the lanes agree, the detectors do unless one of them is missing, the receiver
listens to the name, and the type is the one that is bound. -/
def Delegate.Wants (delegate : Delegate) (source : Identity) (message : Message) (name : String) :
    Prop :=
  delegate.receiver.lane = source.lane ∧
    (∀ mine ∈ delegate.receiver.detector, ∀ origin ∈ message.detector, mine.name = origin.name) ∧
    (delegate.flags.ignoreName = true ∨
      name = if delegate.flags.unnamedOnly then "" else delegate.receiver.input) ∧
    ∀ payload ∈ delegate.binding.payload, payload = message.type

instance (delegate : Delegate) (source : Identity) (message : Message) (name : String) :
    Decidable (delegate.Wants source message name) :=
  inferInstanceAs (Decidable (_ ∧ _ ∧ _ ∧ _))

namespace Delegate

/-- Delegates for one type, which come before the others. -/
def IsTyped (delegate : Delegate) : Prop :=
  delegate.binding.payload ≠ none

instance (delegate : Delegate) : Decidable delegate.IsTyped :=
  inferInstanceAs (Decidable (_ ≠ _))

theorem inScope_iff {delegate : Delegate} {source : Identity} {message : Message} :
    delegate.inScope source message = true ↔ delegate.receiver.lane = source.lane ∧
      ∀ mine ∈ delegate.receiver.detector, ∀ origin ∈ message.detector,
        mine.name = origin.name := by
  unfold inScope
  cases delegate.receiver.detector <;> cases message.detector <;> simp

/-- The bucket for any name and the bucket for a name hold what listens to that name. -/
theorem nameKey_iff {delegate : Delegate} {name : String} :
    delegate.nameKey = .exact name ∨ delegate.nameKey = .any ↔
      delegate.flags.ignoreName = true ∨
        name = if delegate.flags.unnamedOnly then "" else delegate.receiver.input := by
  unfold nameKey NameKey.ofReceiver
  cases delegate.flags.ignoreName <;> cases delegate.flags.unnamedOnly <;> simp [eq_comm]

private theorem typeKey_eq_payload {delegate : Delegate} {type : PayloadType} :
    delegate.typeKey = .payload type ↔
      delegate.IsTyped ∧ ∀ payload ∈ delegate.binding.payload, payload = type := by
  unfold typeKey IsTyped
  cases delegate.binding.payload <;> simp

private theorem typeKey_eq_any {delegate : Delegate} :
    delegate.typeKey = .any ↔ ¬delegate.IsTyped := by
  unfold typeKey IsTyped
  cases delegate.binding.payload <;> simp

theorem payload_of_not_typed {delegate : Delegate} (untyped : ¬delegate.IsTyped)
    (type : PayloadType) : ∀ payload ∈ delegate.binding.payload, payload = type := by
  unfold IsTyped at untyped
  simp only [ne_eq, Decidable.not_not] at untyped
  simp [untyped]

end Delegate

namespace Registry.Lists

variable {registry : Registry} {live : List Handle}

/-- Two buckets merged in the order of the numbers are the plain list without what they lack. -/
theorem listeners_eq (lists : Lists registry live) (type : TypeKey) (name : String)
    (source : Identity) (message : Message) :
    registry.listeners type name source message = live.filter fun handle =>
      handle.delegate.typeKey = type ∧
        (handle.delegate.nameKey = .exact name ∨ handle.delegate.nameKey = .any) ∧
        handle.delegate.inScope source message := by
  unfold Registry.listeners
  rw [lists.bucket_handles, lists.bucket_handles]
  apply inOrder_eq _ (lists.ordered.filter _)
  · intro handle
    simp only [List.mem_filter, List.mem_append, decide_eq_true_eq]
    tauto
  · refine List.Nodup.filter _ (List.nodup_append.mpr
      ⟨(lists.ordered.filter _).nodup, (lists.ordered.filter _).nodup, ?_⟩)
    intro handle exact other any same
    subst same
    have named := (of_decide_eq_true (List.mem_filter.mp exact).2).2
    have unnamed := (of_decide_eq_true (List.mem_filter.mp any).2).2
    rw [named] at unnamed
    cases unnamed

/-- The candidates are what a scan of the list finds: first the delegates for the type of the
message, then those for every type. -/
theorem candidates_eq (lists : Lists registry live) (source : Identity) (message : Message)
    (name : String) : registry.candidates source message name =
      live.filter (fun handle =>
        handle.delegate.IsTyped ∧ handle.delegate.Wants source message name) ++
      live.filter (fun handle =>
        ¬handle.delegate.IsTyped ∧ handle.delegate.Wants source message name) := by
  unfold Registry.candidates
  rw [lists.listeners_eq, lists.listeners_eq]
  congr 1
  · refine List.filter_congr fun handle _ => decide_eq_decide.mpr ?_
    rw [Delegate.typeKey_eq_payload, Delegate.nameKey_iff, Delegate.inScope_iff, Delegate.Wants]
    tauto
  · refine List.filter_congr fun handle _ => decide_eq_decide.mpr ?_
    rw [Delegate.typeKey_eq_any, Delegate.nameKey_iff, Delegate.inScope_iff, Delegate.Wants]
    constructor
    · intro keyed
      obtain ⟨untyped, listens, lane, detectors⟩ := keyed
      exact ⟨untyped, lane, detectors, listens, Delegate.payload_of_not_typed untyped _⟩
    · intro wanted
      obtain ⟨untyped, lane, detectors, listens, _⟩ := wanted
      exact ⟨untyped, listens, lane, detectors⟩

theorem mem_candidates (lists : Lists registry live) {source : Identity} {message : Message}
    {name : String} {handle : Handle} :
    handle ∈ registry.candidates source message name ↔
      handle ∈ live ∧ handle.delegate.Wants source message name := by
  rw [lists.candidates_eq]
  simp only [List.mem_append, List.mem_filter, decide_eq_true_eq]
  tauto

theorem candidates_nodup (lists : Lists registry live) (source : Identity) (message : Message)
    (name : String) : (registry.candidates source message name).Nodup := by
  rw [lists.candidates_eq]
  refine List.nodup_append.mpr ⟨(lists.ordered.filter _).nodup, (lists.ordered.filter _).nodup, ?_⟩
  intro handle typed other untyped same
  subst same
  exact (of_decide_eq_true (List.mem_filter.mp untyped).2).1
    (of_decide_eq_true (List.mem_filter.mp typed).2).1

end Registry.Lists

/-- A messenger has a receiver for a message just if its dispatch invokes a delegate. -/
theorem hasReceiver_eq_false_iff {bus : Bus} {source : Identity} {message : Message}
    {name : String} : bus.messenger.hasReceiver source message name = false ↔
      (bus.dispatch source message name).1 = .ok { invoked := 0, accepted := 0 } := by
  unfold Messenger.hasReceiver
  cases listed : bus.messenger.candidates source message name with
  | nil =>
    have delivered : deliver bus.store message name
        (bus.messenger.candidates source message name) = (.ok 0, bus.store) := by rw [listed]; rfl
    simp [dispatch_of_ok delivered, listed]
  | cons first rest =>
    rcases delivered : deliver bus.store message name
      (bus.messenger.candidates source message name) with ⟨error | accepted, store⟩
    · simp [dispatch_of_error delivered]
    · simp [dispatch_of_ok delivered, listed]

/-- Whatever was done with a messenger before, the candidates for a message are the delegates that
were returned and not removed since and that want it, those for its type before those for every
type, each once and in the order of registration; and there is a receiver just if one wants it. -/
theorem candidates_eq_scan (store : Store) (operations : List Operation) (source : Identity)
    (message : Message) (name : String) :
    let answers := (Usage.fresh store).answers operations
    let bus := ((Usage.fresh store).after operations).bus
    let candidates := bus.messenger.candidates source message name
    candidates =
        (live answers).filter (fun handle =>
          handle.delegate.IsTyped ∧ handle.delegate.Wants source message name) ++
        (live answers).filter (fun handle =>
          ¬handle.delegate.IsTyped ∧ handle.delegate.Wants source message name) ∧
      candidates.Nodup ∧ Ordered (live answers) ∧ (live answers).Sublist (issued answers) ∧
      (bus.messenger.hasReceiver source message name = true ↔
        ∃ handle ∈ live answers, handle.delegate.Wants source message name) ∧
      (bus.messenger.hasReceiver source message name = false ↔
        (bus.dispatch source message name).1 = .ok { invoked := 0, accepted := 0 }) ∧
      ∀ report, (bus.dispatch source message name).1 = .ok report →
        report.invoked = candidates.length := by
  intro answers bus candidates
  have sound := Usage.sound_after store operations
  have lists : bus.messenger.registry.Lists (live answers) := sound.lists
  refine ⟨lists.candidates_eq source message name, lists.candidates_nodup source message name,
    lists.ordered, sound.registered, ?_, hasReceiver_eq_false_iff, ?_⟩
  · simp only [Messenger.hasReceiver, Messenger.candidates, Bool.not_eq_true',
      List.isEmpty_eq_false_iff_exists_mem, lists.mem_candidates]
  · intro report returned
    rcases delivered : deliver bus.store message name candidates with ⟨error | accepted, after⟩
    · rw [dispatch_of_error delivered] at returned
      cases returned
    · rw [dispatch_of_ok delivered] at returned
      cases returned
      rfl

end Beamline.Bus
