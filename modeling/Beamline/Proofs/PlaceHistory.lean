import Beamline.Bus.Bindings
import Beamline.Proofs.Invocations
import Mathlib.Data.List.DropRight

namespace Beamline.Bus

/-- Whether something was accepted in a place and is still there. -/
def Store.keeps (store : Store) : Place → Bool
  | .slot slot => store.isFilled slot
  | .filter number => (store.filterState number).delivered

/-- A delegate is satisfied by what is in its place, whoever put it there. -/
theorem Handle.isSatisfied_eq_keeps (handle : Handle) (store : Store) :
    handle.isSatisfied store = store.keeps handle.place := by
  unfold Handle.isSatisfied Delegate.isSatisfied Handle.place
  cases handle.delegate.binding <;> rfl

@[simp]
theorem Store.isFilled_eq_false_iff {store : Store} {slot : Slot} :
    store.isFilled slot = false ↔ store.contents slot = [] := by
  simp [Store.isFilled]

theorem Place.Same.keeps {place : Place} {before after : Store} (same : place.Same before after) :
    after.keeps place = before.keeps place := by
  cases place with
  | slot slot =>
    have contents : after.contents slot = before.contents slot := same
    simp only [Store.keeps, Store.isFilled, contents]
  | filter number => exact congrArg FilterState.delivered same

/-- A slot that has a message is filled, and a filter that said yes has delivered. -/
theorem Handle.Received.keeps {handle : Handle} {message : Message} {name : String}
    {before after : Store} {accepted : Bool}
    (received : handle.Received message name before after accepted) :
    after.keeps handle.place = (before.keeps handle.place || accepted) := by
  unfold Handle.Received at received
  unfold Handle.place
  cases bound : handle.delegate.binding with
  | slot slot =>
    rw [bound] at received
    obtain ⟨rfl, contents⟩ := received
    cases kind : slot.kind <;>
      simp [Binding.place, Store.keeps, Store.isFilled, contents, kind]
  | filter payload installed =>
    rw [bound] at received
    exact received.1
  | anyFilter installed =>
    rw [bound] at received
    exact received.1

/-! ## One operation -/

@[simp]
theorem Store.keeps_resetSlot (store : Store) (slot : Slot) :
    (store.resetSlot slot).keeps (.slot slot) = false := by
  simp [Store.keeps, Store.resetSlot]

/-- A place that a delegate empties holds nothing afterwards, and other places are as they were. -/
theorem Handle.reset_place (handle : Handle) (store : Store) :
    (handle.delegate.reset store).keeps handle.place = false ∧
      ∀ place, handle.place ≠ place → place.Same store (handle.delegate.reset store) := by
  unfold Delegate.reset Handle.place
  cases handle.delegate.binding with
  | slot slot => exact ⟨store.keeps_resetSlot slot, same_setContents store slot []⟩
  | filter payload installed =>
    refine ⟨?_, same_resetFilter store installed.number⟩
    simp [Binding.place, Store.keeps]
  | anyFilter installed =>
    refine ⟨?_, same_resetFilter store installed.number⟩
    simp [Binding.place, Store.keeps]

private theorem Usage.reset_of_kept (usage : Usage) {label : String} {handle : Handle}
    (kept : usage.kept[label]? = some handle) :
    usage.step (.reset label) = (.done, { usage with bus := usage.bus.reset handle }) ∧
      usage.effect (.reset label) = .reset handle.place := by
  simp [Usage.step, Usage.withHandle, Usage.effect, kept]

/-- What an operation means to one place. -/
inductive StepAt (usage : Usage) (operation : Operation) (place : Place) : Prop
  | emptied
      (empties : (usage.effect operation).empties place = true)
      (bare : (usage.step operation).2.bus.store.keeps place = false)
  | dispatched (source : Identity) (message : Message) (name : String)
      (dispatch : operation = .dispatch source message name)
      (touched : usage.bus.Touched source message name place)
  /-- A filter was registered and has this place from now on. -/
  | made
      (quiet : usage.effect operation = .nothing)
      (unused : place = .filter usage.bus.store.next)
      (bare : (usage.step operation).2.bus.store.keeps place = false)
  | left
      (undone : (usage.effect operation).empties place = false)
      (unreached : (usage.effect operation).invokedAt place = [])
      (same : place.Same usage.bus.store (usage.step operation).2.bus.store)

/-- A binding makes a place only if it is of a filter, and changes no other place. -/
theorem install_place (store : Store) (binding : Binding Filter) (place : Place) :
    place.Same store (install store binding).2 ∨
      place = .filter store.next ∧ (install store binding).2.keeps place = false := by
  have installed (filter : Filter) : place.Same store (store.newFilter filter).2 ∨
      place = .filter store.next ∧ (store.newFilter filter).2.keeps place = false := by
    cases place with
    | slot slot => exact .inl rfl
    | filter number =>
      by_cases same : store.next = number
      · subst same
        exact .inr ⟨rfl, by simp [Store.keeps, Store.filterState_newFilter]⟩
      · exact .inl (by simp [Place.Same, Store.filterState_newFilter, same])
  cases binding with
  | slot slot => exact .inl (.refl place store)
  | filter payload filter => exact installed filter
  | anyFilter filter => exact installed filter

theorem Sound.step_at {usage : Usage} {returned live : List Handle}
    (sound : usage.bus.Sound returned live) (operation : Operation) (place : Place) :
    StepAt usage operation place := by
  -- Apart from registrations and dispatches, operations do nothing to places or empty one.
  have idle (quiet : usage.effect operation = .nothing)
      (kept : (usage.step operation).2.bus.store = usage.bus.store) :
      StepAt usage operation place :=
    .left (by rw [quiet]; rfl) (by rw [quiet]; rfl) (by rw [kept]; exact .refl place _)
  have emptying (emptied : Place)
      (empties : (usage.effect operation).empties place = decide (emptied = place))
      (silent : (usage.effect operation).invocations = [])
      (bare : (usage.step operation).2.bus.store.keeps emptied = false)
      (others : ∀ other, emptied ≠ other →
        other.Same usage.bus.store (usage.step operation).2.bus.store) :
      StepAt usage operation place := by
    by_cases same : emptied = place
    · subst same
      exact .emptied (by simp [empties]) bare
    · exact .left (by simp [empties, same]) (by simp [Effect.invokedAt, silent])
        (others place same)
  cases operation with
  | register label receiver binding flags =>
    cases refusal : usage.bus.messenger.refusal binding flags with
    | some reason =>
      exact idle rfl (by simp only [Usage.step, Usage.register, register_of_refused refusal])
    | none =>
      have stored : (usage.step (.register label receiver binding flags)).2.bus.store =
          (install usage.bus.store binding).2 := by
        simp only [Usage.step, Usage.register, register_of_suitable refusal]
      rcases install_place usage.bus.store binding place with same | ⟨unused, bare⟩
      · exact .left rfl rfl (stored ▸ same)
      · exact .made rfl unused (stored ▸ bare)
  | remove label =>
    refine idle rfl ?_
    simp only [Usage.step, Usage.withHandle]
    cases usage.kept[label]? <;> rfl
  | reset label =>
    cases kept : usage.kept[label]? with
    | none =>
      exact idle (by simp [Usage.effect, kept]) (by simp [Usage.step, Usage.withHandle, kept])
    | some handle =>
      obtain ⟨stepped, effect⟩ := usage.reset_of_kept kept
      obtain ⟨bare, others⟩ := handle.reset_place usage.bus.store
      rw [effect, stepped] at emptying
      exact emptying handle.place rfl rfl bare others
  | inspect label =>
    refine idle rfl ?_
    simp only [Usage.step, Usage.withHandle]
    cases usage.kept[label]? <;> rfl
  | dispatch source message name =>
    exact .dispatched source message name rfl (sound.touched source message name place)
  | drain slot =>
    exact emptying (.slot slot) rfl rfl (Store.keeps_resetSlot _ _) (same_setContents _ slot [])
  | resetSlot slot =>
    exact emptying (.slot slot) rfl rfl (Store.keeps_resetSlot _ _) (same_setContents _ slot [])
  | hasReceiver source message name => exact idle rfl rfl
  | read slot => exact idle rfl rfl
  | sentMessages lane => exact idle rfl rfl
  | clearSent lane => exact idle rfl rfl

theorem Exchange.step_at (requests : List Request) (request : Request) (place : Place) :
    StepAt ((fresh.after requests).usage request.messenger) request.operation place := by
  have sound : ((fresh.after requests).usage request.messenger).bus.Sound _ _ :=
    sound_after requests request.messenger
  exact sound.step_at request.operation place

/-! ## The effects since a place was emptied -/

/-- The effects after the last of those that are looked for. -/
def since (sought : Effect → Bool) (effects : List Effect) : List Effect :=
  effects.rtakeWhile fun effect => !sought effect

theorem since_concat (sought : Effect → Bool) (effects : List Effect) (effect : Effect) :
    since sought (effects ++ [effect]) =
      if sought effect then [] else since sought effects ++ [effect] := by
  rw [since, List.rtakeWhile_concat]
  cases sought effect <;> rfl

section Wider

variable {sought wider : Effect → Bool}
  (covers : ∀ effect, sought effect = true → wider effect = true)

include covers

private theorem missed_of_covers {effect : Effect} (missed : wider effect = false) :
    sought effect = false := by
  rw [← Bool.not_eq_true]
  intro hit
  rw [covers effect hit] at missed
  cases missed

theorem since_suffix (effects : List Effect) : since wider effects <:+ since sought effects := by
  induction effects using List.reverseRecOn with
  | nil => exact List.suffix_refl _
  | append_singleton effects effect ih =>
    rw [since_concat, since_concat]
    cases found : wider effect with
    | true => exact List.nil_suffix
    | false =>
      obtain ⟨front, same⟩ := ih
      rw [missed_of_covers covers found]
      exact ⟨front, by simp [← same]⟩

/-- If nothing that is looked for besides occurs since, it makes no difference. -/
theorem since_eq_of_absent {effects : List Effect}
    (absent : ∀ effect ∈ since sought effects, wider effect = false) :
    since wider effects = since sought effects := by
  induction effects using List.reverseRecOn with
  | nil => rfl
  | append_singleton effects effect ih =>
    rw [since_concat] at absent ⊢
    rw [since_concat]
    cases hit : sought effect with
    | true => simp [covers effect hit]
    | false =>
      rw [hit] at absent
      have missed : wider effect = false := absent effect (by simp)
      have same := ih fun other member => absent other (by simp [member])
      simp [missed, same]

end Wider

end Beamline.Bus
