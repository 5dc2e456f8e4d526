import Beamline.Proofs.Observers
import Beamline.Proofs.Separation
import Beamline.Proofs.StageCode

namespace Beamline.Bus

/-- A delegate that no message finds filled. -/
def Handle.IsOpen (handle : Handle) : Prop :=
  ∀ slot, handle.place = .slot slot → slot.kind = .multi

theorem Bindings.register_of_refusal {bindings : Bindings} {bus : Bus} {binding : Binding Filter}
    {flags : Flags} {reason : Refusal}
    (refused : bus.messenger.refusal binding flags = some reason) :
    ∃ error, bindings.register bus binding flags = (.error error, bindings, bus) :=
  ⟨_, by simp only [register, register_of_refused refused]; rfl⟩

namespace Separate

variable {bus : Bus} {returned live : List Handle} (separate : bus.Separate returned live)
  (bindings : Bindings)

include separate

private theorem refusal_newSlot {kind : SlotKind} {payload : PayloadType} {flags : Flags} :
    let slot : Slot := { number := bus.store.next, kind, payload }
    let made : Bus := { bus with store := (bus.store.newSlot kind payload).2 }
    flags.incompatibility (Binding.slot (F := Filter) slot).kind = none →
      made.messenger.refusal (.slot slot) flags = none := by
  intro slot made suits
  refine (separate.newSlot kind payload).sound.refusal_eq_none suits ?_
  rintro _ ⟨⟩ other member same
  have used := separate.used other (separate.sound.registered.subset member)
  rw [same] at used
  exact Nat.lt_irrefl _ used

/-- What comes of binding a slot: it is refused for its options, or it has a delegate. -/
theorem bindSlot_cases (kind : SlotKind) (payload : PayloadType) (flags : Flags) :
    let slot : Slot := { number := bus.store.next, kind, payload }
    let bound := bindings.bindSlot bus kind payload flags
    (∃ error, bound.1 = .error error ∧
        flags.incompatibility (Binding.slot (F := Filter) slot).kind ≠ none ∧
        Bound returned live [] bindings bound.2.1 bus bound.2.2) ∨
      ∃ id, bound.1 = .ok slot ∧
        Bound returned live [.ofSlot id bindings.identity slot flags] bindings bound.2.1 bus
          bound.2.2 := by
  intro slot bound
  let made : Bus := { bus with store := (bus.store.newSlot kind payload).2 }
  cases refusal : made.messenger.refusal (.slot slot) flags with
  | some reason =>
    obtain ⟨error, refused⟩ := @Bindings.register_of_refusal bindings made _ _ _ refusal
    have same : bound = (.error error, bindings, made) := by
      simp only [bound, Bindings.bindSlot_eq]
      exact congrArg (fun registered => (registered.1.map fun _ => slot, registered.2)) refused
    refine .inl ⟨error, congrArg Prod.fst same, fun suits => ?_, ?_⟩
    · exact nomatch refusal.symm.trans (separate.refusal_newSlot suits)
    · apply bound_bindSlot_of_register
      rw [refused]
      exact (separate.newSlot kind payload).bound_of_refused bindings
  | none =>
    refine .inr ⟨bus.messenger.nextId, ?_, ?_⟩
    · exact congrArg Prod.fst (Bindings.bindSlot_of_suitable rfl refusal)
    · exact separate.bound_bindSlot_of_suitable bindings kind payload refusal

/-- What comes of registering a filter: it is refused for its options, or it has a delegate. -/
theorem register_cases {binding : Binding Filter} (filter : binding.slot? = none) (flags : Flags) :
    let bound := bindings.register bus binding flags
    (∃ error, bound.1 = .error error ∧ flags.incompatibility binding.kind ≠ none ∧
        Bound returned live [] bindings bound.2.1 bus bound.2.2) ∨
      ∃ handle, bound.1 = .ok handle ∧ handle.delegate.flags = flags ∧ handle.IsOpen ∧
        Bound returned live [handle] bindings bound.2.1 bus bound.2.2 := by
  intro bound
  cases refusal : bus.messenger.refusal binding flags with
  | some reason =>
    obtain ⟨error, refused⟩ := @Bindings.register_of_refusal bindings bus _ _ _ refusal
    simp only [bound, refused]
    refine .inl ⟨error, rfl, fun suits => ?_, separate.bound_of_refused bindings⟩
    exact nomatch refusal.symm.trans
      (separate.sound.refusal_eq_none suits fun slot among => by simp [filter] at among)
  | none =>
    refine .inr ⟨_, congrArg Prod.fst (Bindings.register_of_suitable refusal), rfl, ?_,
      separate.bound_register_of_suitable bindings filter refusal⟩
    intro slot place
    cases binding with
    | slot _ => cases filter
    | filter _ _ => cases place
    | anyFilter _ => cases place

end Separate

end Beamline.Bus

namespace Beamline.Run

open Bus

/-- What a request does to the registered delegates that are not among a module's own: they stay,
and what they got stays. What it registers in addition is the module's own. -/
structure Aside (returned live own created left : List Handle) (scope later : Scope)
    (before after : Bus) : Prop where
  separate : after.Separate (returned ++ created) left
  comes : ∀ handle ∈ left, handle ∈ live ∨ handle ∈ created
  stays : ∀ handle ∈ live, handle ∉ own →
    handle ∈ left ∧ handle.place.Same before.store after.store
  registers : ∀ handle ∈ created, handle ∈ left
  lane : ∀ handle ∈ created, handle.lane = scope.bindings.identity.lane
  identity : later.bindings.identity = scope.bindings.identity
  context : later.context = scope.context
  handles : ∀ handle ∈ later.bindings.handles, handle ∈ scope.bindings.handles ∨ handle ∈ created

namespace Aside

variable {returned live own : List Handle} {scope later : Scope} {before after : Bus}

/-- A request that changes the places of a module's own delegates at most. -/
theorem emptying {store : Store} (separate : Bus.Separate { before with store } returned live)
    (others : ∀ handle ∈ live, handle ∉ own → handle.place.Same before.store store) :
    Aside returned live own [] live scope scope before { before with store } where
  separate := by simpa using separate
  comes _ member := .inl member
  stays handle member foreign := ⟨member, others handle member foreign⟩
  registers := by simp
  lane := by simp
  identity := rfl
  context := rfl
  handles _ member := .inl member

/-- A request that changes nothing. -/
theorem idle (separate : before.Separate returned live) :
    Aside returned live own [] live scope scope before before :=
  .emptying separate fun handle _ _ => .refl handle.place _

/-- A request that removes some of a module's own delegates. -/
theorem removing {messenger : Messenger} {left : List Handle}
    (separate : Bus.Separate { before with messenger } returned left)
    (fewer : ∀ handle ∈ left, handle ∈ live)
    (others : ∀ handle ∈ live, handle ∉ own → handle ∈ left)
    (identity : later.bindings.identity = scope.bindings.identity)
    (context : later.context = scope.context)
    (handles : ∀ handle ∈ later.bindings.handles, handle ∈ scope.bindings.handles) :
    Aside returned live own [] left scope later before { before with messenger } where
  separate := by simpa using separate
  comes handle member := .inl (fewer handle member)
  stays handle member foreign := ⟨others handle member foreign, .refl handle.place _⟩
  registers := by simp
  lane := by simp
  identity := identity
  context := context
  handles handle member := .inl (handles handle member)

/-- A request that registers delegates. -/
theorem binding {created : List Handle} (separate : before.Separate returned live)
    (bound : Bound returned live created scope.bindings later.bindings before after)
    (context : later.context = scope.context) :
    Aside returned live own created (live ++ created) scope later before after where
  separate := bound.separate
  comes _ member := List.mem_append.mp member
  stays handle member _ := ⟨List.mem_append_left _ member, bound.same handle.place
    (separate.used handle (separate.sound.registered.subset member))⟩
  registers _ member := List.mem_append_right _ member
  lane := bound.lane
  identity := by rw [bound.handles]
  context := context
  handles handle member := by
    rw [bound.handles] at member
    exact List.mem_append.mp member

theorem not_created {created left : List Handle}
    (aside : Aside returned live own created left scope later before after) {handle : Handle}
    (member : handle ∈ returned) : handle ∉ created :=
  fun new => (List.pairwise_append.mp aside.separate.apart).2.2 handle member handle new rfl

end Aside

section Request

variable {steady : Prop} {returned live own : List Handle} {scope : Scope} {world : World}

private theorem Request.aside_remove (separate : world.bus.Separate returned live) {handle : Handle}
    (mine : handle ∈ own) (known : ∀ other ∈ own, other ∈ returned) :
    ∃ left, Aside returned live own [] left scope (Request.perform (.remove handle) scope world).1.2
      world.bus (Request.perform (.remove handle) scope world).2.bus := by
  refine ⟨_, .removing (separate.remove handle) (fun _ member => (List.mem_filter.mp member).1)
    (fun other member foreign => ?_) rfl rfl fun _ member => member⟩
  refine List.mem_filter.mpr ⟨member, bne_iff_ne.mpr fun same => foreign ?_⟩
  obtain rfl := separate.sound.ordered.eq_of_id (separate.sound.registered.subset member)
    (known handle mine) same
  exact mine

/-- An observer leaves aside what is not its own, registers open delegates only, and is answered
what it can be answered. -/
theorem Request.aside {request : Request} (observes : request.Observes steady own)
    (separate : world.bus.Separate returned live) (known : ∀ handle ∈ own, handle ∈ returned)
    (mine : ∀ handle ∈ scope.bindings.handles, handle ∈ own) :
    ∃ created left, request.Grants own (request.perform scope world).1.1 created ∧
      (∀ handle ∈ created, handle.IsOpen) ∧
      Aside returned live own created left scope (request.perform scope world).1.2
        world.bus (request.perform scope world).2.bus := by
  have apart {handle other : Handle} (member : handle ∈ own) (listed : other ∈ live)
      (foreign : other ∉ own) : handle.place ≠ other.place := fun same => foreign <|
    separate.eq_of_place (known handle member) (separate.sound.registered.subset listed) same ▸
      member
  cases request with
  | bindApart name kind payload flags => exact observes.elim
  | dispatch message name => exact observes.elim
  | draw wanted => exact observes.elim
  | bindSlot kind payload flags =>
    obtain ⟨rfl, _⟩ := observes
    rcases separate.bindSlot_cases scope.bindings .multi payload flags with
      ⟨error, refused, unsuitable, bound⟩ | ⟨id, accepted, bound⟩
    · exact ⟨[], _, granted_of_error refused unsuitable, by simp, .binding separate bound rfl⟩
    · refine ⟨_, _, granted_of_ok accepted ⟨rfl, rfl⟩, ?_, .binding separate bound rfl⟩
      rintro _ member slot place
      rw [List.mem_singleton.mp member] at place
      cases place
      rfl
  | register binding flags =>
    rcases separate.register_cases scope.bindings observes.1 flags with
      ⟨error, refused, unsuitable, bound⟩ | ⟨handle, accepted, flags, opened, bound⟩
    · exact ⟨[], _, granted_of_error refused unsuitable, by simp, .binding separate bound rfl⟩
    · exact ⟨_, _, granted_of_ok accepted ⟨rfl, flags⟩, by simpa using opened,
        .binding separate bound rfl⟩
  | remove handle =>
    obtain ⟨left, aside⟩ := Request.aside_remove separate observes known
    exact ⟨[], left, rfl, by simp, aside⟩
  | release =>
    obtain ⟨messenger, removed, _, left⟩ := separate.removeAll scope.bindings.handles
    have released : (Request.perform .release scope world).2.bus =
        { world.bus with messenger } := removed
    rw [released]
    refine ⟨[], _, rfl, by simp, .removing left (fun _ member => (List.mem_filter.mp member).1)
      ?_ rfl rfl fun _ member => absurd member List.not_mem_nil⟩
    intro other member foreign
    refine List.mem_filter.mpr ⟨member, List.all_eq_true.mpr fun handle bound => ?_⟩
    refine bne_iff_ne.mpr fun same => foreign ?_
    obtain rfl := separate.sound.ordered.eq_of_id (separate.sound.registered.subset member)
      (known handle (mine handle bound)) same
    exact mine _ bound
  | drain slot =>
    obtain ⟨handle, member, place⟩ := observes
    refine ⟨[], live, rfl, by simp, .emptying (separate.resetSlot slot)
      fun other listed foreign => ?_⟩
    exact same_setContents _ slot [] _ (place ▸ apart member listed foreign)
  | resetSlot slot =>
    obtain ⟨handle, member, place⟩ := observes
    refine ⟨[], live, rfl, by simp, .emptying (separate.resetSlot slot)
      fun other listed foreign => ?_⟩
    exact same_setContents _ slot [] _ (place ▸ apart member listed foreign)
  | resetHandle handle =>
    refine ⟨[], live, rfl, by simp, .emptying (separate.resetEach [handle])
      fun other listed foreign => ?_⟩
    exact resetEach_same [handle] _ _
      (List.forall_mem_singleton.mpr (apart observes listed foreign))
  | resetAll =>
    have reset : (Request.perform .resetAll scope world).2.bus =
        { world.bus with store := resetEach scope.bindings.handles world.bus.store } :=
      Bindings.reset_eq scope.bindings world.bus
    rw [reset]
    refine ⟨[], live, rfl, by simp, .emptying (separate.resetEach _)
      fun other listed foreign => ?_⟩
    exact resetEach_same _ _ _ fun handle bound => apart (mine handle bound) listed foreign
  | handles => exact ⟨[], live, ⟨mine, rfl⟩, by simp, .idle separate⟩
  | _ => exact ⟨[], live, rfl, by simp, .idle separate⟩

end Request

end Beamline.Run
