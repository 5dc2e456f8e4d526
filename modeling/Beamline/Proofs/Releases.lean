import Beamline.Proofs.ClientsInvariant
import Beamline.Proofs.Routing

/-!
Release of bindings. Whatever was done with messengers and the bindings on them, release removes
exactly the delegates that were registered through the bindings.
-/

namespace Beamline.Bus

namespace Registry.Lists

variable {registry other : Registry} {live : List Handle} {wanted : Handle → Bool}

private theorem bucket_filter (lists : Lists registry live)
    (fewer : Lists other (live.filter wanted))
    (type : TypeKey) (name : NameKey) :
    (other.bucket type name).handles = (registry.bucket type name).handles.filter wanted := by
  rw [lists.bucket_handles, fewer.bucket_handles, List.filter_filter, List.filter_filter]
  exact List.filter_congr fun handle _ => Bool.and_comm _ _

private theorem candidates_filter (lists : Lists registry live)
    (fewer : Lists other (live.filter wanted))
    (source : Identity) (message : Message) (name : String) :
    other.candidates source message name =
      (registry.candidates source message name).filter wanted := by
  rw [lists.candidates_eq, fewer.candidates_eq, List.filter_append]
  simp only [List.filter_filter, Bool.and_comm]

end Registry.Lists

/-- What the release of bindings leaves of a bus: their delegates are gone, and all others are where
they were and get what they got. -/
structure Bindings.Leaves (bindings : Bindings) (before after : Bus) : Prop where
  gone : ∀ held ∈ bindings.handles, ∀ handle ∈ after.messenger.registry.handles,
    handle.id ≠ held.id
  index : ∀ handle : Handle, after.messenger.registry.index[handle.id]? =
    if bindings.spares handle then before.messenger.registry.index[handle.id]? else none
  bucket : ∀ type name, (after.messenger.registry.bucket type name).handles =
    (before.messenger.registry.bucket type name).handles.filter bindings.spares
  candidates : ∀ source message name, after.messenger.candidates source message name =
    (before.messenger.candidates source message name).filter bindings.spares
  /-- Each delegate that goes is counted once. -/
  counted : after.messenger.stats.removed + after.messenger.delegateCount =
    before.messenger.stats.removed + before.messenger.delegateCount
  /-- Nothing else changes. -/
  frame : after = { before with
    messenger := { before.messenger with
      registry := after.messenger.registry
      stats := { before.messenger.stats with removed := after.messenger.stats.removed } } }

theorem Sound.leaves {bus : Bus} {returned live : List Handle}
    (sound : bus.Sound returned live) (bindings : Bindings) :
    bindings.Leaves bus (bindings.release bus).2.2 := by
  obtain ⟨registry, gone, fewer, count, removed, _⟩ := sound.removeAll_snd bindings.handles
  change (bindings.release bus).2.2 = _ at removed
  change registry.Lists (live.filter bindings.spares) at fewer
  change (live.filter bindings.spares).length + gone = live.length at count
  have lists := Usage.Sound.lists sound
  rw [removed]
  exact {
    gone := by
      intro held member handle listed same
      have spared := (List.mem_filter.mp (fewer.mem_handles.mp listed)).2
      have different := bne_iff_ne.mp (List.all_eq_true.mp spared held member)
      exact different same
    index := by
      intro handle
      refine Option.ext fun keys => ?_
      obtain ⟨type, name⟩ := keys
      have indexed := lists.index handle.id type name
      have left := fewer.index handle.id type name
      change bus.messenger.registry.index[handle.id]? = _ ↔ _ at indexed
      change registry.index[handle.id]? = _ ↔ _
      rw [left]
      have alike (delegate : Delegate) :
          bindings.spares { id := handle.id, delegate } = bindings.spares handle := rfl
      simp only [List.mem_filter, alike]
      split
      · rename_i spared
        simp [indexed, spared]
      · rename_i held
        simp [held]
    bucket := lists.bucket_filter fewer
    candidates := lists.candidates_filter fewer
    counted := by
      have after := fewer.size_index
      have before : bus.messenger.registry.index.size = live.length := lists.size_index
      change bus.messenger.stats.removed + gone + registry.index.size =
        bus.messenger.stats.removed + bus.messenger.registry.index.size
      omega
    frame := rfl }

namespace Clients.Sound

variable {clients : Clients} {number index : Nat} {registrations : List Registration}
  {removals : List (Nat × Nat)} {live : List Handle} {bindings : Bindings}
  (sound : clients.Sound number registrations removals live)
  (made : clients.bindings[index]? = some (number, bindings))

include sound made

/-- A delegate of bindings is registered unless it was removed otherwise. -/
theorem mem_live_iff {handle : Handle} (held : handle ∈ bindings.handles) :
    handle ∈ live ↔ (number, handle.id) ∉ removals := by
  constructor
  · intro listed removed
    exact (sound.removed handle.id removed).2 handle listed rfl
  · exact ((sound.bindings index bindings made).present handle held).resolve_right

/-- Bindings hold their delegates in the order of registration. -/
theorem ordered : Ordered bindings.handles := by
  have through := (sound.bindings index bindings made).through
  exact List.Pairwise.sublist (through.trans registeredThrough_sublist)
    (Usage.Sound.ordered sound.bus)

/-- A release fails with the error of the first delegate that was removed before. -/
theorem release_fst : (bindings.release (clients.bus number)).1 =
    (bindings.handles.find? fun handle => (number, handle.id) ∈ removals).elim (.ok ())
      fun handle => .error (.consistency (.notRegistered handle.uniqueName)) := by
  have distinct : (bindings.handles.map Handle.id).Nodup :=
    List.pairwise_map.mpr ((sound.ordered made).imp fun below => Nat.ne_of_lt below)
  have faults := sound.bus.removeAll_fst distinct
  have missing : (bindings.handles.find? fun handle =>
      live.all fun listed => listed.id != handle.id) =
        bindings.handles.find? fun handle => (number, handle.id) ∈ removals := by
    refine find?_congr fun handle held => ?_
    refine Bool.eq_iff_iff.mpr ?_
    rw [List.all_eq_true, decide_eq_true_iff]
    constructor
    · intro absent
      by_contra kept
      have listed := (sound.mem_live_iff made held).mpr kept
      simpa using absent handle listed
    · intro removed listed member
      exact bne_iff_ne.mpr ((sound.removed handle.id removed).2 listed member)
  rw [missing] at faults
  unfold Bindings.release
  generalize Bindings.removeAll (clients.bus number) bindings.handles = result at faults ⊢
  obtain ⟨fault, bus⟩ := result
  obtain rfl := faults
  cases bindings.handles.find? fun handle => (number, handle.id) ∈ removals <;> rfl

/-- If bindings alone register delegates of their module and no one else removes them, then they
hold just the delegates of the module. -/
theorem delegatesOf_eq (kept : ∀ handle ∈ bindings.handles, (number, handle.id) ∉ removals)
    (alone : ∀ registration ∈ registrations, registration.messenger = number →
      registration.handle.delegate.receiver.same bindings.identity = true →
        registration.through = some index) :
    (clients.bus number).messenger.delegatesOf bindings.identity = bindings.handles := by
  have lists := Usage.Sound.lists sound.bus
  refine inOrder_eq ?_ (sound.ordered made) fun handle => ?_
  · exact (lists.handles_perm.nodup_iff.mpr lists.ordered.nodup).filter _
  · rw [List.mem_filter]
    constructor
    · intro delegate
      obtain ⟨member, own⟩ := delegate
      have listed := lists.mem_handles.mp member
      obtain ⟨registration, registered, here, rfl⟩ :=
        mem_registeredOn.mp (sound.bus.registered.subset listed)
      obtain ⟨same, found, held⟩ := sound.listed registration registered here listed index
        (alone registration registered here own)
      obtain ⟨_, rfl⟩ := Prod.mk.inj (Option.some.inj (made.symm.trans found))
      exact held
    · intro held
      have listed := (sound.mem_live_iff made held).mpr (kept handle held)
      refine ⟨lists.mem_handles.mpr listed, ?_⟩
      rw [(sound.bindings index bindings made).receiver handle held]
      exact beq_self_eq_true _

end Clients.Sound

namespace Clients

variable {clients : Clients} {index number : Nat} {bindings : Bindings}

theorem perform_through (made : clients.bindings[index]? = some (number, bindings)) (use : Use) :
    clients.perform (.through index use) = clients.use index number bindings use := by
  simp only [perform, made]

theorem through_of_registered {registration : Registration} {use : Use}
    (member : registration ∈ clients.registered (.through index use)) :
    registration.through = some index := by
  simp only [registered] at member
  split at member
  · obtain ⟨handle, _, rfl⟩ := List.mem_map.mp member
    rfl
  · cases member

private theorem bus_use (use : Use) :
    (clients.use index number bindings use).bus number =
      (use.perform bindings (clients.bus number)).2 := by
  simp [Clients.use, bus, Exchange.bus]

theorem bus_use_of_ne (use : Use) {other : Nat} (different : other ≠ number)
    (store : (use.perform bindings (clients.bus number)).2.store = clients.exchange.store) :
    (clients.use index number bindings use).bus other = clients.bus other := by
  simp only [Clients.use, bus, Exchange.bus, different, if_false] at store ⊢
  rw [store]

theorem use_drop : clients.use index number bindings .drop =
    clients.use index number bindings .release := by
  have same : Use.perform .drop bindings (clients.bus number) =
      Use.perform .release bindings (clients.bus number) :=
    Prod.ext rfl (bindings.drop_snd (clients.bus number))
  simp only [Clients.use, same, Use.keep]

theorem use_release_of_bare (made : clients.bindings[index]? = some (number, bindings))
    (bare : bindings.handles = []) : clients.use index number bindings .release = clients := by
  have nothing : Use.perform .release bindings (clients.bus number) =
      (bindings, clients.bus number) := by
    simp only [Use.perform, Bindings.release, bare, Bindings.removeAll]
    rw [← bare]
  have same : (fun other => if other = number then (clients.bus number).messenger
      else clients.exchange.messengers other) = clients.exchange.messengers := by
    funext other
    split
    · rename_i equal
      rw [equal]
      rfl
    · rfl
  obtain ⟨inside, found⟩ := List.getElem?_eq_some_iff.mp made
  simp only [Clients.use, nothing, Use.keep, same]
  rw [← found, List.set_getElem_self]
  rfl

end Clients

namespace ReleaseExample

def reader : Identity := { number := 0, name := "reader" }

def own : Handle :=
  .ofSlot 0 reader { number := 0, kind := .single, payload := .track } {}

def bindings : Bindings := { identity := reader, handles := [own] }

def bindSlot : Use := .bindSlot .single .track {}

/-- A module binds a slot and shares the handle. -/
def sharing : List Deed :=
  [.bind 0 reader, .through 0 bindSlot, .through 0 (.share 0 "own")]

private theorem after_sharing : (Clients.fresh.after sharing).bindings = [(0, bindings)] ∧
    (Clients.fresh.after sharing).exchange.kept["own"]? = some own := by
  let first : Clients := { bindings := [(0, { identity := reader })] }
  have unused (store : Store) : Bus.Sound { first.bus 0 with store } [] [] :=
    (Usage.sound_fresh store).bus
  have bound : (bindSlot.perform { identity := reader } (first.bus 0)).1 = bindings := by
    let slot : Slot := { number := 0, kind := .single, payload := .track }
    let store := (({} : Store).newSlot .single .track).2
    have suitable : Messenger.refusal ({ first.bus 0 with store } : Bus).messenger (.slot slot) {} =
        none := (unused store).refusal_eq_none rfl (by simp)
    have bound : (Bindings.bindSlot { identity := reader } (first.bus 0) .single .track {}).2.1 = _ :=
      congrArg (fun result => result.2.1) (Bindings.bindSlot_of_suitable rfl suitable)
    exact bound
  have used : first.perform (.through 0 bindSlot) =
      first.use 0 0 { identity := reader } bindSlot := Clients.perform_through rfl bindSlot
  have held : (first.use 0 0 { identity := reader } bindSlot).bindings = [(0, bindings)] := by
    rw [← bound]
    rfl
  have last : Clients.fresh.after sharing =
      (first.use 0 0 { identity := reader } bindSlot).perform (.through 0 (.share 0 "own")) := by
    rw [← used]
    simp only [sharing, Clients.after, List.foldl_cons, List.foldl_nil]
    rfl
  generalize first.use 0 0 { identity := reader } bindSlot = second at held last
  have made : second.bindings[0]? = some (0, bindings) := by
    rw [held]
    rfl
  rw [last, Clients.perform_through made]
  constructor
  · change second.bindings.set 0 _ = _
    rw [held]
    rfl
  · change (second.exchange.kept.insert "own" own)["own"]? = some own
    exact Std.HashMap.getElem?_insert_self

theorem removals_sharing : Clients.fresh.removals sharing = [] := rfl

private theorem through_of_sharing {registration : Registration}
    (member : registration ∈ Clients.fresh.registrations sharing) :
    registration.through = some 0 := by
  obtain ⟨stage, found, registered⟩ := List.mem_flatMap.mp member
  simp only [sharing, Clients.stages, List.mem_cons, List.not_mem_nil, or_false] at found
  rcases found with rfl | rfl | rfl
  · cases registered
  · exact Clients.through_of_registered registered
  · exact Clients.through_of_registered registered

end ReleaseExample

/-- Whatever was done with messengers and bindings on them, and whichever delegates of some bindings
were removed already: their release removes exactly the delegates that are left of theirs, forgets
their handles, and fails just if one was removed before, with the error of the first such one. A
second release does nothing, and to drop the bindings is to release them. Before, if the bindings
alone register delegates of their module and nobody removed one, the messenger lists them as they
do. -/
theorem release_tears_down (deeds : List Deed) {index number : Nat} {bindings : Bindings}
    (made : (Clients.fresh.after deeds).bindings[index]? = some (number, bindings)) :
    let clients := Clients.fresh.after deeds
    let registrations := Clients.fresh.registrations deeds
    let removals := Clients.fresh.removals deeds
    let released := clients.perform (.through index .release)
    let bare : Bindings := { bindings with handles := [] }
    released.bindings = clients.bindings.set index (number, bare) ∧
      bindings.Leaves (clients.bus number) (released.bus number) ∧
      (∀ other, other ≠ number → released.bus other = clients.bus other) ∧
      released.exchange.kept = clients.exchange.kept ∧
      bindings.handles.Sublist (registeredThrough number index registrations) ∧
      (∀ registration ∈ registrations, registration.messenger = number →
        registration.through ≠ some index → bindings.spares registration.handle = true) ∧
      (bindings.release (clients.bus number)).1 =
        (bindings.handles.find? fun handle => (number, handle.id) ∈ removals).elim (.ok ())
          (fun handle => .error (.consistency (.notRegistered handle.uniqueName))) ∧
      (bare.release (released.bus number)).1 = .ok () ∧
      released.perform (.through index .release) = released ∧
      clients.perform (.through index .drop) = released ∧
      ((∀ handle ∈ bindings.handles, (number, handle.id) ∉ removals) →
        (∀ registration ∈ registrations, registration.messenger = number →
          registration.handle.delegate.receiver.same bindings.identity = true →
            registration.through = some index) →
        (clients.bus number).messenger.delegatesOf bindings.identity = bindings.handles) := by
  intro clients registrations removals released bare
  obtain ⟨live, sound⟩ := Clients.Sound.after deeds number
  change clients.Sound number registrations removals live at sound
  change clients.bindings[index]? = some (number, bindings) at made
  have inside : index < clients.bindings.length := (List.getElem?_eq_some_iff.mp made).1
  have used : released = clients.use index number bindings .release :=
    Clients.perform_through made .release
  have there : released.bus number = (bindings.release (clients.bus number)).2.2 := by
    rw [used, Clients.bus_use]
    rfl
  have leaves := sound.bus.leaves bindings
  have store : (bindings.release (clients.bus number)).2.2.store = clients.exchange.store :=
    congrArg Bus.store leaves.frame
  have left : released.bindings = clients.bindings.set index (number, bare) := by
    rw [used]
    rfl
  have empty : released.bindings[index]? = some (number, bare) := by
    rw [left, List.getElem?_set_self inside]
  refine ⟨left, ?_, ?_, ?_, (sound.bindings index bindings made).through, ?_,
    sound.release_fst made, rfl, ?_, ?_, sound.delegatesOf_eq made⟩
  · rw [there]
    exact leaves
  · intro other different
    rw [used]
    exact Clients.bus_use_of_ne .release different store
  · rw [used]
    rfl
  · exact fun registration member here other => sound.spares made member here other
  · rw [Clients.perform_through empty, Clients.use_release_of_bare empty rfl]
  · rw [used, Clients.perform_through made, Clients.use_drop]

open ReleaseExample in
/-- A module that binds a slot; its bindings hold what the messenger lists for it, and their release
fails once somebody removed the delegate. -/
theorem release_after_removal :
    let removal : Deed := .direct { messenger := 0, operation := .remove "own" }
    let before := Clients.fresh.after sharing
    let clients := Clients.fresh.after (sharing ++ [removal])
    (before.bus 0).messenger.delegatesOf reader = [own] ∧
      clients.bindings = [(0, bindings)] ∧
      (clients.perform (.through 0 .release)).bindings = [(0, { identity := reader })] ∧
      (bindings.release (clients.bus 0)).1 =
        .error (.consistency (.notRegistered own.uniqueName)) := by
  intro removal before clients
  obtain ⟨held, kept⟩ := after_sharing
  obtain ⟨live, sound⟩ := Clients.Sound.after sharing 0
  have made : before.bindings[0]? = some (0, bindings) := by
    change (Clients.fresh.after sharing).bindings[0]? = _
    rw [held]
    rfl
  have unremoved : (0, own.id) ∉ Clients.fresh.removals sharing := by
    rw [removals_sharing]
    exact List.not_mem_nil
  have listed : own ∈ live :=
    (sound.mem_live_iff made (List.mem_singleton.mpr rfl)).mpr unremoved
  have answered : ((before.exchange.usage 0).step (.remove "own")).1 = .removed own (.ok ()) := by
    obtain ⟨_, _, _, removed⟩ := Usage.Sound.remove_of_id sound.bus listed rfl
    change (before.exchange.bus 0).remove own = _ at removed
    simp only [Usage.step, Usage.withHandle, Exchange.usage, before, kept]
    rw [removed]
  have gone : Clients.fresh.removals (sharing ++ [removal]) = [(0, 0)] := by
    rw [Clients.removals_concat, removals_sharing]
    change [] ++ (((before.exchange.usage 0).step (.remove "own")).1.removal?.toList.map _) = _
    rw [answered]
    rfl
  have same : clients.bindings = [(0, bindings)] := by
    have last : clients = before.perform removal :=
      Clients.after_concat Clients.fresh sharing removal
    rw [last, ← held]
    rfl
  have found : clients.bindings[0]? = some (0, bindings) := by
    rw [same]
    rfl
  obtain ⟨_, _, _, _, _, _, _, _, _, _, listing⟩ := release_tears_down sharing made
  obtain ⟨left, _, _, _, _, _, failed, _⟩ := release_tears_down (sharing ++ [removal]) found
  rw [gone] at failed
  refine ⟨listing ?_ ?_, same, ?_, failed⟩
  · intro handle member
    rw [List.mem_singleton.mp member]
    exact unremoved
  · intro registration member _ _
    exact through_of_sharing member
  · rw [left]
    exact congrArg (List.set · 0 _) same

end Beamline.Bus
