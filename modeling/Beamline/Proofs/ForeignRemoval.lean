import Beamline.Proofs.ExchangeInvariant
import Beamline.Proofs.RegistryBijection

/-!
Removal from a messenger of a delegate that another messenger returned. Removal looks at the number
of the delegate alone, and each messenger numbers its delegates from zero.
-/

namespace Beamline.Bus

/-- Delegates are numbered by their positions among those that were returned. -/
theorem Sound.getElem?_iff {bus : Bus} {returned live : List Handle}
    (sound : bus.Sound returned live) {number : Nat} {handle : Handle} :
    returned[number]? = some handle ↔ handle ∈ returned ∧ handle.id = number := by
  have numbered {position : Nat} {handle : Handle} (found : returned[position]? = some handle) :
      handle.id = position := by
    have named : (returned.map Handle.id)[position]? = some handle.id := by simp [found]
    rw [sound.numbered] at named
    obtain ⟨inside, same⟩ := List.getElem?_eq_some_iff.mp named
    rw [← same, List.getElem_range]
  constructor
  · intro found
    exact ⟨List.mem_of_getElem? found, numbered found⟩
  · intro listed
    obtain ⟨member, rfl⟩ := listed
    obtain ⟨position, found⟩ := List.mem_iff_getElem?.mp member
    rw [numbered found]
    exact found

/-- A messenger that is to remove a delegate, say of another messenger, refuses just if its own
delegate with that number, if there ever was one, is no longer registered. Otherwise it removes its
own delegate. -/
theorem foreign_removal (requests : List Request) (own other : Nat) (handle : Handle) :
    let bus := (Exchange.fresh.after requests).bus own
    let answers := Exchange.fresh.answers requests own
    (handle ∈ issued (Exchange.fresh.answers requests other) →
        (issued (Exchange.fresh.answers requests other))[handle.id]? = some handle) ∧
      (bus.remove handle = (.error (.consistency (.notRegistered handle.uniqueName)), bus) ↔
        ∀ twin, (issued answers)[handle.id]? = some twin → twin ∉ live answers) ∧
      ∀ twin ∈ live answers, (issued answers)[handle.id]? = some twin →
        bus.remove handle = bus.remove twin ∧
          ∃ registry, registry.Lists ((live answers).filter fun other => other.id != handle.id) ∧
            bus.remove handle = (.ok (), { bus with
              messenger := { bus.messenger with
                registry
                stats := { bus.messenger.stats with
                  removed := bus.messenger.stats.removed + 1 } } }) := by
  intro bus answers
  have sound : bus.Sound (issued answers) (live answers) := Exchange.sound_after requests own
  have removes (twin : Handle) (member : twin ∈ live answers)
      (found : (issued answers)[handle.id]? = some twin) :=
    Usage.Sound.remove_of_id sound member (sound.getElem?_iff.mp found).2
  refine ⟨?_, ?_, removes⟩
  · intro foreign
    exact (Exchange.sound_after requests other).getElem?_iff.mpr ⟨foreign, rfl⟩
  constructor
  · intro refused twin found member
    obtain ⟨_, registry, _, removed⟩ := removes twin member found
    rw [refused] at removed
    cases removed
  · intro absent
    refine Usage.Sound.remove_of_missing sound fun registered member same => ?_
    have found := sound.getElem?_iff.mpr ⟨sound.registered.subset member, same⟩
    exact absent registered found member

/-- Two messengers with a slot bound on each: one removes its own delegate when it is given that of
the other. -/
theorem foreign_removal_succeeds :
    let reader : Identity := { number := 0, name := "reader" }
    let first : Slot := { number := 0, kind := .single, payload := .track }
    let second : Slot := { number := 1, kind := .single, payload := .track }
    let own := Handle.ofSlot 0 reader first {}
    let foreign := Handle.ofSlot 0 reader second {}
    let requests : List Request := [
      { messenger := 0, operation := .register "own" reader (.slot first) {} },
      { messenger := 1, operation := .register "foreign" reader (.slot second) {} }]
    let bus := (Exchange.fresh.after requests).bus 0
    foreign ∈ issued (Exchange.fresh.answers requests 1) ∧
      live (Exchange.fresh.answers requests 0) = [own] ∧
      (bus.remove foreign).1 = .ok () ∧
      bus.messenger.delegateCount = 1 ∧
      (bus.remove foreign).2.messenger.delegateCount = 0 := by
  intro reader first second own foreign requests bus
  have unused : (Exchange.fresh.bus 0).Sound [] [] := Exchange.sound_after [] 0
  obtain ⟨ownRegistered, _, _⟩ := Exchange.bind_slot unused "own" reader first {} rfl
    (by simp)
  have unusedOther : ((Exchange.fresh.after (requests.take 1)).bus 1).Sound [] [] :=
    Exchange.sound_after (requests.take 1) 1
  obtain ⟨registered, _, _⟩ := Exchange.bind_slot unusedOther "foreign" reader second {} rfl
    (by simp)
  have returned : Exchange.fresh.answers requests 1 = [.registered (.ok foreign)] :=
    congrArg (fun answer => [answer]) registered
  have ownReturned : Exchange.fresh.answers requests 0 = [.registered (.ok own)] :=
    congrArg (fun answer => [answer]) ownRegistered
  have listed : live (Exchange.fresh.answers requests 0) = [own] := by
    rw [ownReturned]
    rfl
  have sound := Exchange.sound_after requests 0
  rw [listed] at sound
  change Sound bus _ _ at sound
  generalize bus = bus at sound ⊢
  have same : own.id = foreign.id := rfl
  obtain ⟨_, registry, bare, removed⟩ :=
    Usage.Sound.remove_of_id sound (List.mem_singleton.mpr rfl) same
  have before := sound.lists.size_index
  have after := bare.size_index
  refine ⟨?_, listed, ?_, before, ?_⟩
  · rw [returned]
    exact List.mem_singleton.mpr rfl
  · rw [removed]
  · rw [removed]
    exact after

end Beamline.Bus
