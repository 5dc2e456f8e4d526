import Beamline.Proofs.RegistryBijection
import Beamline.Proofs.SideBySide

/-!
Lanes that share a bus do not notice each other. What one lane sees of the operations of all lanes
is what it would see on a bus of its own, but for the numbers of delegates.
-/

namespace Beamline.Bus

namespace Operation

/-- The lane that an operation belongs to. -/
def lane (owner : Ownership) : Operation → LaneId
  | register _ receiver _ _ => receiver.lane
  | remove label | reset label | inspect label => owner.label label
  | dispatch source _ _ | hasReceiver source _ _ => source.lane
  | read slot | drain slot | resetSlot slot => owner.slot slot
  | sentMessages lane | clearSent lane => lane

/-- A lane keeps its handles under labels of its own and binds what it owns. -/
def Respects (owner : Ownership) : Operation → Prop
  | register label receiver binding _ =>
    owner.label label = receiver.lane ∧ binding.OwnedBy owner receiver.lane
  | _ => True

end Operation

/-- What one lane sees of the operations of all lanes. -/
def Usage.seen (usage : Usage) (owner : Ownership) (lane : LaneId) (operations : List Operation) :
    List Answer :=
  ((operations.zip (usage.answers operations)).filter fun (operation, _) =>
    operation.lane owner = lane).map Prod.snd

theorem Usage.seen_cons (usage : Usage) (owner : Ownership) (lane : LaneId)
    (operation : Operation) (rest : List Operation) :
    usage.seen owner lane (operation :: rest) =
      if operation.lane owner = lane then
        (usage.step operation).1 :: (usage.step operation).2.seen owner lane rest
      else (usage.step operation).2.seen owner lane rest := by
  simp only [Usage.seen, Usage.answers_cons, List.zip_cons_cons, List.filter_cons]
  split <;> simp_all

theorem nextHandle_owned {owner : Ownership} {bus : Bus} {receiver : Identity}
    {binding : Binding Filter} {flags : Flags} (belongs : binding.OwnedBy owner receiver.lane) :
    (nextHandle bus receiver binding flags).Owned owner := by
  rw [Handle.Owned, nextHandle, install_map]
  exact belongs

@[simp]
theorem remove_sentMessages (bus : Bus) (handle : Handle) (lane : LaneId) :
    (bus.remove handle).2.messenger.sentMessages lane = bus.messenger.sentMessages lane := by
  unfold Bus.remove Messenger.remove
  rcases bus.messenger.registry.erase handle with ⟨_ | fault, registry⟩ <;> rfl

theorem dispatch_sentMessages (bus : Bus) {source : Identity} (message : Message) (name : String)
    {lane : LaneId} (foreign : source.lane ≠ lane) :
    (bus.dispatch source message name).2.messenger.sentMessages lane =
      bus.messenger.sentMessages lane := by
  rcases delivered : deliver bus.store message name
    (bus.messenger.candidates source message name) with ⟨error | accepted, store⟩
  · rw [dispatch_of_error delivered]
    rfl
  · rw [dispatch_of_ok delivered]
    simp [Messenger.sentMessages, Std.HashMap.getD_insert, foreign]

theorem clearSent_sentMessages (messenger : Messenger) (cleared lane : LaneId) :
    (messenger.clearSent cleared).2.sentMessages lane =
      if cleared = lane then [] else messenger.sentMessages lane := by
  simp [Messenger.clearSent, Messenger.sentMessages, Std.HashMap.getD_erase]

/-- What an operation on two usages leads to: answers that are alike, perhaps with new twins, and
usages that are still side by side. -/
def Usage.Together (owner : Ownership) (lane : LaneId) (returned live : List Handle)
    (twins : List (Handle × Handle)) (one other : Answer × Usage) : Prop :=
  ∃ added listed, one.1.handle?.toList = added.map Prod.fst ∧
    other.1.handle?.toList = added.map Prod.snd ∧ one.1.Alike (twins ++ added) other.1 ∧
    Usage.Beside owner lane one.2 other.2 (returned ++ one.1.handle?.toList)
      (one.1.follow live) (twins ++ added) listed

namespace Usage.Beside

variable {owner : Ownership} {lane : LaneId} {shared alone later beyond : Usage}
  {returned live : List Handle} {twins listed : List (Handle × Handle)}

/-! ## An operation of the lane -/

/-- An operation that neither registers nor removes. -/
theorem together (beside : Beside owner lane later beyond returned live twins listed)
    {answer other : Answer} (silent : answer.handle? = none) (silentAlone : other.handle? = none)
    (follow : answer.follow live = live) (alike : answer.Alike twins other) :
    Together owner lane returned live twins (answer, later) (other, beyond) :=
  ⟨[], listed, by simp [silent], by simp [silentAlone], by simpa using alike,
    by simpa [silent, follow] using beside⟩

theorem register (beside : Beside owner lane shared alone returned live twins listed)
    {label : String} {receiver : Identity} {binding : Binding Filter} (flags : Flags)
    (mine : receiver.lane = lane) (labelled : owner.label label = receiver.lane)
    (belongs : binding.OwnedBy owner receiver.lane) :
    Together owner lane returned live twins (shared.register label receiver binding flags)
      (alone.register label receiver binding flags) := by
  have same := beside.refusal_eq (mine ▸ belongs) flags
  have sound := beside.sound.register label receiver binding flags
  have soundAlone := beside.soundAlone.register label receiver binding flags
  cases refusal : shared.bus.messenger.refusal binding flags with
  | some reason =>
    rw [refusal] at same
    simp only [Usage.register, register_of_refused refusal, register_of_refused same]
    exact beside.together rfl rfl rfl (.same _)
  | none =>
    rw [refusal] at same
    simp only [Usage.register, register_of_suitable refusal, register_of_suitable same]
      at sound soundAlone ⊢
    let pair := (nextHandle shared.bus receiver binding flags,
      nextHandle alone.bus receiver binding flags)
    have twin : pair.1.Twins pair.2 := ⟨rfl, rfl, by simp [pair, nextHandle]⟩
    have member : pair ∈ twins ++ [pair] := by simp
    refine ⟨[pair], listed ++ [pair], rfl, rfl, .registered member, ?_⟩
    exact {
      sound
      soundAlone := by
        rw [List.map_append, List.map_append]
        exact soundAlone
      mine := by
        have own : (nextHandle shared.bus receiver binding flags).lane = lane := mine
        simp [Answer.handle?, beside.mine, own, pair]
      current := by
        have own : (nextHandle shared.bus receiver binding flags).lane = lane := mine
        simp [Answer.follow, beside.current, own, pair]
      sublist := beside.sublist.append (.refl _)
      alike := by
        intro other present
        rcases List.mem_append.mp present with old | new
        · exact beside.alike other old
        · exact List.mem_singleton.mp new ▸ twin
      owned := beside.owned_append (nextHandle_owned belongs)
      kept := by
        intro called own
        simp only [Std.HashMap.getElem?_insert]
        split
        · exact .inr ⟨pair, member, rfl, rfl⟩
        · rcases beside.kept called own with none | ⟨other, present, found⟩
          · exact .inl none
          · exact .inr ⟨other, List.mem_append_left _ present, found⟩
      labels := beside.labels_insert labelled
      agree := beside.agree.install beside.linked_lt rfl rfl
      sent := beside.sent }

theorem remove (beside : Beside owner lane shared alone returned live twins listed)
    {pair : Handle × Handle} (member : pair ∈ twins) :
    Together owner lane returned live twins
      (.removed pair.1 (shared.bus.remove pair.1).1,
        { shared with bus := (shared.bus.remove pair.1).2 })
      (.removed pair.2 (alone.bus.remove pair.2).1,
        { alone with bus := (alone.bus.remove pair.2).2 }) := by
  have issued := (beside.mem_returned member).1
  have issuedAlone : pair.2 ∈ twins.map Prod.snd := List.mem_map_of_mem member
  have alike : ResultAlike twins (shared.bus.remove pair.1).1 (alone.bus.remove pair.2).1 := by
    by_cases registered : pair.1 ∈ live
    · rw [(beside.sound.remove_eq_ok_iff issued).mpr registered,
        (beside.soundAlone.remove_eq_ok_iff issuedAlone).mpr
          ((beside.mem_live_iff member).mp registered)]
      exact .ok ()
    · rw [beside.sound.remove_of_not_registered issued registered,
        beside.soundAlone.remove_of_not_registered issuedAlone
          (mt (beside.mem_live_iff member).mpr registered),
        Handle.uniqueName, Handle.uniqueName, (beside.alike pair member).bindingName]
      exact .error (.notRegistered member _)
  have left : (listed.map Prod.snd).filter (fun other => other.id != pair.2.id) =
      (listed.filter fun other => other.1.id != pair.1.id).map Prod.snd := by
    rw [List.filter_map]
    congr 1
    refine List.filter_congr fun other present => ?_
    have ids := beside.id_iff member (beside.sublist.subset present)
    change (other.2.id != pair.2.id) = (other.1.id != pair.1.id)
    rw [Bool.eq_iff_iff, bne_iff_ne, bne_iff_ne, ne_eq, ne_eq, ids]
  refine ⟨[], listed.filter fun other => other.1.id != pair.1.id, rfl, rfl,
    .removed (by simpa using member) (by simpa using alike), ?_⟩
  simp only [Answer.handle?, Answer.follow, Option.toList_none, List.append_nil]
  exact { beside with
    sound := beside.sound.remove pair.1
    soundAlone := left ▸ beside.soundAlone.remove pair.2
    current := by
      rw [List.filter_comm, beside.current, List.filter_map]
      rfl
    sublist := List.filter_sublist.trans beside.sublist
    sent := by simpa using beside.sent }

/-- A dispatch in the lane comes out alike, and is logged on both buses or on neither. -/
theorem dispatch_alike (beside : Beside owner lane shared alone returned live twins listed)
    {source : Identity} (mine : source.lane = lane) (message : Message) (name : String) :
    ResultAlike twins (shared.bus.dispatch source message name).1
        (alone.bus.dispatch source message name).1 ∧
      Store.Agree owner lane twins (shared.bus.dispatch source message name).2.store
        (alone.bus.dispatch source message name).2.store ∧
      (alone.bus.dispatch source message name).2.messenger.sentMessages lane =
        (shared.bus.dispatch source message name).2.messenger.sentMessages lane := by
  obtain ⟨pairs, within, first, second⟩ := beside.candidates mine message name
  have members : pairs ⊆ twins := fun _ member => beside.sublist.subset (within member)
  obtain ⟨alike, agree⟩ := beside.agree.deliver beside.oneToOne name members
    (fun pair member => beside.alike pair (members member))
    (fun pair member => beside.owned_of_mem (members member))
    (fun pair member => (beside.mem_returned (members member)).2)
    fun pair member => beside.sound.candidates_typed source message name pair.1 (by
      rw [first]
      exact List.mem_map_of_mem member)
  have invoked : (alone.bus.messenger.candidates source message name).length =
      (shared.bus.messenger.candidates source message name).length := by
    rw [first, second, List.length_map, List.length_map]
  rw [← first, ← second] at alike agree
  rcases delivered : deliver shared.bus.store message name
    (shared.bus.messenger.candidates source message name) with ⟨one, store⟩
  rcases deliveredAlone : deliver alone.bus.store message name
    (alone.bus.messenger.candidates source message name) with ⟨other, twin⟩
  rw [delivered, deliveredAlone] at alike agree
  cases alike with
  | error alike =>
    rw [dispatch_of_error delivered, dispatch_of_error deliveredAlone]
    exact ⟨.error alike, agree, beside.sent⟩
  | ok accepted =>
    rw [dispatch_of_ok delivered, dispatch_of_ok deliveredAlone, invoked]
    refine ⟨.ok _, agree, ?_⟩
    have logged := beside.sent
    simp only [Messenger.sentMessages] at logged
    simp [Messenger.sentMessages, mine, logged]

theorem dispatch (beside : Beside owner lane shared alone returned live twins listed)
    {source : Identity} (mine : source.lane = lane) (message : Message) (name : String) :
    Together owner lane returned live twins (shared.step (.dispatch source message name))
      (alone.step (.dispatch source message name)) := by
  obtain ⟨alike, agree, sent⟩ := beside.dispatch_alike mine message name
  obtain ⟨registry, nextId, store⟩ := dispatch_frame shared.bus source message name
  obtain ⟨registryAlone, nextIdAlone, storeAlone⟩ := dispatch_frame alone.bus source message name
  have after : Beside owner lane { shared with bus := (shared.bus.dispatch source message name).2 }
      { alone with bus := (alone.bus.dispatch source message name).2 } returned live twins listed :=
    beside.frame (beside.sound.frame registry nextId rfl (by simp [store]))
      (beside.soundAlone.frame registryAlone nextIdAlone rfl (by simp [storeAlone])) rfl rfl
      agree sent
  exact after.together rfl rfl rfl (.dispatched alike)

/-- What is done with the handle under a label of the lane is done with twins. -/
theorem withHandle (beside : Beside owner lane shared alone returned live twins listed)
    {label : String} (mine : owner.label label = lane) {act other : Handle → Answer × Bus}
    (both : ∀ pair ∈ twins, Together owner lane returned live twins
      ((act pair.1).1, { shared with bus := (act pair.1).2 })
      ((other pair.2).1, { alone with bus := (other pair.2).2 })) :
    Together owner lane returned live twins (shared.withHandle label act)
      (alone.withHandle label other) := by
  unfold Usage.withHandle
  rcases beside.kept label mine with ⟨none, noneAlone⟩ | ⟨pair, member, found, foundAlone⟩
  · rw [none, noneAlone]
    exact beside.together rfl rfl rfl (.same _)
  · rw [found, foundAlone]
    exact both pair member

/-- Twins that are reset on both buses. -/
theorem reset (beside : Beside owner lane shared alone returned live twins listed)
    {pair : Handle × Handle} (member : pair ∈ twins) :
    Beside owner lane { shared with bus := shared.bus.reset pair.1 }
      { alone with bus := alone.bus.reset pair.2 } returned live twins listed :=
  beside.frame (beside.sound.frame rfl rfl rfl (Delegate.reset_next _ _))
    (beside.soundAlone.frame rfl rfl rfl (Delegate.reset_next _ _)) rfl rfl
    (beside.agree.reset beside.oneToOne member (beside.alike pair member)) beside.sent

/-- Slots that are emptied on both buses. -/
theorem resetSlot (beside : Beside owner lane shared alone returned live twins listed)
    (slot : Slot) : Beside owner lane
      { shared with bus := { shared.bus with store := shared.bus.store.resetSlot slot } }
      { alone with bus := { alone.bus with store := alone.bus.store.resetSlot slot } }
      returned live twins listed :=
  beside.frame (beside.sound.frame rfl rfl rfl rfl) (beside.soundAlone.frame rfl rfl rfl rfl)
    rfl rfl (beside.agree.setContents slot []) beside.sent

/-- An operation of the lane, done on both buses. -/
theorem step (beside : Beside owner lane shared alone returned live twins listed)
    {operation : Operation} (mine : operation.lane owner = lane)
    (respectful : operation.Respects owner) :
    Together owner lane returned live twins (shared.step operation) (alone.step operation) := by
  cases operation with
  | register label receiver binding flags =>
    exact beside.register flags mine respectful.1 respectful.2
  | remove label => exact beside.withHandle mine fun pair member => beside.remove member
  | reset label =>
    exact beside.withHandle mine fun pair member =>
      (beside.reset member).together rfl rfl rfl (.same _)
  | inspect label =>
    refine beside.withHandle mine fun pair member => ?_
    have twin := beside.alike pair member
    have satisfied := beside.agree.isSatisfied member twin (beside.owned_of_mem member)
      (beside.mem_returned member).2
    have unmet : pair.2.unmetRequirement alone.bus.store =
        pair.1.unmetRequirement shared.bus.store := by
      rw [Handle.unmetRequirement, Handle.unmetRequirement, Handle.isRequired, Handle.isRequired,
        satisfied, twin.flags, twin.unmet]
    rw [satisfied, unmet]
    exact beside.together rfl rfl rfl (.same _)
  | dispatch source message name => exact beside.dispatch mine message name
  | hasReceiver source message name =>
    obtain ⟨pairs, _, first, second⟩ := beside.candidates mine message name
    have same : alone.bus.messenger.hasReceiver source message name =
        shared.bus.messenger.hasReceiver source message name := by
      simp only [Messenger.hasReceiver, first, second, List.isEmpty_map]
    simp only [Usage.step, same]
    exact beside.together rfl rfl rfl (.same _)
  | read slot =>
    simp only [Usage.step, beside.agree.contents slot mine]
    exact beside.together rfl rfl rfl (.same _)
  | drain slot =>
    simp only [Usage.step, Store.drain, beside.agree.contents slot mine]
    exact (beside.resetSlot slot).together rfl rfl rfl (.same _)
  | resetSlot slot => exact (beside.resetSlot slot).together rfl rfl rfl (.same _)
  | sentMessages named =>
    obtain rfl : named = lane := mine
    simp only [Usage.step, beside.sent]
    exact beside.together rfl rfl rfl (.same _)
  | clearSent named =>
    obtain rfl : named = lane := mine
    have count : (alone.bus.messenger.clearSent named).1 =
        (shared.bus.messenger.clearSent named).1 := by
      simp only [Messenger.clearSent, beside.sent]
    have after : Beside owner named
        { shared with
          bus := { shared.bus with messenger := (shared.bus.messenger.clearSent named).2 } }
        { alone with
          bus := { alone.bus with messenger := (alone.bus.messenger.clearSent named).2 } }
        returned live twins listed :=
      beside.frame (beside.sound.frame rfl rfl rfl rfl) (beside.soundAlone.frame rfl rfl rfl rfl)
        rfl rfl beside.agree (by simp [clearSent_sentMessages])
    simp only [Usage.step, count]
    exact after.together rfl rfl rfl (.same _)

/-! ## An operation of another lane -/

private theorem register_other (beside : Beside owner lane shared alone returned live twins listed)
    {label : String} {receiver : Identity} {binding : Binding Filter} (flags : Flags)
    (foreign : receiver.lane ≠ lane) (labelled : owner.label label = receiver.lane)
    (belongs : binding.OwnedBy owner receiver.lane) :
    Beside owner lane (shared.register label receiver binding flags).2 alone
      (returned ++ (shared.register label receiver binding flags).1.handle?.toList)
      ((shared.register label receiver binding flags).1.follow live) twins listed := by
  have sound := beside.sound.register label receiver binding flags
  cases refusal : shared.bus.messenger.refusal binding flags with
  | some reason =>
    simp only [Usage.register, register_of_refused refusal, Answer.handle?, Answer.follow,
      Option.toList_none, List.append_nil]
    exact beside
  | none =>
    simp only [Usage.register, register_of_suitable refusal] at sound ⊢
    have other : (nextHandle shared.bus receiver binding flags).lane ≠ lane := foreign
    exact {
      sound
      soundAlone := beside.soundAlone
      mine := by simp [Answer.handle?, beside.mine, other]
      current := by simp [Answer.follow, beside.current, other]
      sublist := beside.sublist
      alike := beside.alike
      owned := beside.owned_append (nextHandle_owned belongs)
      kept := by
        intro called own
        have different : label ≠ called := by
          rintro rfl
          exact foreign (labelled.symm.trans own)
        simpa [Std.HashMap.getElem?_insert, different] using beside.kept called own
      labels := beside.labels_insert labelled
      agree := beside.agree.install_other (fun number other linked =>
        (beside.linked_lt number other linked).1) binding
      sent := beside.sent }

private theorem remove_other (beside : Beside owner lane shared alone returned live twins listed)
    {handle : Handle} (member : handle ∈ returned) (foreign : handle.lane ≠ lane) :
    Beside owner lane { shared with bus := (shared.bus.remove handle).2 } alone returned
      (live.filter fun other => other.id != handle.id) twins listed :=
  { beside with
    sound := beside.sound.remove handle
    current := by
      rw [List.filter_filter, ← beside.current]
      refine List.filter_congr fun other present => ?_
      have apart : other.id = handle.id → other.lane ≠ lane := fun same =>
        beside.sound.ordered.eq_of_id (beside.sound.registered.subset present) member same ▸ foreign
      by_cases own : other.lane = lane
      · simp [own, mt apart (not_not_intro own)]
      · simp [own]
    sent := by simpa using beside.sent }

/-- What is done with the handle under a label of another lane is done with a delegate of it. -/
theorem withHandle_other (beside : Beside owner lane shared alone returned live twins listed)
    {label : String} (foreign : owner.label label ≠ lane) {act : Handle → Answer × Bus}
    (each : ∀ handle ∈ returned, handle.lane ≠ lane →
      Beside owner lane { shared with bus := (act handle).2 } alone
        (returned ++ (act handle).1.handle?.toList) ((act handle).1.follow live) twins listed) :
    Beside owner lane (shared.withHandle label act).2 alone
      (returned ++ (shared.withHandle label act).1.handle?.toList)
      ((shared.withHandle label act).1.follow live) twins listed := by
  unfold Usage.withHandle
  cases found : shared.kept[label]? with
  | none => simpa [Answer.handle?, Answer.follow] using beside
  | some handle =>
    have other := beside.labels label handle found
    exact each handle (beside.sound.kept label handle found) (other ▸ foreign)

theorem step_other (beside : Beside owner lane shared alone returned live twins listed)
    {operation : Operation} (foreign : operation.lane owner ≠ lane)
    (respectful : operation.Respects owner) :
    Beside owner lane (shared.step operation).2 alone
      (returned ++ (shared.step operation).1.handle?.toList)
      ((shared.step operation).1.follow live) twins listed := by
  -- What neither registers nor removes leaves the lists of delegates as they are.
  have silent {answer : Answer} (none : answer.handle? = none) (same : answer.follow live = live)
      {later : Usage} (after : Beside owner lane later alone returned live twins listed) :
      Beside owner lane later alone (returned ++ answer.handle?.toList) (answer.follow live)
        twins listed := by
    simpa [none, same] using after
  cases operation with
  | register label receiver binding flags =>
    exact beside.register_other flags foreign respectful.1 respectful.2
  | remove label =>
    refine beside.withHandle_other foreign fun handle member other => ?_
    simpa [Answer.handle?, Answer.follow] using beside.remove_other member other
  | reset label =>
    refine beside.withHandle_other foreign fun handle member other => silent rfl rfl ?_
    exact beside.frame (beside.sound.frame rfl rfl rfl (Delegate.reset_next _ _))
      beside.soundAlone rfl rfl (beside.agree.reset_other (beside.owned handle member) other
        (beside.unlinked member other)) beside.sent
  | inspect label => exact beside.withHandle_other foreign fun _ _ _ => silent rfl rfl beside
  | dispatch source message name =>
    obtain ⟨registry, nextId, store⟩ := dispatch_frame shared.bus source message name
    have candidates (handle : Handle)
        (member : handle ∈ shared.bus.messenger.candidates source message name) :
        handle ∈ returned ∧ handle.lane ≠ lane := by
      obtain ⟨present, wants⟩ := beside.sound.lists.mem_candidates.mp member
      exact ⟨beside.sound.registered.subset present, fun own => foreign (wants.1.symm.trans own)⟩
    have agree := beside.agree.deliver_other message name
      (fun handle member => beside.owned handle (candidates handle member).1)
      (fun handle member => (candidates handle member).2)
      fun handle member => beside.unlinked (candidates handle member).1 (candidates handle member).2
    refine silent rfl rfl ?_
    exact beside.frame (beside.sound.frame registry nextId rfl (by simp [Usage.step, store]))
      beside.soundAlone rfl rfl (store ▸ agree) (by
        rw [beside.sent]
        exact (dispatch_sentMessages shared.bus message name foreign).symm)
  | hasReceiver source message name => exact silent rfl rfl beside
  | read slot => exact silent rfl rfl beside
  | drain slot =>
    refine silent rfl rfl ?_
    exact beside.frame (beside.sound.frame rfl rfl rfl rfl) beside.soundAlone rfl rfl
      (beside.agree.setContents_other foreign []) beside.sent
  | resetSlot slot =>
    refine silent rfl rfl ?_
    exact beside.frame (beside.sound.frame rfl rfl rfl rfl) beside.soundAlone rfl rfl
      (beside.agree.setContents_other foreign []) beside.sent
  | sentMessages named => exact silent rfl rfl beside
  | clearSent named =>
    refine silent rfl rfl ?_
    have different : named ≠ lane := foreign
    exact beside.frame (beside.sound.frame rfl rfl rfl rfl) beside.soundAlone rfl rfl
      beside.agree (by simp [Usage.step, clearSent_sentMessages, different, beside.sent])

/-! ## All operations -/

/-- Operations of all lanes on the shared bus, and of the lane alone on its own. -/
theorem run (beside : Beside owner lane shared alone returned live twins listed)
    (operations : List Operation)
    (respectful : ∀ operation ∈ operations, operation.Respects owner) :
    ∃ added returned live listed,
      issued (shared.seen owner lane operations) = added.map Prod.fst ∧
      issued (alone.answers (operations.filter fun operation => operation.lane owner = lane)) =
        added.map Prod.snd ∧
      List.Forall₂ (Answer.Alike (twins ++ added)) (shared.seen owner lane operations)
        (alone.answers (operations.filter fun operation => operation.lane owner = lane)) ∧
      Beside owner lane (shared.after operations)
        (alone.after (operations.filter fun operation => operation.lane owner = lane))
        returned live (twins ++ added) listed := by
  -- An operation of the lane moves both usages on, one of another lane the shared usage alone.
  induction operations generalizing shared alone returned live twins listed with
  | nil =>
    refine ⟨[], returned, live, listed, rfl, rfl, .nil, ?_⟩
    rw [List.append_nil]
    exact beside
  | cons operation rest ih =>
    obtain ⟨respects, respectful⟩ := List.forall_mem_cons.mp respectful
    by_cases mine : operation.lane owner = lane
    · obtain ⟨first, _, one, other, alike, next⟩ := beside.step mine respects
      obtain ⟨added, returned, live, listed, seen, answered, others, after⟩ :=
        ih next respectful
      rw [List.append_assoc] at others after
      have grown : twins ++ first ⊆ twins ++ (first ++ added) := by
        rw [← List.append_assoc]
        exact List.subset_append_left _ _
      simp only [seen_cons, mine, ↓reduceIte, decide_true, List.filter_cons_of_pos, answers_cons,
        issued_cons]
      exact ⟨first ++ added, returned, live, listed, by rw [one, seen, List.map_append],
        by rw [other, answered, List.map_append], .cons (alike.mono grown) others, after⟩
    · have next := beside.step_other mine respects
      obtain ⟨added, returned, live, listed, seen, answered, alike, after⟩ := ih next respectful
      have skipped : (operation :: rest).filter (fun operation => operation.lane owner = lane) =
          rest.filter fun operation => operation.lane owner = lane :=
        List.filter_cons_of_neg (by simpa using mine)
      rw [skipped, seen_cons, if_neg mine]
      exact ⟨added, returned, live, listed, seen, answered, alike, after⟩

end Usage.Beside

/-- Whatever lanes do in turn with a messenger, if each uses slots, memories and handles of its own,
each of them sees what it would see if it were alone. Its delegates are bound in the same way and in
the same order, and only their numbers differ. -/
theorem lanes_isolated (store : Store) (owner : Ownership) (operations : List Operation)
    (respectful : ∀ operation ∈ operations, operation.Respects owner) (lane : LaneId) :
    let own := operations.filter fun operation => operation.lane owner = lane
    let seen := (Usage.fresh store).seen owner lane operations
    let alone := (Usage.fresh store).answers own
    let bus := ((Usage.fresh store).after operations).bus
    let ownBus := ((Usage.fresh store).after own).bus
    List.Forall₂ (Answer.Alike ((issued seen).zip (issued alone))) seen alone ∧
      List.Forall₂ Handle.Twins (issued seen) (issued alone) ∧
      Ordered (issued seen) ∧ Ordered (issued alone) ∧
      (∀ slot, owner.slot slot = lane → ownBus.store.contents slot = bus.store.contents slot) ∧
      (∀ pair ∈ (issued seen).zip (issued alone),
        pair.2.isSatisfied ownBus.store = pair.1.isSatisfied bus.store) ∧
      ownBus.messenger.sentMessages lane = bus.messenger.sentMessages lane := by
  intro own seen alone bus ownBus
  obtain ⟨twins, returned, live, listed, first, second, alike, after⟩ :=
    (Usage.Beside.fresh owner lane store).run operations respectful
  rw [List.nil_append] at alike after
  have zipped : (issued seen).zip (issued alone) = twins := by
    simp only [seen, alone, own, first, second]
    exact (List.zip_of_prod rfl rfl).symm
  rw [zipped]
  refine ⟨alike, ?_, ?_, ?_, after.agree.contents, ?_, after.sent⟩
  · simp only [seen, alone, own, first, second]
    rw [List.forall₂_map_left_iff, List.forall₂_map_right_iff, List.forall₂_same]
    exact after.alike
  · have ordered := after.sound.ordered.filter fun handle => handle.lane = lane
    rw [after.mine, ← first] at ordered
    exact ordered
  · have ordered := after.soundAlone.ordered
    rw [← second] at ordered
    exact ordered
  · intro pair member
    exact after.agree.isSatisfied member (after.alike pair member) (after.owned_of_mem member)
      (after.mem_returned member).2

/-- Two lanes that bind a slot each, taking turns. -/
theorem lanes_isolated_taking_turns :
    let first : Slot := { number := 0, kind := .single, payload := default }
    let second : Slot := { number := 1, kind := .single, payload := default }
    let owner : Ownership := {
      label := fun label => { index := if label = "first" then 0 else 1 }
      slot := fun slot => { index := slot.number.toUInt16 }
      memory := fun _ => { index := 0 } }
    let operations : List Operation := [
      .register "first" { number := 0, name := "reader", lane := { index := 0 } } (.slot first) {},
      .register "second" { number := 1, name := "reader", lane := { index := 1 } }
        (.slot second) {},
      .remove "first", .inspect "second", .remove "second"]
    let seen := (Usage.fresh {}).seen owner { index := 1 } operations
    let alone := (Usage.fresh {}).answers
      (operations.filter fun operation => operation.lane owner = { index := 1 })
    (∀ operation ∈ operations, operation.Respects owner) ∧
      List.Forall₂ (Answer.Alike ((issued seen).zip (issued alone))) seen alone ∧
      List.Forall₂ Handle.Twins (issued seen) (issued alone) := by
  intro first second owner operations seen alone
  have respectful : ∀ operation ∈ operations, operation.Respects owner := by
    simp [operations, owner, first, second, Operation.Respects, Binding.OwnedBy]
  obtain ⟨alike, twins, _⟩ := lanes_isolated {} owner operations respectful { index := 1 }
  exact ⟨respectful, alike, twins⟩

end Beamline.Bus
