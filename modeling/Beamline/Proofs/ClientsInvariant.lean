import Beamline.Bus.Clients
import Beamline.Proofs.ForeignRemoval
import Beamline.Proofs.Separation

namespace Beamline.Bus

namespace Use

/-- What using bindings comes to: delegates are registered and kept, or all those that were kept are
removed. -/
inductive Outcome (returned live : List Handle) (bindings : Bindings) (bus : Bus) :
    Bindings × Bus → Prop
  | kept (created : List Handle) (later : Bus)
      (sound : later.Sound (returned ++ created) (live ++ created))
      (more : bus.store.next ≤ later.store.next)
      (own : ∀ handle ∈ created, handle.delegate.receiver = bindings.identity) :
      Outcome returned live bindings bus
        ({ bindings with handles := bindings.handles ++ created }, later)
  | released (messenger : Messenger)
      (sound : Bus.Sound { bus with messenger } returned (live.filter bindings.spares)) :
      Outcome returned live bindings bus ({ bindings with handles := [] }, { bus with messenger })

section Outcome

variable {bus later : Bus} {returned live : List Handle} {bindings : Bindings}

theorem Outcome.idle (sound : later.Sound returned live)
    (more : bus.store.next ≤ later.store.next) :
    Outcome returned live bindings bus (bindings, later) := by
  have nothing : Outcome returned live bindings bus
      ({ bindings with handles := bindings.handles ++ [] }, later) :=
    .kept [] later (by simpa using sound) more (by simp)
  simpa using nothing

theorem Outcome.next_le {result : Bindings × Bus}
    (outcome : Outcome returned live bindings bus result) :
    bus.store.next ≤ result.2.store.next := by
  cases outcome with
  | kept created later sound more own => exact more
  | released messenger sound => exact Nat.le_refl _

theorem outcome_register (sound : later.Sound returned live)
    (more : bus.store.next ≤ later.store.next) (binding : Binding Filter) (flags : Flags) :
    Outcome returned live bindings bus (bindings.register later binding flags).2 := by
  cases refusal : later.messenger.refusal binding flags with
  | some reason =>
    simp only [Bindings.register, register_of_refused refusal]
    exact .idle sound more
  | none =>
    have registered := (Usage.Sound.register sound "" bindings.identity binding flags).bus
    simp only [Usage.register, register_of_suitable refusal, Answer.handle?, Option.toList_some,
      Answer.follow] at registered
    simp only [Bindings.register, register_of_suitable refusal]
    refine .kept _ _ registered (Nat.le_trans more (install_next_le _ _)) fun handle new => ?_
    rw [List.mem_singleton.mp new]
    rfl

theorem outcome_removeAll (sound : bus.Sound returned live) : Outcome returned live bindings bus
    ({ bindings with handles := [] }, (Bindings.removeAll bus bindings.handles).2) := by
  obtain ⟨registry, gone, _, _, removed, left⟩ := sound.removeAll_snd bindings.handles
  rw [removed] at left ⊢
  exact .released _ left

theorem outcome (sound : bus.Sound returned live) (use : Use) :
    Outcome returned live bindings bus (use.perform bindings bus) := by
  cases use with
  | bindSlot kind payload flags =>
    have bound := congrArg Prod.snd (bindings.bindSlot_eq bus kind payload flags)
    change Outcome _ _ _ _ (bindings.bindSlot bus kind payload flags).2
    rw [bound]
    have made : Bus.Sound { bus with store := (bus.store.newSlot kind payload).2 } returned live :=
      sound.frame rfl rfl (Nat.le_succ _)
    exact outcome_register made (Nat.le_succ _) _ flags
  | register binding flags => exact outcome_register sound (Nat.le_refl _) binding flags
  | dispatch message name =>
    obtain ⟨registry, nextId, store⟩ := dispatch_frame bus bindings.identity message
      (name.getD bindings.identity.output)
    have same : (bindings.dispatch bus message name).2.store.next = bus.store.next :=
      (congrArg Store.next store).trans (deliver_next _ _ _ _)
    exact .idle (sound.frame registry nextId (Nat.le_of_eq same.symm)) (Nat.le_of_eq same.symm)
  | reset =>
    have reset : (Use.perform .reset bindings bus).2 =
        { bus with store := resetEach bindings.handles bus.store } := bindings.reset_eq bus
    have same := resetEach_next bindings.handles bus.store
    change Outcome _ _ _ _ (bindings, (Use.perform .reset bindings bus).2)
    rw [reset]
    exact .idle (sound.frame rfl rfl (Nat.le_of_eq same.symm)) (Nat.le_of_eq same.symm)
  | release => exact outcome_removeAll sound
  | drop =>
    change Outcome _ _ _ _ ({ bindings with handles := [] }, (bindings.drop bus).2)
    rw [bindings.drop_snd]
    exact outcome_removeAll sound
  | hasReceiver message => exact .idle sound (Nat.le_refl _)
  | unmetRequirements => exact .idle sound (Nat.le_refl _)
  | share position label => exact .idle sound (Nat.le_refl _)

end Outcome

end Use

/-! ## What was registered, and by whom -/

/-- The delegates that were registered on a messenger, in order. -/
def registeredOn (number : Nat) (registrations : List Registration) : List Handle :=
  (registrations.filter fun registration => registration.messenger == number).map
    Registration.handle

/-- The delegates that were registered on a messenger through some bindings, in order. -/
def registeredThrough (number index : Nat) (registrations : List Registration) : List Handle :=
  (registrations.filter fun registration =>
    registration.messenger == number && registration.through == some index).map Registration.handle

section Registered

variable {number index : Nat} {registrations : List Registration}

theorem mem_registeredOn {handle : Handle} : handle ∈ registeredOn number registrations ↔
    ∃ registration ∈ registrations, registration.messenger = number ∧
      registration.handle = handle := by
  simp [registeredOn, and_assoc]

theorem mem_registeredThrough {handle : Handle} :
    handle ∈ registeredThrough number index registrations ↔
      ∃ registration ∈ registrations, registration.messenger = number ∧
        registration.through = some index ∧ registration.handle = handle := by
  simp [registeredThrough, and_assoc]

theorem registeredThrough_sublist :
    (registeredThrough number index registrations).Sublist (registeredOn number registrations) := by
  refine List.Sublist.map _ (List.monotone_filter_right _ fun registration through => ?_)
  exact (Bool.and_eq_true_iff.mp through).1

variable (registrations)

@[simp]
theorem registeredOn_append (more : List Registration) :
    registeredOn number (registrations ++ more) =
      registeredOn number registrations ++ registeredOn number more := by
  simp [registeredOn]

@[simp]
theorem registeredThrough_append (more : List Registration) :
    registeredThrough number index (registrations ++ more) =
      registeredThrough number index registrations ++ registeredThrough number index more := by
  simp [registeredThrough]

variable (number index)

@[simp]
theorem registeredOn_map (through : Option Nat) (handles : List Handle) :
    registeredOn number (handles.map fun handle =>
      { messenger := number, through, handle }) = handles := by
  simp [registeredOn, List.filter_map, Function.comp_def]

@[simp]
theorem registeredThrough_map (handles : List Handle) :
    registeredThrough number index (handles.map fun handle =>
      { messenger := number, through := some index, handle }) = handles := by
  simp [registeredThrough, List.filter_map, Function.comp_def]

theorem registeredThrough_map_of_ne {messenger : Nat} {through : Option Nat}
    (other : through ≠ some index) (handles : List Handle) :
    registeredThrough number index (handles.map fun handle =>
      { messenger, through, handle }) = [] := by
  simp [registeredThrough, List.filter_map, Function.comp_def, other]

end Registered

namespace Clients

section Stages

variable (clients : Clients)

theorem after_concat (deeds : List Deed) (deed : Deed) :
    clients.after (deeds ++ [deed]) = (clients.after deeds).perform deed := by
  simp [after]

theorem stages_concat (deeds : List Deed) (deed : Deed) :
    clients.stages (deeds ++ [deed]) = clients.stages deeds ++ [(clients.after deeds, deed)] := by
  induction deeds generalizing clients with
  | nil => rfl
  | cons first rest ih =>
    simp only [List.cons_append, stages, ih]
    rfl

private theorem registrations_concat (deeds : List Deed) (deed : Deed) :
    clients.registrations (deeds ++ [deed]) =
      clients.registrations deeds ++ (clients.after deeds).registered deed := by
  simp [registrations, stages_concat]

theorem removals_concat (deeds : List Deed) (deed : Deed) :
    clients.removals (deeds ++ [deed]) =
      clients.removals deeds ++ (clients.after deeds).removed deed := by
  simp [removals, stages_concat]

end Stages

end Clients

/-- What bindings hold was registered through them, and is registered still unless it was removed
otherwise. -/
structure Bindings.Sound (bindings : Bindings) (number index : Nat)
    (registrations : List Registration) (removals : List (Nat × Nat)) (live : List Handle) :
    Prop where
  through : bindings.handles.Sublist (registeredThrough number index registrations)
  receiver : ∀ handle ∈ bindings.handles, handle.delegate.receiver = bindings.identity
  present : ∀ handle ∈ bindings.handles, handle ∈ live ∨ (number, handle.id) ∈ removals

/-- What holds of one messenger and the bindings on it, whatever was done with any of them. -/
structure Clients.Sound (clients : Clients) (number : Nat) (registrations : List Registration)
    (removals : List (Nat × Nat)) (live : List Handle) : Prop where
  bus : (clients.bus number).Sound (registeredOn number registrations) live
  removed : ∀ id, (number, id) ∈ removals →
    id < (registeredOn number registrations).length ∧ ∀ handle ∈ live, handle.id ≠ id
  bindings : ∀ (index : Nat) (bindings : Bindings),
    clients.bindings[index]? = some (number, bindings) →
      bindings.Sound number index registrations removals live
  listed : ∀ registration ∈ registrations, registration.messenger = number →
    registration.handle ∈ live → ∀ index, registration.through = some index →
      ∃ bindings : Bindings, clients.bindings[index]? = some (number, bindings) ∧
        registration.handle ∈ bindings.handles

/-- Delegates that are registered now have other numbers than those registered before. -/
theorem Sound.length_le_id {bus : Bus} {returned created live : List Handle}
    (sound : bus.Sound (returned ++ created) live) {handle : Handle} (member : handle ∈ created) :
    returned.length ≤ handle.id := by
  obtain ⟨position, found⟩ := List.mem_iff_getElem?.mp member
  have later : (returned ++ created)[returned.length + position]? = some handle := by
    rw [List.getElem?_append_right (Nat.le_add_right _ _), Nat.add_sub_cancel_left, found]
  have same := (sound.getElem?_iff.mp later).2
  omega

theorem Sound.id_lt_length {bus : Bus} {returned live : List Handle}
    (sound : bus.Sound returned live) {handle : Handle} (member : handle ∈ returned) :
    handle.id < returned.length := by
  have below := Usage.Sound.id_lt sound member
  rwa [← sound.nextId_eq]

theorem Usage.remove_of_step {usage : Usage} {operation : Operation} {asked : Handle}
    {result : Except BusError Unit} (answered : (usage.step operation).1 = .removed asked result) :
    (usage.bus.remove asked).1 = result := by
  cases operation with
  | remove label =>
    simp only [Usage.step, Usage.withHandle] at answered
    split at answered
    · cases answered
    · obtain ⟨rfl, same⟩ := Answer.removed.inj answered
      exact same
  | register label receiver binding flags =>
    simp only [Usage.step, Usage.register] at answered
    split at answered <;> cases answered
  | reset label =>
    simp only [Usage.step, Usage.withHandle] at answered
    split at answered <;> cases answered
  | inspect label =>
    simp only [Usage.step, Usage.withHandle] at answered
    split at answered <;> cases answered
  | _ => cases answered

private theorem Answer.removal?_eq_some {answer : Answer} {handle : Handle} :
    answer.removal? = some handle ↔ answer = .removed handle (.ok ()) := by
  unfold Answer.removal?
  split
  · simp
  · rename_i others
    simpa using fun removed => others handle removed

/-- A delegate stays registered unless its removal succeeds. -/
theorem Sound.mem_follow {usage : Usage} {returned live : List Handle}
    (sound : usage.bus.Sound returned live) (operation : Operation) {handle : Handle}
    (member : handle ∈ live) : handle ∈ (usage.step operation).1.follow live ∨
      ∃ asked, (usage.step operation).1 = .removed asked (.ok ()) ∧ asked.id = handle.id := by
  cases answered : (usage.step operation).1 with
  | registered result =>
    cases result with
    | error error => exact .inl member
    | ok created => exact .inl (List.mem_append_left _ member)
  | removed asked result =>
    by_cases same : handle.id = asked.id
    · obtain ⟨_, _, _, removed⟩ := Usage.Sound.remove_of_id sound member same
      have success : result = .ok () :=
        (Usage.remove_of_step answered).symm.trans (congrArg Prod.fst removed)
      exact .inr ⟨asked, by rw [success], same.symm⟩
    · exact .inl (List.mem_filter.mpr ⟨member, bne_iff_ne.mpr same⟩)
  | _ => exact .inl member

/-- Bindings that are replaced are found instead of those before, and all others as before. -/
theorem Clients.lookup_of_set {earlier later : List (Nat × Bindings)} {index : Nat}
    {entry other : Nat × Bindings} (made : earlier[index]? = some entry)
    (set : later = earlier.set index other) : later[index]? = some other ∧
      ∀ position, index ≠ position → later[position]? = earlier[position]? := by
  have inside : index < earlier.length := (List.getElem?_eq_some_iff.mp made).1
  rw [set]
  exact ⟨List.getElem?_set_self inside, fun position different => List.getElem?_set_ne different⟩

namespace Clients.Sound

variable {clients later : Clients} {number : Nat} {registrations more : List Registration}
  {removals gone : List (Nat × Nat)} {live : List Handle}

/-- No two registrations on a messenger gave delegates of one number. -/
theorem eq_of_id (sound : clients.Sound number registrations removals live)
    {one other : Registration} (first : one ∈ registrations) (second : other ∈ registrations)
    (here : one.messenger = number) (there : other.messenger = number)
    (same : one.handle.id = other.handle.id) : one = other := by
  have ordered : Ordered (registeredOn number registrations) := Usage.Sound.ordered sound.bus
  have distinct : ((registeredOn number registrations).map Handle.id).Nodup :=
    List.pairwise_map.mpr (ordered.imp fun below => Nat.ne_of_lt below)
  rw [registeredOn, List.map_map] at distinct
  exact List.inj_on_of_nodup_map distinct (List.mem_filter.mpr ⟨first, by simpa using here⟩)
    (List.mem_filter.mpr ⟨second, by simpa using there⟩) same

/-- Bindings spare what was not registered through them. -/
theorem spares (sound : clients.Sound number registrations removals live) {index : Nat}
    {bindings : Bindings} (made : clients.bindings[index]? = some (number, bindings))
    {registration : Registration} (member : registration ∈ registrations)
    (here : registration.messenger = number) (other : registration.through ≠ some index) :
    bindings.spares registration.handle = true := by
  refine List.all_eq_true.mpr fun held present => bne_iff_ne.mpr fun same => other ?_
  have through := (sound.bindings index bindings made).through.subset present
  obtain ⟨own, registered, there, owned, rfl⟩ := mem_registeredThrough.mp through
  rw [sound.eq_of_id member registered here there same, owned]

/-- What is done elsewhere changes nothing. -/
theorem elsewhere (sound : clients.Sound number registrations removals live)
    (messenger : (later.bus number).messenger = (clients.bus number).messenger)
    (next : (clients.bus number).store.next ≤ (later.bus number).store.next)
    (others : ∀ registration ∈ more, registration.messenger ≠ number)
    (apart : ∀ removal ∈ gone, removal.1 ≠ number)
    (made : ∀ (index : Nat) (bindings : Bindings),
      later.bindings[index]? = some (number, bindings) →
        clients.bindings[index]? = some (number, bindings) ∨ bindings.handles = [])
    (kept : ∀ (index : Nat) (bindings : Bindings),
      clients.bindings[index]? = some (number, bindings) →
        later.bindings[index]? = some (number, bindings)) :
    later.Sound number (registrations ++ more) (removals ++ gone) live := by
  have on : registeredOn number more = [] := by simpa [registeredOn] using others
  have through (index : Nat) : registeredThrough number index more = [] :=
    List.sublist_nil.mp (on ▸ registeredThrough_sublist)
  have before {id : Nat} (removed : (number, id) ∈ removals ++ gone) : (number, id) ∈ removals :=
    (List.mem_append.mp removed).resolve_right fun other => apart _ other rfl
  refine ⟨?_, ?_, ?_, ?_⟩
  · rw [registeredOn_append, on, List.append_nil]
    exact sound.bus.frame (congrArg Messenger.registry messenger)
      (congrArg Messenger.nextId messenger) next
  · intro id removed
    rw [registeredOn_append, on, List.append_nil]
    exact sound.removed id (before removed)
  · intro index bindings found
    rcases made index bindings found with old | bare
    · obtain ⟨registered, receiver, present⟩ := sound.bindings index bindings old
      refine ⟨?_, receiver, fun handle member => (present handle member).imp id ?_⟩
      · rwa [registeredThrough_append, through, List.append_nil]
      · exact List.mem_append_left _
    · exact ⟨by simp [bare], by simp [bare], by simp [bare]⟩
  · intro registration member here present index owned
    rcases List.mem_append.mp member with old | new
    · obtain ⟨bindings, found, held⟩ := sound.listed registration old here present index owned
      exact ⟨bindings, kept index bindings found, held⟩
    · exact absurd here (others registration new)

private theorem mem_live_of_append (sound : clients.Sound number registrations removals live)
    {created : List Handle} {bus : Bus}
    (left : bus.Sound (registeredOn number registrations ++ created) (live ++ created))
    {registration : Registration} (member : registration ∈ registrations)
    (here : registration.messenger = number) (present : registration.handle ∈ live ++ created) :
    registration.handle ∈ live := by
  refine (List.mem_append.mp present).resolve_right fun new => ?_
  have before := sound.bus.id_lt_length (mem_registeredOn.mpr ⟨registration, member, here, rfl⟩)
  exact Nat.not_lt.mpr (left.length_le_id new) before

/-- Delegates that are registered through bindings are added to theirs and to all. -/
theorem keptThrough (sound : clients.Sound number registrations removals live) {index : Nat}
    {bindings : Bindings} (made : clients.bindings[index]? = some (number, bindings))
    {created : List Handle} {bus : Bus}
    (left : bus.Sound (registeredOn number registrations ++ created) (live ++ created))
    (own : ∀ handle ∈ created, handle.delegate.receiver = bindings.identity)
    (there : later.bus number = bus)
    (set : later.bindings = clients.bindings.set index
      (number, { bindings with handles := bindings.handles ++ created })) :
    later.Sound number
      (registrations ++ created.map fun handle =>
        { messenger := number, through := some index, handle })
      removals (live ++ created) := by
  obtain ⟨self, others⟩ := Clients.lookup_of_set made set
  refine ⟨?_, ?_, ?_, ?_⟩
  · rw [registeredOn_append, registeredOn_map, there]
    exact left
  · intro id removed
    obtain ⟨below, absent⟩ := sound.removed id removed
    rw [registeredOn_append, registeredOn_map, List.length_append]
    refine ⟨Nat.lt_of_lt_of_le below (Nat.le_add_right _ _), fun handle member same => ?_⟩
    rcases List.mem_append.mp member with old | new
    · exact absent handle old same
    · have after := left.length_le_id new
      omega
  · intro position held found
    by_cases same : index = position
    · subst same
      obtain ⟨through, receiver, present⟩ := sound.bindings index bindings made
      obtain ⟨_, rfl⟩ := Prod.mk.inj (Option.some.inj (self.symm.trans found))
      refine ⟨?_, ?_, ?_⟩
      · rw [registeredThrough_append, registeredThrough_map]
        exact through.append (List.Sublist.refl _)
      · intro handle member
        exact (List.mem_append.mp member).elim (receiver handle) (own handle)
      · intro handle member
        rcases List.mem_append.mp member with old | new
        · exact (present handle old).imp_left (List.mem_append_left _)
        · exact .inl (List.mem_append_right _ new)
    · rw [others _ same] at found
      obtain ⟨through, receiver, present⟩ := sound.bindings position held found
      refine ⟨?_, receiver, fun handle member =>
        (present handle member).imp_left (List.mem_append_left _)⟩
      rwa [registeredThrough_append, registeredThrough_map_of_ne _ _ (by simpa using same),
        List.append_nil]
  · intro registration member here present position owned
    rcases List.mem_append.mp member with old | new
    · have listed := sound.mem_live_of_append left old here present
      obtain ⟨held, found, kept⟩ := sound.listed registration old here listed position owned
      by_cases same : index = position
      · subst same
        obtain ⟨_, rfl⟩ := Prod.mk.inj (Option.some.inj (made.symm.trans found))
        exact ⟨_, self, List.mem_append_left _ kept⟩
      · exact ⟨held, (others _ same).trans found, kept⟩
    · obtain ⟨handle, created, rfl⟩ := List.mem_map.mp new
      obtain rfl := Option.some.inj owned
      exact ⟨_, self, List.mem_append_right _ created⟩

private theorem releasedThrough (sound : clients.Sound number registrations removals live)
    {index : Nat}
    {bindings : Bindings} (made : clients.bindings[index]? = some (number, bindings)) {bus : Bus}
    (left : bus.Sound (registeredOn number registrations) (live.filter bindings.spares))
    (there : later.bus number = bus)
    (set : later.bindings =
      clients.bindings.set index (number, { bindings with handles := [] })) :
    later.Sound number registrations removals (live.filter bindings.spares) := by
  obtain ⟨self, others⟩ := Clients.lookup_of_set made set
  refine ⟨there ▸ left, ?_, ?_, ?_⟩
  · intro id removed
    obtain ⟨below, absent⟩ := sound.removed id removed
    exact ⟨below, fun handle member => absent handle (List.mem_filter.mp member).1⟩
  · intro position held found
    by_cases same : index = position
    · subst same
      obtain ⟨_, rfl⟩ := Prod.mk.inj (Option.some.inj (self.symm.trans found))
      exact ⟨by simp, by simp, by simp⟩
    · rw [others _ same] at found
      obtain ⟨through, receiver, present⟩ := sound.bindings position held found
      refine ⟨through, receiver, fun handle member => (present handle member).imp_left ?_⟩
      intro old
      obtain ⟨registration, registered, here, other, rfl⟩ :=
        mem_registeredThrough.mp (through.subset member)
      have elsewhere : registration.through ≠ some index := by simpa [other] using Ne.symm same
      exact List.mem_filter.mpr ⟨old, sound.spares made registered here elsewhere⟩
  · intro registration member here present position owned
    obtain ⟨old, spared⟩ := List.mem_filter.mp present
    obtain ⟨held, found, kept⟩ := sound.listed registration member here old position owned
    by_cases same : index = position
    · subst same
      obtain ⟨_, rfl⟩ := Prod.mk.inj (Option.some.inj (made.symm.trans found))
      have different := List.all_eq_true.mp spared _ kept
      simp at different
    · exact ⟨held, (others _ same).trans found, kept⟩

/-- A request that is made to the messenger directly. -/
theorem direct (sound : clients.Sound number registrations removals live) (operation : Operation) :
    let deed : Deed := .direct { messenger := number, operation }
    let answer := ((clients.exchange.usage number).step operation).1
    (clients.perform deed).Sound number (registrations ++ clients.registered deed)
      (removals ++ clients.removed deed) (answer.follow live) := by
  intro deed answer
  have left := Bus.Sound.step (clients.exchange.usage number) sound.bus operation
  have on : registeredOn number (clients.registered deed) = answer.handle?.toList :=
    registeredOn_map number none _
  have through (index : Nat) : registeredThrough number index (clients.registered deed) = [] :=
    registeredThrough_map_of_ne number index (by simp) _
  have created {handle : Handle} (new : answer.handle? = some handle) :
      (registeredOn number registrations).length ≤ handle.id :=
    left.length_le_id (Option.mem_toList.mpr new)
  have removed {id : Nat} : (number, id) ∈ clients.removed deed ↔
      ∃ asked, answer = .removed asked (.ok ()) ∧ asked.id = id := by
    change (number, id) ∈ answer.removal?.toList.map _ ↔ _
    simp [Answer.removal?_eq_some]
  refine ⟨?_, ?_, ?_, ?_⟩
  · have there : (clients.perform deed).bus number =
        ((clients.exchange.usage number).step operation).2.bus :=
      clients.exchange.perform_bus_self { messenger := number, operation }
    rw [registeredOn_append, on, there]
    exact left
  · intro id member
    rw [registeredOn_append, List.length_append]
    rcases List.mem_append.mp member with old | new
    · obtain ⟨below, absent⟩ := sound.removed id old
      refine ⟨Nat.lt_of_lt_of_le below (Nat.le_add_right _ _), fun handle member same => ?_⟩
      rcases Answer.mem_follow member with listed | new
      · exact absent handle listed same
      · have after := created new
        omega
    · obtain ⟨asked, answered, rfl⟩ := removed.mp new
      have success := Usage.remove_of_step answered
      refine ⟨?_, ?_⟩
      · by_contra beyond
        have missing : ∀ listed ∈ live, listed.id ≠ asked.id := by
          intro listed present same
          have below := sound.bus.id_lt_length (sound.bus.registered.subset present)
          omega
        have refused := Usage.Sound.remove_of_missing sound.bus missing
        change (clients.bus number).remove asked = _ at refused
        change ((clients.bus number).remove asked).1 = _ at success
        rw [refused] at success
        cases success
      · intro handle member
        rw [answered] at member
        exact bne_iff_ne.mp (List.mem_filter.mp member).2
  · intro index bindings made
    obtain ⟨registered, receiver, present⟩ := sound.bindings index bindings made
    refine ⟨?_, receiver, fun handle member => ?_⟩
    · rwa [registeredThrough_append, through, List.append_nil]
    · rcases present handle member with listed | gone
      · exact (sound.bus.mem_follow operation listed).imp_right fun seen =>
          List.mem_append_right _ (removed.mpr seen)
      · exact .inr (List.mem_append_left _ gone)
  · intro registration member here present index owned
    rcases List.mem_append.mp member with old | new
    · have before := sound.bus.id_lt_length (mem_registeredOn.mpr ⟨registration, old, here, rfl⟩)
      rcases Answer.mem_follow present with listed | new
      · exact sound.listed registration old here listed index owned
      · have after := created new
        omega
    · obtain ⟨handle, _, rfl⟩ := List.mem_map.mp new
      cases owned

/-- A use of bindings on the messenger. -/
theorem through (sound : clients.Sound number registrations removals live) {index : Nat}
    {bindings : Bindings} (made : clients.bindings[index]? = some (number, bindings)) (use : Use) :
    ∃ left, (clients.use index number bindings use).Sound number
      (registrations ++ (use.created bindings (clients.bus number)).map fun handle =>
        { messenger := number, through := some index, handle }) removals left := by
  have outcome : Use.Outcome (registeredOn number registrations) live bindings
      (clients.bus number) (use.perform bindings (clients.bus number)) := use.outcome sound.bus
  have there : (clients.use index number bindings use).bus number =
      (use.perform bindings (clients.bus number)).2 := by
    simp [Clients.use, Clients.bus, Exchange.bus]
  have set : (clients.use index number bindings use).bindings = clients.bindings.set index
      (number, (use.perform bindings (clients.bus number)).1) := rfl
  unfold Use.created
  generalize use.perform bindings (clients.bus number) = result at outcome there set ⊢
  cases outcome with
  | kept created bus left more own =>
    rw [List.drop_left]
    exact ⟨_, sound.keptThrough made left own there set⟩
  | released messenger left =>
    simp only [List.drop_nil, List.map_nil, List.append_nil]
    exact ⟨_, sound.releasedThrough made left there set⟩

private theorem throughOther (sound : clients.Sound number registrations removals live)
    {messenger index : Nat} {bindings : Bindings}
    (made : clients.bindings[index]? = some (messenger, bindings)) (other : messenger ≠ number)
    (use : Use)
    (next : clients.exchange.store.next ≤
      (use.perform bindings (clients.bus messenger)).2.store.next) :
    (clients.use index messenger bindings use).Sound number
      (registrations ++ (use.created bindings (clients.bus messenger)).map fun handle =>
        { messenger, through := some index, handle }) removals live := by
  have inside : index < clients.bindings.length := (List.getElem?_eq_some_iff.mp made).1
  have same {position : Nat} {held : Bindings} :
      (clients.use index messenger bindings use).bindings[position]? = some (number, held) ↔
        clients.bindings[position]? = some (number, held) := by
    simp only [Clients.use, List.getElem?_set, inside, if_true]
    split
    · rename_i equal
      subst equal
      simp [made, other]
    · rfl
  rw [← List.append_nil removals]
  refine sound.elsewhere ?_ next ?_ (by simp) (fun _ _ found => .inl (same.mp found))
    fun _ _ => same.mpr
  · simp [Clients.use, Clients.bus, Exchange.bus, Ne.symm other]
  · intro registration member
    obtain ⟨handle, _, rfl⟩ := List.mem_map.mp member
    exact other

/-- Whatever is done keeps what holds of every messenger and the bindings on it. -/
theorem perform
    (sound : ∀ number, ∃ live, clients.Sound number registrations removals live) (deed : Deed)
    (number : Nat) : ∃ live, (clients.perform deed).Sound number
      (registrations ++ clients.registered deed) (removals ++ clients.removed deed) live := by
  obtain ⟨live, here⟩ := sound number
  cases deed with
  | direct request =>
    by_cases same : request.messenger = number
    · obtain ⟨messenger, operation⟩ := request
      subst same
      exact ⟨_, here.direct operation⟩
    · refine ⟨live, here.elsewhere (clients.exchange.perform_bus_other request (Ne.symm same))
        (clients.exchange.next_le_perform request) ?_ ?_ (fun _ _ made => .inl made)
        fun _ _ made => made⟩
      · intro registration member
        obtain ⟨handle, _, rfl⟩ := List.mem_map.mp member
        exact same
      · intro removal member
        obtain ⟨handle, _, rfl⟩ := List.mem_map.mp member
        exact same
  | bind messenger identity =>
    refine ⟨live, here.elsewhere rfl (Nat.le_refl _) (by simp [Clients.registered])
      (by simp [Clients.removed]) ?_ ?_⟩
    · intro index bindings made
      rw [Clients.perform, List.getElem?_append] at made
      split at made
      · exact .inl made
      · obtain ⟨_, rfl⟩ := Prod.mk.inj (List.mem_singleton.mp (List.mem_of_getElem? made))
        exact .inr rfl
    · intro index bindings made
      exact (List.getElem?_append_left (List.getElem?_eq_some_iff.mp made).1).trans made
  | through index use =>
    have nothing : clients.removed (.through index use) = [] := rfl
    rw [nothing, List.append_nil]
    simp only [Clients.perform, Clients.registered]
    cases made : clients.bindings[index]? with
    | none => exact ⟨live, by simpa using here⟩
    | some entry =>
      obtain ⟨messenger, bindings⟩ := entry
      by_cases same : messenger = number
      · subst same
        exact here.through made use
      · obtain ⟨others, there⟩ := sound messenger
        exact ⟨live, here.throughOther made same use (use.outcome there.bus).next_le⟩

theorem fresh : Clients.fresh.Sound number [] [] [] where
  bus := (Usage.sound_fresh {}).bus
  removed id member := absurd member List.not_mem_nil
  bindings index bindings made := by simp [Clients.fresh] at made
  listed registration member := absurd member List.not_mem_nil

/-- Whatever was done, every messenger and the bindings on it are sound. -/
theorem after (deeds : List Deed) (number : Nat) : ∃ live,
    (Clients.fresh.after deeds).Sound number (Clients.fresh.registrations deeds)
      (Clients.fresh.removals deeds) live := by
  induction deeds using List.reverseRecOn generalizing number with
  | nil => exact ⟨[], fresh⟩
  | append_singleton deeds deed ih =>
    rw [after_concat, registrations_concat, removals_concat]
    exact perform ih deed number

end Clients.Sound

end Beamline.Bus
