import Beamline.Proofs.LaneIsolation
import Beamline.Proofs.ExchangeInvariant
import Mathlib.Algebra.BigOperators.Group.Finset.Basic
import Mathlib.Algebra.BigOperators.Group.Finset.Piecewise
import Mathlib.Algebra.GroupWithZero.Nat
import Mathlib.Data.Fintype.Basic
import Mathlib.Data.List.DropRight

/-!
The counters of a messenger and the logs of its lanes, compared with the answers that its users got.
-/

namespace Beamline

/-- There are as many lanes as indices. -/
instance : Fintype LaneId :=
  .ofEquiv (Fin UInt16.size) {
    toFun := fun index => { index := .ofFin index }
    invFun := fun lane => lane.index.toFin
    left_inv := fun _ => rfl
    right_inv := fun _ => rfl }

namespace Bus

namespace Answer

def report? : Answer → Option Report
  | dispatched (.ok report) => some report
  | _ => none

def isCompleted (answer : Answer) : Bool :=
  answer.report?.isSome

/-- Whether a dispatch completed without a delegate that accepted the message. -/
def isUnreceived (answer : Answer) : Bool :=
  answer.report?.any fun report => report.accepted == 0

/-- The delegates that accepted the message of a completed dispatch. -/
def accepted (answer : Answer) : Nat :=
  (answer.report?.map Report.accepted).getD 0

def isFailed : Answer → Bool
  | dispatched (.error _) => true
  | _ => false

def isRegistration (answer : Answer) : Bool :=
  answer.handle?.isSome

def isRemoval : Answer → Bool
  | removed _ (.ok ()) => true
  | _ => false

def forgotten : Answer → Nat
  | cleared count => count
  | _ => 0

end Answer

def Stats.ofAnswers (answers : List Answer) : Stats where
  dispatched := answers.countP Answer.isCompleted
  deliveries := (answers.map Answer.accepted).sum
  failed := answers.countP Answer.isFailed
  unreceived := answers.countP Answer.isUnreceived
  registered := answers.countP Answer.isRegistration
  removed := answers.countP Answer.isRemoval

/-- An operation and what its user got to see of it. -/
structure Entry where
  operation : Operation
  answer : Answer

namespace Entry

/-- Whether the log of a lane is cleared. -/
def clears (lane : LaneId) (entry : Entry) : Bool :=
  match entry.operation with
  | .clearSent cleared => cleared = lane
  | _ => false

/-- The message that belongs in the log of a lane: that of a completed dispatch. -/
def logged? (lane : LaneId) (entry : Entry) : Option Message :=
  match entry.operation with
  | .dispatch source message _ =>
    if source.lane = lane ∧ entry.answer.isCompleted then some message else none
  | _ => none

/-- The messages that a lane dispatched since its log was last cleared. -/
def loggedSince (lane : LaneId) (entries : List Entry) : List Message :=
  (entries.rtakeWhile fun entry => !entry.clears lane).filterMap (logged? lane)

private theorem loggedSince_concat (lane : LaneId) (entries : List Entry) (entry : Entry) :
    loggedSince lane (entries ++ [entry]) =
      if entry.clears lane then [] else loggedSince lane entries ++ (entry.logged? lane).toList := by
  rw [loggedSince, List.rtakeWhile_concat]
  cases entry.clears lane
  · cases logged : entry.logged? lane <;> simp [loggedSince, logged]
  · rfl

end Entry

/-- The messages in the logs of all lanes. -/
def Messenger.logged (messenger : Messenger) : Nat :=
  ∑ lane, (messenger.sentMessages lane).length

/-! ## One operation -/

/-- A messenger's counters move as its answers say. -/
def Stats.follow (stats : Stats) : Answer → Stats
  | .dispatched (.ok report) => { stats with
    dispatched := stats.dispatched + 1
    deliveries := stats.deliveries + report.accepted
    unreceived := if report.accepted = 0 then stats.unreceived + 1 else stats.unreceived }
  | .dispatched (.error _) => { stats with failed := stats.failed + 1 }
  | .registered (.ok _) => { stats with registered := stats.registered + 1 }
  | .removed _ (.ok ()) => { stats with removed := stats.removed + 1 }
  | _ => stats

private theorem Stats.ofAnswers_concat (answers : List Answer) (answer : Answer) :
    ofAnswers (answers ++ [answer]) = (ofAnswers answers).follow answer := by
  simp only [ofAnswers, List.countP_append, List.map_append, List.sum_append]
  cases answer with
  | registered result =>
    cases result <;> rfl
  | removed handle result => cases result <;> rfl
  | dispatched result =>
    cases result with
    | error error => rfl
    | ok report =>
      by_cases none : report.accepted = 0 <;>
        simp [follow, Answer.isCompleted, Answer.isFailed, Answer.isUnreceived,
          Answer.isRegistration, Answer.isRemoval, Answer.accepted, Answer.report?,
          Answer.handle?, none]
  | _ => rfl

namespace Usage

def entry (usage : Usage) (operation : Operation) : Entry where
  operation := operation
  answer := (usage.step operation).1

private theorem stats_eq_follow (usage : Usage) (operation : Operation) :
    (usage.step operation).2.bus.messenger.stats =
      usage.bus.messenger.stats.follow (usage.step operation).1 := by
  cases operation with
  | register label receiver binding flags =>
    simp only [Usage.step, Usage.register]
    cases refusal : usage.bus.messenger.refusal binding flags with
    | some reason =>
      rw [register_of_refused refusal]
      rfl
    | none =>
      rw [register_of_suitable refusal]
      rfl
  | remove label =>
    simp only [Usage.step, Usage.withHandle]
    cases usage.kept[label]? with
    | none => rfl
    | some handle =>
      simp only [Bus.remove, Messenger.remove]
      rcases usage.bus.messenger.registry.erase handle with ⟨_ | fault, registry⟩ <;> rfl
  | reset label =>
    simp only [Usage.step, Usage.withHandle]
    cases usage.kept[label]? <;> rfl
  | inspect label =>
    simp only [Usage.step, Usage.withHandle]
    cases usage.kept[label]? <;> rfl
  | dispatch source message name =>
    simp only [Usage.step]
    rcases delivered : deliver usage.bus.store message name
      (usage.bus.messenger.candidates source message name) with ⟨error | count, store⟩
    · rw [dispatch_of_error delivered]
      rfl
    · rw [dispatch_of_ok delivered]
      rfl
  | _ => rfl

/-- What an operation means to the logs of the lanes. -/
inductive Logging (usage : Usage) (operation : Operation) : Prop
  | dispatch (source : Identity) (message : Message) (name : String)
      (dispatches : operation = .dispatch source message name)
  | clear (lane : LaneId) (clears : operation = .clearSent lane)
  | nothing
      (sent : (usage.step operation).2.bus.messenger.sent = usage.bus.messenger.sent)
      (unreported : (usage.step operation).1.report? = none)
      (unforgotten : (usage.step operation).1.forgotten = 0)
      (unlogged : ∀ lane, (usage.entry operation).logged? lane = none)
      (uncleared : ∀ lane, (usage.entry operation).clears lane = false)

theorem logging (usage : Usage) (operation : Operation) : Logging usage operation := by
  -- Without a handle under the label nothing is done, else only the bus may change.
  have labelled (label : String) (act : Handle → Answer × Bus)
      (stepped : usage.step operation = usage.withHandle label act)
      (quiet : ∀ handle, (act handle).2.messenger.sent = usage.bus.messenger.sent ∧
        (act handle).1.report? = none ∧ (act handle).1.forgotten = 0)
      (unlogged : ∀ lane, (usage.entry operation).logged? lane = none)
      (uncleared : ∀ lane, (usage.entry operation).clears lane = false) :
      Logging usage operation := by
    cases kept : usage.kept[label]? with
    | none =>
      have unknown : usage.step operation = (.unknown, usage) := by
        simp only [stepped, withHandle, kept]
      exact .nothing (by rw [unknown]) (by rw [unknown]; rfl) (by rw [unknown]; rfl) unlogged
        uncleared
    | some handle =>
      have done : usage.step operation =
          ((act handle).1, { usage with bus := (act handle).2 }) := by
        simp only [stepped, withHandle, kept]
      obtain ⟨sent, unreported, unforgotten⟩ := quiet handle
      exact .nothing (by rw [done, sent]) (by rw [done, unreported]) (by rw [done, unforgotten])
        unlogged uncleared
  cases operation with
  | dispatch source message name => exact .dispatch source message name rfl
  | clearSent lane => exact .clear lane rfl
  | register label receiver binding flags =>
    have quiet : (usage.register label receiver binding flags).2.bus.messenger.sent =
        usage.bus.messenger.sent ∧
        (usage.register label receiver binding flags).1.report? = none ∧
        (usage.register label receiver binding flags).1.forgotten = 0 := by
      unfold Usage.register
      cases refusal : usage.bus.messenger.refusal binding flags with
      | some reason => simp [register_of_refused refusal, Answer.report?, Answer.forgotten]
      | none => simp [register_of_suitable refusal, Answer.report?, Answer.forgotten]
    exact .nothing quiet.1 quiet.2.1 quiet.2.2 (fun _ => rfl) fun _ => rfl
  | remove label =>
    refine labelled label (fun handle => (.removed handle (usage.bus.remove handle).1,
      (usage.bus.remove handle).2)) rfl (fun handle => ⟨?_, rfl, rfl⟩) (fun _ => rfl) fun _ => rfl
    simp only [Bus.remove, Messenger.remove]
    rcases usage.bus.messenger.registry.erase handle with ⟨_ | fault, registry⟩ <;> rfl
  | reset label =>
    exact labelled label (fun handle => (.done, usage.bus.reset handle)) rfl
      (fun _ => ⟨rfl, rfl, rfl⟩) (fun _ => rfl) fun _ => rfl
  | inspect label =>
    exact labelled label (fun handle => (.inspected (handle.isSatisfied usage.bus.store)
        (handle.unmetRequirement usage.bus.store), usage.bus)) rfl
      (fun _ => ⟨rfl, rfl, rfl⟩) (fun _ => rfl) fun _ => rfl
  | _ => exact .nothing rfl rfl rfl (fun _ => rfl) fun _ => rfl

/-- Only completed dispatches of a lane and its own clearing change the log of a lane. -/
theorem sentMessages_step (usage : Usage) (operation : Operation) (lane : LaneId) :
    (usage.step operation).2.bus.messenger.sentMessages lane =
      if (usage.entry operation).clears lane then []
      else usage.bus.messenger.sentMessages lane ++
        ((usage.entry operation).logged? lane).toList := by
  cases usage.logging operation with
  | dispatch source message name dispatches =>
    subst dispatches
    by_cases mine : source.lane = lane
    · rcases delivered : deliver usage.bus.store message name
        (usage.bus.messenger.candidates source message name) with ⟨error | count, store⟩
      · have failed := dispatch_of_error delivered
        simp [Usage.step, entry, Entry.clears, Entry.logged?, Answer.isCompleted, Answer.report?,
          failed, Messenger.sentMessages]
      · have completed := dispatch_of_ok delivered
        simp [Usage.step, entry, Entry.clears, Entry.logged?, Answer.isCompleted, Answer.report?,
          completed, Messenger.sentMessages, mine]
    · have elsewhere := dispatch_sentMessages usage.bus message name mine
      simp [Usage.step, entry, Entry.clears, Entry.logged?, elsewhere, mine]
  | clear cleared clears =>
    subst clears
    simp [Usage.step, entry, Entry.clears, Entry.logged?, clearSent_sentMessages]
  | nothing sent _ _ unlogged uncleared =>
    simp [uncleared, unlogged, Messenger.sentMessages, sent]

/-- What is in the logs and what was forgotten are together as many messages as were logged. -/
theorem logged_step (usage : Usage) (operation : Operation) :
    (usage.step operation).2.bus.messenger.logged + (usage.step operation).1.forgotten =
      usage.bus.messenger.logged + [(usage.step operation).1].countP Answer.isCompleted := by
  have moved (lane : LaneId) : ((usage.step operation).2.bus.messenger.sentMessages lane).length +
      (if (usage.entry operation).clears lane then
        (usage.bus.messenger.sentMessages lane).length else 0) =
      (usage.bus.messenger.sentMessages lane).length +
        if (usage.entry operation).clears lane then 0
        else ((usage.entry operation).logged? lane).toList.length := by
    rw [usage.sentMessages_step]
    split <;> simp
  have total := Finset.sum_congr (rfl : (Finset.univ : Finset LaneId) = _) fun lane _ => moved lane
  rw [Finset.sum_add_distrib, Finset.sum_add_distrib] at total
  change (usage.step operation).2.bus.messenger.logged + _ = usage.bus.messenger.logged + _ at total
  cases usage.logging operation with
  | dispatch source message name dispatches =>
    subst dispatches
    have answered : (usage.step (.dispatch source message name)).1.forgotten = 0 := rfl
    have once : ∑ lane, ((usage.entry (.dispatch source message name)).logged? lane).toList.length =
        [(usage.step (.dispatch source message name)).1].countP Answer.isCompleted := by
      cases completed : (usage.step (.dispatch source message name)).1.isCompleted
      · simp [entry, Entry.logged?, completed]
      · simp [entry, Entry.logged?, completed, apply_ite Option.toList, apply_ite List.length]
    rw [answered, ← once]
    simpa [entry, Entry.clears] using total
  | clear cleared clears =>
    subst clears
    have answered : (usage.step (.clearSent cleared)).1.forgotten =
        (usage.bus.messenger.sentMessages cleared).length := rfl
    have uncompleted : [(usage.step (.clearSent cleared)).1].countP Answer.isCompleted = 0 := rfl
    simp only [entry, Entry.clears, Entry.logged?, Option.toList_none, List.length_nil,
      ite_self, Finset.sum_const_zero, decide_eq_true_eq, Finset.sum_ite_eq, Finset.mem_univ,
      if_true] at total
    rw [answered, uncompleted]
    exact total
  | nothing sent unreported unforgotten unlogged uncleared =>
    simpa [Answer.isCompleted, unreported, unforgotten, unlogged, uncleared] using total

end Usage

theorem Ordered.length_without {handles : List Handle} (ordered : Ordered handles) {handle : Handle}
    (member : handle ∈ handles) :
    (handles.filter fun other => other.id != handle.id).length + 1 = handles.length := by
  have distinct : (handles.map Handle.id).Nodup :=
    List.pairwise_map.mpr (ordered.imp fun below => Nat.ne_of_lt below)
  have erased : (handles.filter fun other => other.id != handle.id).map Handle.id =
      (handles.map Handle.id).erase handle.id := by
    rw [distinct.erase_eq_filter, List.filter_map]
    rfl
  have count := List.length_erase_add_one (List.mem_map_of_mem (f := Handle.id) member)
  rwa [← erased, List.length_map, List.length_map] at count

/-- The number of registered delegates moves by successful registrations and removals alone. -/
theorem Sound.length_follow {usage : Usage} {returned live : List Handle}
    (sound : usage.bus.Sound returned live) (operation : Operation) :
    ((usage.step operation).1.follow live).length +
        [(usage.step operation).1].countP Answer.isRemoval =
      live.length + [(usage.step operation).1].countP Answer.isRegistration := by
  cases operation with
  | register label receiver binding flags =>
    simp only [Usage.step, Usage.register]
    rcases usage.bus.register receiver binding flags with ⟨error | handle, bus⟩ <;>
      simp [Answer.follow, Answer.isRemoval, Answer.isRegistration, Answer.handle?]
  | remove label =>
    simp only [Usage.step, Usage.withHandle]
    cases usage.kept[label]? with
    | none => rfl
    | some handle =>
      by_cases member : ∃ listed ∈ live, listed.id = handle.id
      · obtain ⟨listed, member, same⟩ := member
        have count := sound.lists.ordered.length_without member
        obtain ⟨_, _, _, removed⟩ := Usage.Sound.remove_of_id sound member same
        rw [same] at count
        simpa [removed, Answer.follow, Answer.isRemoval, Answer.isRegistration, Answer.handle?]
          using count
      · have missing : ∀ listed ∈ live, listed.id ≠ handle.id :=
          fun listed present same => member ⟨listed, present, same⟩
        have kept : live.filter (fun other => other.id != handle.id) = live := by
          simpa using missing
        have refused := Usage.Sound.remove_of_missing sound missing
        simp [refused, kept, Answer.follow, Answer.isRemoval, Answer.isRegistration, Answer.handle?]
  | reset label =>
    simp only [Usage.step, Usage.withHandle]
    cases usage.kept[label]? <;> rfl
  | inspect label =>
    simp only [Usage.step, Usage.withHandle]
    cases usage.kept[label]? <;> rfl
  | _ => rfl

/-! ## Every run -/

namespace Exchange

/-- What is asked of one messenger, and what it answers. -/
def transcript (exchange : Exchange) (requests : List Request) (number : Nat) : List Entry :=
  ((exchange.stages requests).filter fun stage => stage.2.messenger == number).map fun stage =>
    (stage.1.usage number).entry stage.2.operation

private theorem transcript_append (exchange : Exchange) (earlier later : List Request)
    (number : Nat) :
    exchange.transcript (earlier ++ later) number =
      exchange.transcript earlier number ++ (exchange.after earlier).transcript later number := by
  simp [transcript, stages_append]

private theorem transcript_singleton (exchange : Exchange) (request : Request) (number : Nat) :
    exchange.transcript [request] number = if request.messenger = number then
      [(exchange.usage number).entry request.operation] else [] := by
  by_cases same : request.messenger = number <;> simp [transcript, stages, same]

/-- The answers in a transcript are those that the users of the messenger get. -/
theorem answers_eq_transcript (exchange : Exchange) (requests : List Request) (number : Nat) :
    exchange.answers requests number = (exchange.transcript requests number).map Entry.answer := by
  simp only [answers, transcript, List.map_map]
  refine List.map_congr_left fun stage member => ?_
  have same : stage.2.messenger = number := by simpa using (List.mem_filter.mp member).2
  subst same
  rfl

end Exchange

/-- The counters and the logs of a messenger agree with what it was asked and answered. -/
structure Messenger.Accounts (messenger : Messenger) (entries : List Entry) : Prop where
  stats : messenger.stats = .ofAnswers (entries.map Entry.answer)
  logs : ∀ lane, messenger.sentMessages lane = Entry.loggedSince lane entries
  conserved : messenger.logged + ((entries.map Entry.answer).map Answer.forgotten).sum =
    (entries.map Entry.answer).countP Answer.isCompleted
  registered : (live (entries.map Entry.answer)).length +
    (entries.map Entry.answer).countP Answer.isRemoval =
      (entries.map Entry.answer).countP Answer.isRegistration

theorem Messenger.Accounts.step {usage : Usage} {entries : List Entry} {returned : List Handle}
    (accounts : usage.bus.messenger.Accounts entries)
    (sound : usage.bus.Sound returned (live (entries.map Entry.answer))) (operation : Operation) :
    (usage.step operation).2.bus.messenger.Accounts (entries ++ [usage.entry operation]) := by
  have answered : (entries ++ [usage.entry operation]).map Entry.answer =
      entries.map Entry.answer ++ [(usage.step operation).1] := by
    rw [List.map_append]
    rfl
  constructor
  · rw [answered, Stats.ofAnswers_concat, ← accounts.stats]
    exact usage.stats_eq_follow operation
  · intro lane
    rw [Entry.loggedSince_concat, ← accounts.logs lane]
    exact usage.sentMessages_step operation lane
  · have logged := usage.logged_step operation
    have before := accounts.conserved
    rw [answered, List.map_append, List.sum_append, List.countP_append]
    simp only [List.map_cons, List.map_nil, List.sum_singleton]
    omega
  · have registered := sound.length_follow operation
    have before := accounts.registered
    rw [answered, live_concat, List.countP_append, List.countP_append]
    omega

private theorem Exchange.accounts_after (requests : List Request) (number : Nat) :
    ((fresh.after requests).bus number).messenger.Accounts (fresh.transcript requests number) := by
  induction requests using List.reverseRecOn with
  | nil =>
    refine ⟨rfl, fun lane => ?_, ?_, rfl⟩
    · simp [Exchange.after, fresh, bus, Messenger.sentMessages, transcript, stages,
        Entry.loggedSince]
    · simp [Exchange.after, fresh, bus, Messenger.sentMessages, Messenger.logged, transcript,
        stages]
  | append_singleton requests request ih =>
    rw [after_concat, transcript_append, transcript_singleton]
    by_cases same : request.messenger = number
    · subst same
      have sound := sound_after requests request.messenger
      rw [answers_eq_transcript] at sound
      rw [if_pos rfl, perform_bus_self]
      exact ih.step sound request.operation
    · rw [if_neg same, List.append_nil, perform_bus_other _ request (Ne.symm same)]
      exact ih

/-- The counters of a messenger and the logs of its lanes account for every operation: for
completed and failed dispatches, for registrations and removals, and for what each lane dispatched
since its log was last cleared. What is in the logs and what was ever cleared from them are together
the messages of all completed dispatches. -/
theorem counters_account (requests : List Request) (number : Nat) :
    let messenger := ((Exchange.fresh.after requests).bus number).messenger
    let entries := Exchange.fresh.transcript requests number
    let answers := entries.map Entry.answer
    answers = Exchange.fresh.answers requests number ∧
      messenger.stats.dispatched = answers.countP Answer.isCompleted ∧
      messenger.stats.failed = answers.countP Answer.isFailed ∧
      messenger.stats.unreceived = answers.countP Answer.isUnreceived ∧
      messenger.stats.registered = answers.countP Answer.isRegistration ∧
      messenger.stats.removed = answers.countP Answer.isRemoval ∧
      messenger.stats.active = messenger.delegateCount ∧
      (∀ lane, messenger.sentMessages lane = Entry.loggedSince lane entries) ∧
      ∑ lane, (messenger.sentMessages lane).length + (answers.map Answer.forgotten).sum =
        messenger.stats.dispatched := by
  intro messenger entries answers
  have accounts : messenger.Accounts entries := Exchange.accounts_after requests number
  have sound := Exchange.sound_after requests number
  rw [Exchange.answers_eq_transcript] at sound
  have stats : messenger.stats = .ofAnswers answers := accounts.stats
  refine ⟨(Exchange.answers_eq_transcript _ _ _).symm, congrArg Stats.dispatched stats,
    congrArg Stats.failed stats, congrArg Stats.unreceived stats, congrArg Stats.registered stats,
    congrArg Stats.removed stats, ?_, accounts.logs, ?_⟩
  · have count : messenger.delegateCount = (live answers).length := sound.lists.size_index
    have balance : (live answers).length + answers.countP Answer.isRemoval =
        answers.countP Answer.isRegistration := accounts.registered
    rw [count, stats, Stats.active, Stats.ofAnswers, ← balance, Nat.add_sub_cancel]
  · rw [stats]
    exact accounts.conserved

end Bus

end Beamline
