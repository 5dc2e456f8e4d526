import Beamline.Proofs.EventShares
import Beamline.Proofs.ModuleCode

namespace Beamline.Run

open Bus

variable {σ : Type} {tally : Nat} {live : List Handle} {lane : LaneId}

/-- A process comes to an end in a lane, whatever other lanes do meanwhile. -/
def Ends {α : Type} (tally : Nat) (live : List Handle) (lane : LaneId) (process : Process α)
    (view : View) (value : α) (after : View) : Prop :=
  process.Comes LaneOperation.performNoted (Shows tally live) lane view value after

/-! ## One event -/

/-- Modules complete an event one after the other. -/
inductive Passes (tally : Nat) (live : List Handle) (lane : LaneId) (event : UInt64) :
    List (Module σ) → Random.Stream → View → List (Module σ) → Random.Stream → View → Prop
  | nil (stream : Random.Stream) (view : View) :
    Passes tally live lane event [] stream view [] stream view
  | cons {module after : Module σ} {rest others : List (Module σ)}
      {stream middle last : Random.Stream} {view seen final : View}
      (first : Ends tally live lane
        (module.call (module.behaviour.run event) (some { event, stream })) view
        (.ok (), after, some { event, stream := middle }) seen)
      (further : Passes tally live lane event rest middle seen others last final) :
    Passes tally live lane event (module :: rest) stream view (after :: others) last final

section Passes

variable {event : UInt64} {modules others after later : List (Module σ)}
  {stream middle last : Random.Stream} {view seen final : View}

theorem Passes.append
    (first : Passes tally live lane event modules stream view after middle seen)
    (second : Passes tally live lane event others middle seen later last final) :
    Passes tally live lane event (modules ++ others) stream view (after ++ later) last final := by
  induction first with
  | nil stream view => exact second
  | cons head further ih => exact .cons head (ih second)

theorem Passes.callInTurn
    (passes : Passes tally live lane event modules stream view after last final) :
    Ends tally live lane
      (callInTurn .run (fun behaviour => behaviour.run event) modules (some { event, stream }))
      view (.ok (), after, some { event, stream := last }) final := by
  induction passes with
  | nil stream view => exact Program.comes_done
  | cons head further ih => exact head.bind (ih.bind Program.comes_done)

/-- One of some modules meets a fault in an event. -/
def Faults (tally : Nat) (live : List Handle) (lane : LaneId) (event : UInt64) (fault : Fault)
    (modules : List (Module σ)) (stream : Random.Stream) (view : View) : Prop :=
  ∃ ended after, Ends tally live lane
    (Run.callInTurn .run (fun behaviour => behaviour.run event) modules (some { event, stream }))
    view (.error (.fault fault), ended) after

variable {fault : Fault}

theorem faults_cons {module stopped : Module σ} {context : Option EventContext}
    (first : Ends tally live lane
      (module.call (module.behaviour.run event) (some { event, stream })) view
      (.error (.fault fault), stopped, context) seen) (rest : List (Module σ)) :
    Faults tally live lane event fault (module :: rest) stream view :=
  ⟨_, seen, first.bind Program.comes_done⟩

theorem Passes.faults
    (first : Passes tally live lane event modules stream view after middle seen)
    (second : Faults tally live lane event fault others middle seen) :
    Faults tally live lane event fault (modules ++ others) stream view := by
  induction first with
  | nil stream view => exact second
  | cons head further ih =>
    obtain ⟨ended, after, stopped⟩ := ih second
    exact ⟨_, after, head.bind (stopped.bind Program.comes_done)⟩

end Passes

/-- The delegates of modules, in their order. -/
def handlesOf (modules : List (Module σ)) : List Handle :=
  modules.flatMap fun module => module.bindings.handles

theorem mem_handlesOf {modules : List (Module σ)} {handle : Handle} :
    handle ∈ handlesOf modules ↔ ∃ module ∈ modules, handle ∈ module.bindings.handles :=
  List.mem_flatMap

theorem handlesOf_eq (modules : List (Module σ)) :
    handlesOf modules = (modules.map Module.bindings).flatMap Bindings.handles := by
  rw [List.flatMap_map]
  rfl

theorem handlesOf_cons (module : Module σ) (modules : List (Module σ)) :
    handlesOf (module :: modules) = module.bindings.handles ++ handlesOf modules :=
  List.flatMap_cons

theorem handlesOf_append (modules others : List (Module σ)) :
    handlesOf (modules ++ others) = handlesOf modules ++ handlesOf others :=
  List.flatMap_append

/-- The delegates of the modules of a lane are the registered ones of the lane. -/
structure Owned (live : List Handle) (lane : LaneId) (modules : List (Module σ)) : Prop where
  mine : ∀ module ∈ modules, Mine live lane module.bindings.handles
  all : ∀ handle ∈ live, handle.lane = lane → ∃ module ∈ modules, handle ∈ module.bindings.handles

section Close

variable {modules : List (Module σ)} {view : View}

private theorem ends_firstUnmet (mine : ∀ module ∈ modules, Mine live lane module.bindings.handles)
    (filled : ∀ module ∈ modules, ∀ handle ∈ module.bindings.handles, handle.isRequired = true →
      ∃ slot, handle.place = .slot slot ∧ view.held handle ≠ []) :
    Ends tally live lane (firstUnmet modules) view none view := by
  induction modules with
  | nil => exact Program.comes_done
  | cons module rest ih =>
    have others := ih (fun other member => mine other (List.mem_cons_of_mem _ member))
      fun other member => filled other (List.mem_cons_of_mem _ member)
    have scope : Scope := { bindings := module.bindings }
    obtain ⟨moves, answers⟩ := @moves_unmet tally live lane view { bindings := module.bindings }
      (mine module List.mem_cons_self) (filled module List.mem_cons_self)
    have asked : Ends tally live lane (module.ask .unmetRequirements) view [] view :=
      (moves.ask answers).bind Program.comes_done
    exact asked.bind others

/-- The view after the storage of modules is emptied. -/
def emptiedAll (modules : List (Module σ)) (view : View) : View :=
  modules.foldl (fun view module => view.emptied module.bindings.handles) view

private theorem ends_resetModules
    (mine : ∀ module ∈ modules, Mine live lane module.bindings.handles) :
    Ends tally live lane (resetModules modules) view () (emptiedAll modules view) := by
  induction modules generalizing view with
  | nil => exact Program.comes_done
  | cons module rest ih =>
    have others := @ih (view.emptied module.bindings.handles) fun other member =>
      mine other (List.mem_cons_of_mem _ member)
    have moves := @moves_reset tally live lane view { bindings := module.bindings }
      (mine module List.mem_cons_self)
    have asked : Ends tally live lane (module.ask .resetAll) view ()
        (view.emptied module.bindings.handles) :=
      moves.call fun _ => Program.comes_done
    exact asked.bind others

theorem emptied_held_of_nil {handle : Handle} (empty : view.held handle = [])
    (handles : List Handle) : (view.emptied handles).held handle = [] := by
  by_cases listed : handle.id ∈ handles.map Handle.id
  · exact View.emptied_held listed
  · rw [View.emptied_held_of_other listed, empty]

private theorem emptiedAll_held {handle : Handle}
    (empty : view.held handle = [] ∨ ∃ module ∈ modules, handle ∈ module.bindings.handles) :
    (emptiedAll modules view).held handle = [] := by
  induction modules generalizing view with
  | nil => simpa [emptiedAll] using empty
  | cons module rest ih =>
    refine @ih (view.emptied module.bindings.handles) ?_
    rcases empty with empty | ⟨owner, among, bound⟩
    · exact .inl (emptied_held_of_nil empty _)
    · rcases List.mem_cons.mp among with rfl | among
      · exact .inl (View.emptied_held (List.mem_map_of_mem bound))
      · exact .inr ⟨owner, among, bound⟩

private theorem emptiedAll_sent : (emptiedAll modules view).sent = view.sent := by
  induction modules generalizing view with
  | nil => rfl
  | cons module rest ih => exact ih

theorem ends_idle {operation : LaneOperation} {α : Type} {next : operation.Answer → Process α}
    {value : α} {after : View}
    (unsent : ∀ answer, Note.sending? ⟨operation, answer⟩ = none)
    (met : ∀ answer, Note.unmet ⟨operation, answer⟩ = [])
    (kept : ∀ world, (operation.perform world).2.bus.store = world.bus.store ∧
      (operation.perform world).2.bus.messenger.registry = world.bus.messenger.registry ∧
      (operation.perform world).2.bus.messenger.nextId = world.bus.messenger.nextId ∧
      (operation.perform world).2.bus.messenger.stats = world.bus.messenger.stats ∧
      (operation.perform world).2.aborting = world.aborting)
    (further : ∀ answer, Ends tally live lane (next answer) view value after) :
    Ends tally live lane ((Process.ask operation).bind next) view value after :=
  (moves_idle unsent (fun _ _ => met _) kept).call further

private theorem ends_closeEvent (owned : Owned live lane modules)
    (filled : ∀ module ∈ modules, ∀ handle ∈ module.bindings.handles, handle.isRequired = true →
      ∃ slot, handle.place = .slot slot ∧ view.held handle ≠ []) :
    Ends tally live lane (Lane.closeEvent { id := lane, modules }) view (.ok ())
      (.clear view.sent) := by
  have unmet : Ends tally live lane (firstUnmet modules) view none view :=
    ends_firstUnmet owned.mine filled
  have reset : Ends tally live lane (resetModules modules) view () (.clear view.sent) := by
    apply (ends_resetModules owned.mine).implies
    intro observed shown
    have sent : (emptiedAll modules view).sent = view.sent := emptiedAll_sent
    refine shown.of_agree (fun handle member own => ?_) sent.symm
    exact (emptiedAll_held (.inr (owned.all handle member own))).symm
  refine unmet.bind (reset.bind ?_)
  refine ends_idle (fun _ => rfl) (fun _ => rfl) (fun _ => ⟨rfl, rfl, rfl, rfl, rfl⟩) fun _ => ?_
  refine ends_idle (fun _ => rfl) (fun _ => rfl) (fun _ => ⟨rfl, rfl, rfl, rfl, rfl⟩) fun _ => ?_
  exact Program.comes_done

end Close

theorem ends_going {sent : List (UInt64 × Message)} :
    Ends tally live lane (Process.ask .isAborting) (.clear sent) false (.clear sent) := by
  refine (moves_idle (fun _ => rfl) (fun _ _ => rfl) fun _ => ⟨rfl, rfl, rfl, rfl, rfl⟩).ask ?_
  exact fun observed shown => shown.1.going

/-! ## The event loop -/

/-- Modules that serve a lane. In whatever state they are, they complete every event that begins
with empty storage and that they have room for, and everything that they require is there in the
end. Where there is no room for an event, its sums overflow. -/
structure Serves (tally : Nat) (live : List Handle) (lane : LaneId) (seed : UInt64)
    (fit : List (Module σ) → Prop) (room : List (Module σ) → UInt64 → Prop)
    (messages : UInt64 → List Message) (next : List (Module σ) → UInt64 → List (Module σ)) :
    Prop where
  owned : ∀ modules, fit modules → Owned live lane modules
  passes : ∀ modules, fit modules → ∀ event, room modules event → ∀ sent, ∃ last,
    Passes tally live lane event modules
      (.ofEvent seed event) (.during sent lane event []) (next modules event) last
      (.during sent lane event (messages event))
  faults : ∀ modules, fit modules → ∀ event, ¬room modules event → ∀ sent,
    Faults tally live lane event .addition modules
      (.ofEvent seed event) (.during sent lane event [])
  kept : ∀ modules, fit modules → ∀ event, fit (next modules event)
  filled : ∀ modules, fit modules → ∀ event sent, ∀ module ∈ modules,
    ∀ handle ∈ module.bindings.handles, handle.isRequired = true → ∃ slot,
      handle.place = .slot slot ∧ (View.during sent lane event (messages event)).held handle ≠ []

/-- Modules have room for events, one after the other. -/
def Bears (room : List (Module σ) → UInt64 → Prop)
    (next : List (Module σ) → UInt64 → List (Module σ)) :
    List (Module σ) → List UInt64 → Prop
  | _, [] => True
  | modules, event :: rest => room modules event ∧ Bears room next (next modules event) rest

section Serves

variable {seed : UInt64} {fit : List (Module σ) → Prop} {room : List (Module σ) → UInt64 → Prop}
  {messages : UInt64 → List Message} {next : List (Module σ) → UInt64 → List (Module σ)}
  {modules : List (Module σ)}
  (serves : Serves tally live lane seed fit room messages next)

include serves

theorem Serves.ends_runEvent (fits : fit modules) {event : UInt64} (space : room modules event)
    (sent : List (UInt64 × Message)) :
    Ends tally live lane (Lane.runEvent { id := lane, modules } event seed) (.clear sent)
      (.ok (), { id := lane, modules := next modules event })
      (.clear (sent ++ (messages event).map fun message => (event, message))) := by
  obtain ⟨last, passes⟩ := serves.passes modules fits event space sent
  have later := serves.kept modules fits event
  have closed := @ends_closeEvent σ tally live lane _ _ (serves.owned _ later)
    (serves.filled _ later event sent)
  rw [View.during_sent] at closed
  refine passes.callInTurn.bind (closed.bind ?_)
  refine ends_idle (fun _ => rfl) (fun _ => rfl) (fun _ => ⟨rfl, rfl, rfl, rfl, rfl⟩) fun _ => ?_
  exact Program.comes_done

private theorem Serves.faults_runEvent (fits : fit modules) {event : UInt64}
    (crowded : ¬room modules event) (sent : List (UInt64 × Message)) : ∃ stopped after,
    Ends tally live lane (Lane.runEvent { id := lane, modules } event seed) (.clear sent)
      (.error (.fault .addition), stopped) after := by
  obtain ⟨⟨ended, _⟩, after, faults⟩ := serves.faults modules fits event crowded sent
  refine ⟨{ id := lane, modules := ended }, after, faults.bind ?_⟩
  refine ends_idle (fun _ => rfl) (fun _ => rfl) (fun _ => ⟨rfl, rfl, rfl, rfl, rfl⟩) fun _ => ?_
  exact Program.comes_done

section Loop

variable {plan : Plan} (seeded : plan.seed = seed) (proceeds : plan.Fits) (event : UInt64)
  (fits : fit modules)

include seeded proceeds fits

theorem Serves.ends_runEvents (bears : Bears room next modules (plan.eventsFrom event))
    (processed : Nat) (sent : List (UInt64 × Message)) :
    Ends tally live lane (Lane.runEvents plan { id := lane, modules } event processed) (.clear sent)
      (.ok (processed + (plan.eventsFrom event).length),
        { id := lane, modules := (plan.eventsFrom event).foldl next modules })
      (.clear (sent ++ (plan.eventsFrom event).flatMap fun event =>
        (messages event).map fun message => (event, message))) := by
  fun_induction Plan.eventsFrom plan event generalizing modules processed sent with
  | case1 event early ih =>
    obtain ⟨_, onward⟩ := proceeds.lt_add early
    rw [if_pos onward] at bears ⊢
    have ran := serves.ends_runEvent fits bears.1 sent
    have others := ih onward (serves.kept modules fits event) bears.2 (processed + 1)
      (sent ++ (messages event).map fun message => (event, message))
    rw [Lane.runEvents, if_pos early]
    refine ends_going.bind ?_
    subst seeded
    refine ran.bind ?_
    simp only [if_pos onward, List.length_cons, List.foldl_cons, List.flatMap_cons]
    rw [List.append_assoc, Nat.add_assoc, Nat.add_comm 1] at others
    exact others
  | case2 event late =>
    rw [Lane.runEvents, if_neg late]
    simp only [List.length_nil, Nat.add_zero, List.flatMap_nil, List.append_nil]
    exact Program.comes_done

theorem Serves.faults_runEvents (crowded : ¬Bears room next modules (plan.eventsFrom event))
    (processed : Nat) (sent : List (UInt64 × Message)) : ∃ stopped after,
    Ends tally live lane (Lane.runEvents plan { id := lane, modules } event processed) (.clear sent)
      (.error (.fault .addition), stopped) after := by
  fun_induction Plan.eventsFrom plan event generalizing modules processed sent with
  | case1 event early ih =>
    obtain ⟨_, onward⟩ := proceeds.lt_add early
    rw [if_pos onward] at crowded
    rw [Lane.runEvents, if_pos early]
    subst seeded
    by_cases space : room modules event
    · have ran := serves.ends_runEvent fits space sent
      obtain ⟨stopped, after, others⟩ := ih onward (serves.kept modules fits event)
        (fun bears => crowded ⟨space, bears⟩) (processed + 1)
        (sent ++ (messages event).map fun message => (event, message))
      refine ⟨stopped, after, ends_going.bind (ran.bind ?_)⟩
      simp only [if_pos onward]
      exact others
    · obtain ⟨stopped, after, ran⟩ := serves.faults_runEvent fits space sent
      exact ⟨stopped, after, ends_going.bind (ran.bind Program.comes_done)⟩
  | case2 event late => exact absurd trivial crowded

end Loop

end Serves

end Beamline.Run
