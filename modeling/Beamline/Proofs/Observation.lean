import Beamline.Proofs.LineupRuns
import Beamline.Proofs.Observers

/-!
Observing does not change the physics: chains that contain the modules of the demonstration chain
that act, and any observers anywhere between them, dispatch the same deposits, charges and hits in
each event.
-/

namespace Beamline.Run

variable {σ : Type}

/-! ## Blueprints on the whole of a state -/

theorem Code.zoom_self {α : Type} (code : Code σ α) : code.zoom id (fun state _ => state) = code :=
  funext fun state => Program.bind_done (code state)

theorem Behaviour.zoom_self (behaviour : Behaviour σ) :
    behaviour.zoom id (fun state _ => state) = behaviour := by
  simp only [Behaviour.zoom, Code.zoom_self]

/-- A blueprint whose instances keep their state in the whole of it. -/
theorem Blueprint.zoom_self (blueprint : Blueprint σ) (start : σ) :
    blueprint.zoom id (fun state _ => state) start = blueprint := by
  have same : (blueprint.zoom id (fun state _ => state) start).construct = blueprint.construct := by
    funext surroundings detector
    simp only [Blueprint.zoom, Behaviour.zoom_self]
    exact bind_pure (blueprint.construct surroundings detector)
  exact congrArg (fun construct => { blueprint with construct }) same

end Beamline.Run

namespace Beamline.Demo

open Bus Run

/-! ## Chains with observers -/

section Instrumented

variable {σ : Type} {steady : Prop}

/-- A chain of the modules that act, in their order and with their state in a part of that of the
chain, and of observers anywhere between them. If they are steady, the observers neither stop early
nor require a message. -/
inductive Instrumented (steady : Prop) : List (Blueprint σ) → Prop
  | intro (lens : CounterLens σ) (start : σ)
      {first second third last : List (Blueprint σ)}
      (observe : ∀ blueprint ∈ first ++ second ++ third ++ last, blueprint.Observes steady) :
      Instrumented steady (first ++ Generator.blueprint.zoom lens.part lens.put start ::
        (second ++ Transfer.blueprint.zoom lens.part lens.put start ::
          (third ++ Digitizer.blueprint.zoom lens.part lens.put start :: last)))

variable {lens : CounterLens σ} {start : σ} {detectors : List Detector}

theorem Scripted.append {roles others : List Role}
    {instances more : List (Blueprint σ × Option Detector)}
    (first : Scripted lens steady start detectors roles instances)
    (second : Scripted lens steady start detectors others more) :
    Scripted lens steady start detectors (roles ++ others) (instances ++ more) := by
  induction first with
  | nil => exact second
  | watch observes further ih => exact .watch observes ih
  | act among further ih => exact .act among ih

private theorem scripted_watching {instances : List (Blueprint σ × Option Detector)}
    (observe : ∀ built ∈ instances, built.1.Observes steady) :
    Scripted lens steady start detectors [] instances := by
  induction instances with
  | nil => exact .nil
  | cons built rest ih =>
    rw [List.forall_mem_cons] at observe
    exact .watch observe.1 (ih observe.2)

theorem scripted_acting {roles : List Role} (among : ∀ role ∈ roles, role ∈ acting detectors) :
    Scripted lens steady start detectors roles (roles.map (Role.instanceIn lens start)) := by
  induction roles with
  | nil => exact .nil
  | cons role rest ih =>
    rw [List.forall_mem_cons] at among
    exact .act among.1 (ih among.2)

/-- What the modules of a lane of such a chain are built from. -/
theorem Instrumented.scripted {blueprints : List (Blueprint σ)}
    (instrumented : Instrumented steady blueprints) (detectors : List Detector) :
    ∃ lens start, Scripted lens steady start detectors (acting detectors)
      (Blueprint.instances blueprints detectors) := by
  obtain @⟨lens, start, first, second, third, last, observe⟩ := instrumented
  simp only [List.forall_mem_append] at observe
  obtain ⟨⟨⟨initial, early⟩, late⟩, final⟩ := observe
  refine ⟨lens, start, ?_⟩
  have instances : Blueprint.instances (first ++ Generator.blueprint.zoom lens.part lens.put start ::
      (second ++ Transfer.blueprint.zoom lens.part lens.put start ::
        (third ++ Digitizer.blueprint.zoom lens.part lens.put start :: last))) detectors =
      Blueprint.instances first detectors ++ ([Role.generator].map (Role.instanceIn lens start) ++
        (Blueprint.instances second detectors ++
          ((detectors.map Role.transfer).map (Role.instanceIn lens start) ++
            (Blueprint.instances third detectors ++
              ((detectors.map Role.digitizer).map (Role.instanceIn lens start) ++
                Blueprint.instances last detectors))))) := by
    simp [Blueprint.instances, Role.instanceIn, Role.instance_, Blueprint.zoom, Generator.blueprint,
      Transfer.blueprint, Digitizer.blueprint, Function.comp_def]
  have generator := @scripted_acting σ steady lens start detectors [.generator] (by simp [acting])
  have transfers := @scripted_acting σ steady lens start detectors (detectors.map .transfer)
    (by simp [acting])
  have digitizers := @scripted_acting σ steady lens start detectors (detectors.map .digitizer)
    (by simp [acting])
  have watching {blueprints : List (Blueprint σ)}
      (observe : ∀ blueprint ∈ blueprints, blueprint.Observes steady) :=
    @scripted_watching σ steady lens start detectors _
      (Blueprint.forall_instances observe detectors)
  have all := (watching initial).append <| generator.append <| (watching early).append <|
    transfers.append <| (watching late).append <| digitizers.append (watching final)
  rw [instances]
  simpa only [acting, List.nil_append, List.append_nil, List.singleton_append] using all

def CounterLens.whole : CounterLens Counters where
  part := id
  put counters _ := counters
  part_put _ _ := rfl

theorem instrumented_of_observers {first second third last : List (Blueprint Counters)}
    (observe : ∀ blueprint ∈ first ++ second ++ third ++ last, blueprint.Observes steady) :
    Instrumented steady (first ++ Generator.blueprint :: (second ++ Transfer.blueprint ::
      (third ++ Digitizer.blueprint :: last))) := by
  have instrumented := Instrumented.intro .whole {} observe
  simpa only [CounterLens.whole, Blueprint.zoom_self] using instrumented

/-- The demonstration chain consists of the modules that act and two observers. The sum of charge of
the reader can overflow, so they are not steady. -/
theorem instrumented_chain (tally : Nat) : Instrumented False (chain tally) := by
  have observe : ∀ blueprint ∈ [] ++ [] ++ [] ++ [Reader.blueprint, Monitor.blueprint tally],
      blueprint.Observes False :=
    List.forall_mem_cons.mpr ⟨Reader.observes not_false,
      List.forall_mem_singleton.mpr (Monitor.observes False tally)⟩
  exact instrumented_of_observers observe

end Instrumented

/-! ## Two runs -/

/-- The messages of an event that are physics, in order and with their names: deposits, charges and
hits. -/
def physicsIn (event : UInt64) (notes : List Note) : List (Message × String) :=
  (sentIn event notes).filter fun sent => sent.1.type ∈ [PayloadType.deposit, .pixelCharge, .pixelHit]

/-- What is dispatched in an event by two chains with observers. -/
structure SamePhysics (steady : Prop) (event : UInt64) (life repeated : Life)
    (notes again : List Note) : Prop where
  /-- The physics is the same as far as both come, if observers fail. -/
  agree : physicsIn event notes <+: physicsIn event again ∨
    physicsIn event again <+: physicsIn event notes
  /-- If no observer fails, or at least not in the event, the physics is the same. -/
  same : steady ∨ RunThrough life.rounds event ∧ RunThrough repeated.rounds event →
    physicsIn event notes = physicsIn event again
  /-- Tracks, and the particles of a detector, are the same where both chains dispatch them. -/
  spare : ∀ one ∈ sentIn event notes, ∀ other ∈ sentIn event again,
    one.1.type = other.1.type → one.1.detector = other.1.detector →
      one.1.type = .track ∨ one.1.type = .particle → one = other

section Two

variable {steady : Prop} {detectors : List Detector} {pipeline : Pipeline}
  {seed event : UInt64} {life repeated : Life} {notes again : List Note}
  {script messages part told sent known : List Message}

theorem Dispatched.physicsIn_eq {through : Prop}
    (dispatched : Dispatched steady through script messages part told)
    (noted : sentIn event notes = part.map fun message => (message, "")) :
    physicsIn event notes = (physics told).map fun message => (message, "") := by
  rw [physicsIn, noted, List.filter_map, ← dispatched.thinned.physics]
  rfl

theorem samePhysics (apart : (detectors.map Detector.name).Nodup)
    (noted : sentIn event notes = part.map fun message => (message, ""))
    (dispatched : Dispatched steady (RunThrough life.rounds event) script
      (messagesIn detectors pipeline seed event) part told)
    (recorded : sentIn event again = sent.map fun message => (message, ""))
    (issued : Dispatched steady (RunThrough repeated.rounds event) script
      (messagesIn detectors pipeline seed event) sent known) :
    SamePhysics steady event life repeated notes again where
  agree := by
    rw [dispatched.physicsIn_eq noted, issued.physicsIn_eq recorded]
    have comparable := List.prefix_or_prefix_of_prefix dispatched.begins issued.begins
    exact comparable.imp (fun begins => (begins.filter _).map _) fun begins => (begins.filter _).map _
  same := by
    intro complete
    have equal : told = known := by
      rcases complete with steadily | ⟨through, repeated⟩
      · rw [dispatched.calm steadily, issued.calm steadily]
      · rw [dispatched.complete through, issued.complete repeated]
    rw [dispatched.physicsIn_eq noted, issued.physicsIn_eq recorded, equal]
  spare := by
    intro one first other second type detector spare
    rw [noted] at first
    rw [recorded] at second
    obtain ⟨message, among, rfl⟩ := List.mem_map.mp first
    obtain ⟨counterpart, listed, rfl⟩ := List.mem_map.mp second
    have covers : (Event.ofNumber detectors pipeline seed event).Covers detectors :=
      Event.covers_draw ..
    have mine := dispatched.begins.subset (dispatched.thinned.sublist.subset among)
    have theirs := issued.begins.subset (issued.thinned.sublist.subset listed)
    rw [covers.eq_of_spare apart mine theirs type detector spare]

/-- Which messages a chain with observers dispatches in an event. -/
theorem Instrumented.dispatched {σ : Type} {config : Config} {simulation : Simulation σ}
    (accepted : Simulation.ofConfig config = .ok simulation) {blueprints : List (Blueprint σ)}
    (instrumented : Instrumented steady blueprints) (turns : List Nat) {world : World}
    (new : world.bus.New) (event : UInt64) :
    let run := simulation.add blueprints
    ∃ sent told, sentIn event (run.notes turns world) = sent.map (fun message => (message, "")) ∧
      Dispatched steady (RunThrough (run.life turns world).rounds event)
        (scriptOf simulation.detectors config.pipeline (Config.plan config) event)
        (messagesIn simulation.detectors config.pipeline config.seed event) sent told := by
  intro run
  obtain ⟨detectors, rfl, valid⟩ := accepted_of_ofConfig accepted
  obtain ⟨lens, start, scripted⟩ := instrumented.scripted detectors
  have whole : Accepted run.config run.detectors := valid
  exact @Scripted.dispatched _ lens steady world run start scripted whole new turns event

/-- If no observer fails, the physics of an event is that of the modules that act. -/
theorem Instrumented.physicsIn_eq {σ : Type} {config : Config} {simulation : Simulation σ}
    (accepted : Simulation.ofConfig config = .ok simulation) {blueprints : List (Blueprint σ)}
    (instrumented : Instrumented steady blueprints) (steadily : steady) (turns : List Nat)
    {world : World} (new : world.bus.New) (event : UInt64) :
    physicsIn event ((simulation.add blueprints).notes turns world) =
      (physics (scriptOf simulation.detectors config.pipeline (Config.plan config) event)).map
        fun message => (message, "") := by
  obtain ⟨sent, told, noted, dispatched⟩ := instrumented.dispatched accepted turns new event
  rw [dispatched.physicsIn_eq noted, dispatched.calm steadily]

end Two

/-- Observers make no difference to the physics of an event, however the lanes take turns. -/
theorem physics_independent_of_observers {σ τ : Type} {config : Config}
    {simulation : Simulation σ} {other : Simulation τ}
    (accepted : Simulation.ofConfig config = .ok simulation)
    (approved : Simulation.ofConfig config = .ok other) {steady : Prop}
    {blueprints : List (Blueprint σ)} {others : List (Blueprint τ)}
    (instrumented : Instrumented steady blueprints) (equipped : Instrumented steady others)
    (turns again : List Nat) {world elsewhere : World} (new : world.bus.New)
    (fresh : elsewhere.bus.New) (event : UInt64) :
    let one := simulation.add blueprints
    let another := other.add others
    SamePhysics steady event (one.life turns world) (another.life again elsewhere)
      (one.notes turns world) (another.notes again elsewhere) := by
  intro one another
  obtain ⟨_, _, noted, dispatched⟩ := instrumented.dispatched accepted turns new event
  obtain ⟨_, _, recorded, issued⟩ := equipped.dispatched approved again fresh event
  obtain ⟨_, detectors, planes, rfl⟩ := ofConfig_eq_ok.mp accepted
  obtain ⟨_, known, built, rfl⟩ := ofConfig_eq_ok.mp approved
  obtain rfl : known = detectors := Except.ok.inj (built.symm.trans planes)
  obtain ⟨_, same, valid⟩ := accepted_of_ofConfig accepted
  cases same
  exact samePhysics valid.apart noted dispatched recorded issued

/-- A chain with a monitor in front and one at its end, the demonstration chain, and the chain
without observers. -/
theorem physics_of_unobserved_chain :
    ∃ simulation : Simulation Counters, Simulation.ofConfig { events := 5, workers := 2 } =
        .ok simulation ∧
      let bare := simulation.add [Generator.blueprint, Transfer.blueprint, Digitizer.blueprint]
      let watched := simulation.add [Monitor.blueprint 0, Generator.blueprint, Transfer.blueprint,
        Digitizer.blueprint, Monitor.blueprint 0]
      let demo := simulation.add (chain 0)
      ({} : World).bus.New ∧ Instrumented True bare.blueprints ∧
        Instrumented True watched.blueprints ∧ Instrumented False demo.blueprints ∧
        physicsIn 3 (watched.notes [1, 0, 0, 1] {}) = physicsIn 3 (bare.notes [] {}) ∧
        (physicsIn 3 (demo.notes [1, 0, 0, 1] {}) <+: physicsIn 3 (bare.notes [] {}) ∨
          physicsIn 3 (bare.notes [] {}) <+: physicsIn 3 (demo.notes [1, 0, 0, 1] {})) := by
  have new : ({} : World).bus.New := .default
  have demo := instrumented_chain 0
  have bare (steady : Prop) := @instrumented_of_observers steady [] [] [] [] (by simp)
  have watched := @instrumented_of_observers True [Monitor.blueprint 0] [] [] [Monitor.blueprint 0]
    (by simpa using Monitor.observes True 0)
  exact ⟨_, rfl, new, bare True, watched, demo,
    (@physics_independent_of_observers Counters Counters { events := 5, workers := 2 } _ _ rfl rfl True
      _ _ watched (bare True) [1, 0, 0, 1] [] {} {} new new 3).same (.inl trivial),
    (@physics_independent_of_observers Counters Counters { events := 5, workers := 2 } _ _ rfl rfl
      False _ _ demo (bare False) [1, 0, 0, 1] [] {} {} new new 3).agree⟩

end Beamline.Demo
