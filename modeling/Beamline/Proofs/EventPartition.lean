import Beamline.Proofs.EventCounts
import Beamline.Proofs.EventReach
import Beamline.Proofs.Lists

/-!
How the events of a run come to be processed: if no module fails, each lane processes the events of
its remainder, one after the other and each once, and is counted with their number.
-/

namespace Beamline.Run

variable {σ : Type} {count own : Nat}

theorem Chronicle.Fine.length_completed {chronicle : Chronicle σ} (fine : chronicle.Fine) :
    chronicle.completed.length = chronicle.results.length := by
  induction chronicle with
  | nil => rfl
  | cons milestone rest ih =>
    cases milestone with
    | looked isAborting => exact ih fine
    | processed event calls result lane =>
      rw [Chronicle.Fine, Chronicle.results_processed, List.forall_mem_cons] at fine
      obtain ⟨rfl, others⟩ := fine
      exact congrArg (· + 1) (ih others)

/-! ## The shares of the lanes -/

namespace Plan

variable {plan : Plan}

/-- The events of each lane, in the order of the lanes. -/
def shares (plan : Plan) : List (List UInt64) :=
  (List.range plan.stride.toNat).map fun place => plan.events (laneOf place)

theorem getElem?_shares {place : Nat} {share : List UInt64} :
    plan.shares[place]? = some share ↔
      place < plan.stride.toNat ∧ plan.events (laneOf place) = share := by
  simp only [shares, List.getElem?_map, Option.map_eq_some_iff, List.getElem?_eq_some_iff,
    List.length_range, List.getElem_range, exists_prop]
  constructor
  · rintro ⟨_, ⟨within, rfl⟩, same⟩
    exact ⟨within, same⟩
  · rintro ⟨within, same⟩
    exact ⟨place, ⟨within, rfl⟩, same⟩

variable (fits : plan.Fits) (few : plan.stride.toNat ≤ UInt16.size)

include fits few

theorem mem_share {place : Nat} {share : List UInt64} (found : plan.shares[place]? = some share)
    (event : UInt64) :
    event ∈ share ↔ event < plan.total ∧ event.toNat % plan.stride.toNat = place := by
  obtain ⟨within, rfl⟩ := getElem?_shares.mp found
  have small : UInt16.size = ConfigError.maxWorkers + 1 := rfl
  have first : (laneOf place).index.toUInt64.toNat = place := toNat_laneOf (by omega)
  rw [events, mem_eventsFrom fits.positive, UInt64.le_iff_toNat_le, first, Nat.mod_eq_of_lt within]
  refine ⟨fun among => among.2, fun mine => ⟨?_, mine⟩⟩
  rw [← mine.2]
  exact Nat.mod_le _ _

theorem shares_disjoint : plan.shares.Pairwise List.Disjoint := by
  rw [List.pairwise_iff_getElem]
  intro one other first second before event mine theirs
  have here := (mem_share fits few (List.getElem?_eq_getElem first) event).mp mine
  have there := (mem_share fits few (List.getElem?_eq_getElem second) event).mp theirs
  omega

theorem mem_flatten_shares (event : UInt64) :
    event ∈ plan.shares.flatten ↔ event < plan.total := by
  rw [List.mem_flatten]
  constructor
  · rintro ⟨share, listed, among⟩
    obtain ⟨place, found⟩ := List.mem_iff_getElem?.mp listed
    exact ((mem_share fits few found event).mp among).1
  · intro early
    have within := Nat.mod_lt event.toNat fits.positive
    have found := getElem?_shares.mpr ⟨within, rfl⟩
    exact ⟨_, List.mem_of_getElem? found, (mem_share fits few found event).mpr ⟨early, rfl⟩⟩

private theorem flatten_shares_perm : plan.shares.flatten.Perm plan.allEvents := by
  refine (List.perm_ext_iff_of_nodup ?_ allEvents_nodup).mpr fun event => ?_
  · rw [List.nodup_flatten]
    refine ⟨fun share listed => ?_, shares_disjoint fits few⟩
    obtain ⟨place, _, rfl⟩ := List.mem_map.mp listed
    exact eventsFrom_nodup fits.positive _
  · rw [mem_flatten_shares fits few, mem_allEvents]

end Plan

/-- How lanes share the events of a run among them, told by the ends of their event loops, by the
events that each processed, and by what the lanes were counted with before and after. -/
structure Partition (total : UInt64) (lanes : Nat) (ends : List (Except Stop Nat))
    (shares : List (List UInt64)) (before after : Telemetry.Counts LaneId) : Prop where
  count : shares.length = lanes
  /-- A lane processes the events of its remainder and no others. -/
  remainder : ∀ (place : Nat) (share : List UInt64), shares[place]? = some share →
    ∀ event, event ∈ share ↔ event < total ∧ event.toNat % lanes = place
  increasing : ∀ share ∈ shares, share.Pairwise (· < ·)
  disjoint : shares.Pairwise List.Disjoint
  union : ∀ event, event ∈ shares.flatten ↔ event < total
  /-- A lane returns how many events it processed. -/
  returned : ends = shares.map fun share => .ok share.length
  counted : ∀ (place : Nat) (share : List UInt64), shares[place]? = some share →
    after.count (laneOf place) = before.count (laneOf place) + share.length
  /-- Nothing is left for lanes beyond the events. -/
  idle : ∀ (place : Nat) (share : List UInt64), shares[place]? = some share →
    total.toNat ≤ place → share = []
  sum : (shares.map List.length).sum = total.toNat

theorem Plan.partition {plan : Plan} (fits : plan.Fits) (few : plan.stride.toNat ≤ UInt16.size)
    {ends : List (Except Stop Nat)} {before after : Telemetry.Counts LaneId}
    (returned : ends = plan.shares.map fun share => .ok share.length)
    (counted : ∀ (place : Nat) (share : List UInt64), plan.shares[place]? = some share →
      after.count (laneOf place) = before.count (laneOf place) + share.length) :
    Partition plan.total plan.stride.toNat ends plan.shares before after where
  count := by rw [shares, List.length_map, List.length_range]
  remainder _ _ found := mem_share fits few found
  increasing share listed := by
    obtain ⟨place, _, rfl⟩ := List.mem_map.mp listed
    exact eventsFrom_increasing fits.positive _
  disjoint := shares_disjoint fits few
  union := mem_flatten_shares fits few
  returned := returned
  counted := counted
  idle place share found beyond := by
    refine List.eq_nil_iff_forall_not_mem.mpr fun event among => ?_
    obtain ⟨early, remainder⟩ := (mem_share fits few found event).mp among
    have least := Nat.mod_le event.toNat plan.stride.toNat
    rw [UInt64.lt_iff_toNat_lt] at early
    omega
  sum := by rw [← List.length_flatten, (flatten_shares_perm fits few).length_eq, length_allEvents]

/-! ## By every schedule -/

namespace Simulation

variable {simulation : Simulation σ} {lanes : List (Lane σ)}

theorem fits_plan (some : 0 < lanes.length) (few : lanes.length ≤ UInt16.size)
    (fits : simulation.config.events.toNat + lanes.length ≤ UInt64.size) :
    (simulation.plan lanes).Fits := by
  have stride : (simulation.plan lanes).stride.toNat = lanes.length := toNat_stride few
  constructor
  · rw [UInt64.lt_iff_toNat_lt, stride]
    exact some
  · rw [stride]
    exact fits

section Ended

variable (numbered : lanes.map Lane.id = (List.range lanes.length).map laneOf)
  (few : lanes.length ≤ UInt16.size)

include numbered few

/-- By every schedule, a lane is counted with the events that it completes. -/
theorem count_processEvents (turns : List Nat) (world : World) {place : Nat} {loop : Ended σ}
    (found : (simulation.ended turns lanes world)[place]? = some loop) :
    (simulation.processEvents turns lanes world).2.2.metrics.processed.count (laneOf place) =
      world.metrics.processed.count (laneOf place) + loop.2.completed.length := by
  have each (place : Nat) (loop : Process (Ended σ))
      (found : (simulation.telling lanes)[place]? = some loop) :
      loop.KeepsCount lanes.length (fun place => world.metrics.processed.count (laneOf place))
        place (fun ended completed => completed = ended.2.completed.length) 0 := by
    rw [telling, List.getElem?_map, Option.map_eq_some_iff] at found
    obtain ⟨lane, present, rfl⟩ := found
    exact Lane.keepsCount_tellEvents few (List.getElem?_eq_some_iff.mp present).1
      (id_of_numbered numbered present) _ _ _ []
  obtain ⟨completed, counted, good, _⟩ :=
    runScheduled_ensures (counted_begin lanes.length world) each turns
  have within : place < lanes.length :=
    @length_ended _ simulation lanes turns world ▸ (List.getElem?_eq_some_iff.mp found).1
  rw [← good place loop found, processEvents, loops_of_telling]
  exact counted place within

/-- By every schedule, lanes of whose events none fails process all their events. -/
theorem ended_of_fine (some : 0 < lanes.length)
    (fits : simulation.config.events.toNat + lanes.length ≤ UInt64.size) (turns : List Nat)
    (world : World) (fine : ∀ chronicle ∈ simulation.chronicles turns lanes world, chronicle.Fine)
    {place : Nat} {loop : Ended σ}
    (found : (simulation.ended turns lanes world)[place]? = .some loop) :
    loop.1.1 = .ok ((simulation.plan lanes).events (laneOf place)).length ∧
      loop.2.results.map Prod.fst = (simulation.plan lanes).events (laneOf place) := by
  have proceeds : (simulation.plan lanes).Fits := fits_plan some few fits
  obtain ⟨signals, _, _, pursued⟩ :=
    @pursued_ended _ simulation lanes numbered few some turns world
  have unstopped := forall_chronicles.mp
    (unstopped_of_fine numbered few some turns world fine) loop (List.mem_of_getElem? found)
  refine ⟨?_, (pursued place loop found).through unstopped⟩
  rw [(pursued place loop found).completes unstopped proceeds.not_spillsFrom, Nat.zero_add]
  rfl

/-- By every schedule, lanes of whose events none fails part the events among them. -/
theorem partition_of_fine (some : 0 < lanes.length)
    (fits : simulation.config.events.toNat + lanes.length ≤ UInt64.size) (turns : List Nat)
    (world : World) (fine : ∀ chronicle ∈ simulation.chronicles turns lanes world, chronicle.Fine) :
    Partition simulation.config.events lanes.length
      ((simulation.ended turns lanes world).map fun loop => loop.1.1)
      ((simulation.chronicles turns lanes world).map fun chronicle =>
        chronicle.results.map Prod.fst)
      world.metrics.processed
      (simulation.processEvents turns lanes world).2.2.metrics.processed := by
  have stride : (simulation.plan lanes).stride.toNat = lanes.length := toNat_stride few
  have proceeds : (simulation.plan lanes).Fits := fits_plan some few fits
  have all := @ended_of_fine _ simulation lanes numbered few some fits turns world fine
  have shares : (simulation.chronicles turns lanes world).map
      (fun chronicle => chronicle.results.map Prod.fst) = (simulation.plan lanes).shares := by
    rw [chronicles, List.map_map, Plan.shares, stride, ← length_ended turns world]
    exact map_eq_map_range fun place loop found => (all found).2
  rw [shares, ← stride]
  refine Plan.partition proceeds (stride ▸ few) ?_ fun place share found => ?_
  · rw [Plan.shares, stride, List.map_map, ← length_ended turns world]
    exact map_eq_map_range fun place loop found => (all found).1
  · obtain ⟨within, rfl⟩ := Plan.getElem?_shares.mp found
    rw [stride, ← length_ended turns world] at within
    have present := List.getElem?_eq_getElem (l := simulation.ended turns lanes world) within
    have completed := fine _ (List.mem_map_of_mem (List.mem_of_getElem? present))
    rw [count_processEvents numbered few turns world present, completed.length_completed,
      ← (all present).2, List.length_map]

end Ended

/-- By every schedule, the lanes of a run part the events among them if no event fails: each lane
processes the events of its remainder, each once and in increasing order, returns their number and is
counted with it. -/
theorem processEvents_partition (simulation : Simulation σ) {count : Nat}
    {lanes ready : List (Lane σ)} {empty start world : World}
    (built : simulation.buildLanes count 0 empty = (.ok lanes, start))
    (begun : (stageInTurn .setUp Behaviour.setUp lanes).finish start = ((.ok (), ready), world))
    (some : 0 < count) (fits : simulation.config.events.toNat + count ≤ UInt64.size)
    (turns : List Nat)
    (fine : ∀ chronicle ∈ simulation.chronicles turns ready world, chronicle.Fine) :
    Partition simulation.config.events count
      ((runScheduled LaneOperation.perform (simulation.loops ready) turns
        { world with aborting := false }).1.map Prod.fst)
      ((simulation.chronicles turns ready world).map fun chronicle =>
        chronicle.results.map Prod.fst)
      world.metrics.processed
      (simulation.processEvents turns ready world).2.2.metrics.processed := by
  obtain ⟨rfl, numbered, small⟩ := numbered_of_built built begun
  rw [loops_of_telling, List.map_map]
  exact partition_of_fine numbered small some fits turns world fine

end Simulation

/-! ## Lanes in which no event can fail -/

/-- A process that comes to a good end in whatever worlds its operations find. -/
abbrev Process.Always {α : Type} (process : Process α) (own : Nat) (good : α → Prop) : Prop :=
  Program.Ensures (S := LaneOperations) LaneOperation.perform (fun (_ : Nat → Unit) _ => True) own
    (fun result _ => good result) process ()

theorem always_any {α : Type} (process : Process α) : process.Always own fun _ => True :=
  (Program.Respects.ensures (Program.respects_any process) (fun _ _ _ _ _ => trivial) ()).mono
    fun _ _ _ => trivial

/-- A lane whose modules run, and whose requirements are met then, completes the event. -/
theorem Lane.always_runEvent {lane : Lane σ} {event seed : UInt64} {modules : List (Module σ)}
    (ran : (callInTurn .run (fun behaviour => behaviour.run event) lane.modules
      (some { event, stream := .ofEvent seed event })).Always own
        fun ended => ended.1 = .ok () ∧ ended.2.1 = modules)
    (unmet : (firstUnmet modules).Always own fun found => found = none) :
    (lane.runEvent event seed).Always own
      fun ended => ended.1 = .ok () ∧ ended.2 = { lane with modules } := by
  have closed : (Lane.closeEvent { lane with modules }).Always own
      fun result => result = .ok () := by
    apply Program.Ensures.bind unmet
    rintro _ _ rfl
    apply Program.Ensures.bind (always_any _)
    intro _ _ _
    apply Program.Ensures.bind (always_any _)
    intro _ _ _
    apply Program.Ensures.bind (always_any _)
    intro _ _ _
    rfl
  refine Program.Ensures.bind ran ?_
  rintro ⟨result, modules, context⟩ _ ⟨rfl, rfl⟩
  refine Program.Ensures.bind closed ?_
  rintro _ _ rfl
  apply Program.Ensures.bind (always_any _)
  intro _ _ _
  exact ⟨rfl, rfl⟩

/-- Lanes that complete every event, and are such lanes then. -/
def Steady (own : Nat) (fit : Lane σ → Prop) : Prop :=
  ∀ lane, fit lane → ∀ event seed, (lane.runEvent event seed).Always own fun ended =>
    ended.1 = .ok () ∧ fit ended.2

private theorem Steady.always_fine {fit : Lane σ → Prop} (steady : Steady own fit) (plan : Plan)
    {lane : Lane σ} (fits : fit lane) (event : UInt64) (processed : Nat) {past : Chronicle σ}
    (fine : past.Fine) :
    (lane.tellEvents plan event processed past).Always own fun ended => ended.2.Fine := by
  fun_induction Lane.tellEvents plan lane event processed past with
  | case1 lane event processed past early ih =>
    apply Program.Ensures.bind (always_any _)
    rintro (isAborting : Bool) _ _
    have after (milestones : Chronicle σ) (none : ∀ processed ∈ milestones.results,
        processed.2 = .ok ()) : Chronicle.Fine (past ++ milestones) := by
      rw [Chronicle.Fine, Chronicle.results, List.filterMap_append, List.forall_mem_append]
      exact ⟨fine, none⟩
    cases isAborting with
    | true => exact after [.looked true] (List.forall_mem_nil _)
    | false =>
      apply Program.Ensures.bind (Lane.ensures_tellEvent (steady lane fits event plan.seed))
      rintro ⟨⟨result, later⟩, calls⟩ _ ⟨rfl, again⟩
      have fine := after [.looked false, .processed event calls (.ok ()) later]
        (List.forall_mem_cons.mpr ⟨rfl, List.forall_mem_nil _⟩)
      by_cases onward : event < event + plan.stride
      · simp only [if_pos onward]
        exact ih (.ok ()) later calls onward again fine
      · simp only [if_neg onward]
        exact fine
  | case2 lane event processed past late => exact fine

theorem Steady.fine_chronicles {fit : Lane σ → Prop} (steady : ∀ own, Steady own fit)
    {simulation : Simulation σ} {lanes : List (Lane σ)} (fits : ∀ lane ∈ lanes, fit lane)
    (turns : List Nat) (world : World) :
    ∀ chronicle ∈ simulation.chronicles turns lanes world, chronicle.Fine := by
  have each (place : Nat) (loop : Process (Ended σ))
      (found : (simulation.telling lanes)[place]? = some loop) :
      loop.Always place fun ended => ended.2.Fine := by
    rw [Simulation.telling, List.getElem?_map, Option.map_eq_some_iff] at found
    obtain ⟨lane, present, rfl⟩ := found
    exact (steady place).always_fine _ (fits lane (List.mem_of_getElem? present)) _ _
      (List.forall_mem_nil _)
  obtain ⟨_, _, good, _⟩ := @runScheduled_ensures _ _ _ _ _ _ _ _ (fun _ => ())
    { world with aborting := false } trivial each turns
  intro chronicle listed
  obtain ⟨loop, member, rfl⟩ := List.mem_map.mp listed
  obtain ⟨place, found⟩ := List.mem_iff_getElem?.mp member
  exact good place loop found

namespace EventPartitionExample

/-- A module that counts events and wants nothing. -/
def counting : Blueprint Nat where
  name := "Counting"
  construct _ _ := return ({ run := fun _ => modify (· + 1) }, 0)

def simulation : Simulation Nat where
  config := { events := 3, workers := 2 }
  detectors := []
  blueprints := [counting]

/-- An instance of the module that counted some events. -/
def counter (number lane : Nat) (counted : Nat) : Module Nat where
  bindings := { identity := { number, name := "Counting", lane := laneOf lane } }
  behaviour := { run := fun _ => modify (· + 1) }
  state := counted

/-- Four lanes, of which the last one has no event. -/
def lanes : List (Lane Nat) :=
  (List.range 4).map fun place => { id := laneOf place, modules := [counter place place 0] }

/-- The world with the identities of the instances. -/
def start : World := { bus := { store := { next := 4 } } }

theorem built : simulation.buildLanes 4 0 {} = (.ok lanes, start) := rfl

theorem begun : (stageInTurn .setUp Behaviour.setUp lanes).finish start =
    ((.ok (), lanes), start) := rfl

theorem steady (own : Nat) : Steady own fun lane : Lane Nat =>
    ∃ number place counted, lane.modules = [counter number place counted] := by
  rintro ⟨id, modules⟩ ⟨number, place, counted, rfl⟩ event seed
  have unmet : (firstUnmet [counter number place (counted + 1)]).Always own fun found =>
      found = none :=
    fun _ world _ _ => ⟨(), trivial, rfl⟩
  have ran : (callInTurn .run (fun behaviour => behaviour.run event)
      [counter number place counted] (some { event, stream := .ofEvent seed event })).Always own
        fun ended => ended.1 = .ok () ∧ ended.2.1 = [counter number place (counted + 1)] :=
    ⟨rfl, rfl⟩
  refine (Lane.always_runEvent ran unmet).mono ?_
  rintro ended _ ⟨ok, same⟩
  exact ⟨ok, number, place, counted + 1, congrArg Lane.modules same⟩

theorem fine (turns : List Nat) :
    ∀ chronicle ∈ simulation.chronicles turns lanes start, chronicle.Fine := by
  refine Steady.fine_chronicles steady (fun lane listed => ?_) turns start
  obtain ⟨place, _, rfl⟩ := List.mem_map.mp listed
  exact ⟨place, place, 0, rfl⟩

end EventPartitionExample

open EventPartitionExample in
/-- Three events on four lanes. -/
theorem partition_of_counting :
    (∀ chronicle ∈ simulation.chronicles [1, 0, 2, 1] lanes start, chronicle.Fine) ∧
      Partition 3 4
        ((runScheduled LaneOperation.perform (simulation.loops lanes) [1, 0, 2, 1]
          { start with aborting := false }).1.map Prod.fst)
        ((simulation.chronicles [1, 0, 2, 1] lanes start).map fun chronicle =>
          chronicle.results.map Prod.fst)
        start.metrics.processed
        (simulation.processEvents [1, 0, 2, 1] lanes start).2.2.metrics.processed :=
  ⟨fine _, simulation.processEvents_partition built begun (by decide) (by decide) _ (fine _)⟩

end Beamline.Run
