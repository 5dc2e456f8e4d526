import Beamline.Proofs.LifeTold
import Beamline.Proofs.MetricsFrame
import Beamline.Run.Meters
import Mathlib.Algebra.GroupWithZero.Nat
import Mathlib.Algebra.Order.BigOperators.Group.Finset

namespace Beamline.Telemetry

namespace Counts

variable {κ : Type} [BEq κ] [LawfulBEq κ] [Hashable κ] [LawfulHashable κ]

theorem count_increase (counts : Counts κ) (label other : κ) :
    (increase counts label).count other = Counts.count counts other + [label].count other := by
  simp only [increase, count, Std.HashMap.getD_insert, List.count_singleton]
  by_cases same : label == other
  · simp [eq_of_beq same]
  · simp [same]

/-- The counts under all labels together. -/
def total (counts : Counts κ) : Nat :=
  (counts.toList.map Prod.snd).sum

/-- The total is the sum over any labels, if none that was counted is left out. -/
theorem total_eq_sum (counts : Counts κ) (labels : Finset κ)
    (all : ∀ label ∈ counts.keys, label ∈ labels) :
    Counts.total counts = ∑ label ∈ labels, Counts.count counts label := by
  classical
  have values : counts.toList.map Prod.snd = counts.keys.map (Counts.count counts) := by
    rw [← Std.HashMap.map_fst_toList_eq_keys, List.map_map]
    refine List.map_congr_left fun entry member => ?_
    have found := Std.HashMap.mem_toList_iff_getElem?_eq_some.mp member
    simp [Counts.count, Std.HashMap.getD_eq_getD_getElem?, found]
  rw [Counts.total, values, ← List.sum_toFinset _ Std.HashMap.nodup_keys]
  refine Finset.sum_subset (fun label member => all label (List.mem_toFinset.mp member)) ?_
  intro label _ outside
  rw [List.mem_toFinset, Std.HashMap.mem_keys] at outside
  exact Std.HashMap.getD_eq_fallback outside

theorem total_of_count {before after : Counts κ} {added : List κ}
    (grown : ∀ label, Counts.count after label = Counts.count before label + added.count label) :
    Counts.total after = Counts.total before + added.length := by
  classical
  let labels : Finset κ := (after.keys ++ before.keys ++ added).toFinset
  have within (label : κ) (member : label ∈ after.keys ++ before.keys ++ added) :
      label ∈ labels := List.mem_toFinset.mpr member
  have among : ∑ label ∈ labels, added.count label = added.length := by
    have same : ‹BEq κ› = instBEqOfDecidableEq := lawful_beq_subsingleton _ _
    subst same
    have counted := @Multiset.sum_count_eq_card κ _ labels added fun label member =>
      within label (List.mem_append_right _ (Multiset.mem_coe.mp member))
    simpa using counted
  rw [total_eq_sum after labels fun label member => within label (by simp [member]),
    total_eq_sum before labels fun label member => within label (by simp [member]),
    Finset.sum_congr rfl fun label _ => grown label, Finset.sum_add_distrib, among]

end Counts

end Beamline.Telemetry

namespace Beamline.Run

open Telemetry

def Grown (before : Metrics) (added : List Meter) (after : Metrics) : Prop :=
  ∀ meter, after.reading meter = before.reading meter + added.count meter

theorem Grown.refl (metrics : Metrics) : Grown metrics [] metrics :=
  fun _ => rfl

theorem Grown.trans {before middle after : Metrics} {added more : List Meter}
    (first : Grown before added middle) (second : Grown middle more after) :
    Grown before (added ++ more) after := by
  intro meter
  rw [second, first, List.count_append, Nat.add_assoc]

/-- What an operation adds to the counts. -/
def LaneOperation.meters : LaneOperation → List Meter
  | .countEvent lane => [.processed lane]
  | .timeEvent => [.timed]
  | .countError name kind => [.failed (name, kind)]
  | _ => []

private theorem LaneOperation.grown_perform (operation : LaneOperation) (world : World) :
    Grown world.metrics operation.meters (operation.perform world).2.metrics := by
  intro meter
  cases operation with
  | request scope wanted =>
    have same : (wanted.perform scope world).2.metrics = world.metrics := by simp
    exact congrArg (fun metrics => Metrics.reading metrics meter) same
  | countEvent lane =>
    cases meter with
    | processed other =>
      refine (Counts.count_increase _ _ _).trans ?_
      simp [LaneOperation.meters, Metrics.reading, List.count_singleton]
    | timed => simp [LaneOperation.meters, Metrics.reading, perform, Metrics.countEvent]
    | failed label => simp [LaneOperation.meters, Metrics.reading, perform, Metrics.countEvent]
  | timeEvent =>
    cases meter <;> simp [LaneOperation.meters, Metrics.reading, perform, Metrics.timeEvent]
  | countError name kind =>
    cases meter with
    | failed other =>
      refine (Counts.count_increase _ _ _).trans ?_
      simp [LaneOperation.meters, Metrics.reading, List.count_singleton]
    | timed => simp [LaneOperation.meters, Metrics.reading, perform, Metrics.countError]
    | processed label => simp [LaneOperation.meters, Metrics.reading, perform, Metrics.countError]
  | _ => rfl

/-- Each of `count` lanes added something to the counts. -/
def Metered (count : Nat) (before : Metrics) (added : Nat → List Meter) (world : World) : Prop :=
  ∀ meter, world.metrics.reading meter =
    before.reading meter + ∑ place ∈ Finset.range count, (added place).count meter

theorem Metered.grown {count : Nat} {before : Metrics} {added : Nat → List Meter} {world : World}
    (metered : Metered count before added world) :
    Grown before ((List.range count).flatMap added) world.metrics := by
  intro meter
  rw [metered, List.count_flatMap]
  rfl

theorem Metered.update {count own : Nat} {before : Metrics} {added : Nat → List Meter}
    {world later : World} (metered : Metered count before added world) (within : own < count)
    {more : List Meter} (grown : Grown world.metrics more later.metrics) :
    Metered count before (Function.update added own (added own ++ more)) later := by
  intro meter
  have listed := Finset.mem_range.mpr within
  have counts : (fun place => (Function.update added own (added own ++ more) place).count meter) =
      Function.update (fun place => (added place).count meter) own
        ((added own).count meter + more.count meter) := by
    rw [← List.count_append]
    exact Function.comp_update (fun meters : List Meter => meters.count meter) added own _
  rw [grown, metered, counts, Finset.sum_update_of_mem listed,
    Finset.sum_eq_add_sum_sdiff_singleton_of_mem listed]
  omega

/-- A process that comes to a good end, which tells what it added to the counts. -/
def Process.Adds {α : Type} (process : Process α) (good : α → List Meter → Prop) : Prop :=
  ∀ (count own : Nat) (before : Metrics) (added : List Meter), own < count →
    Program.Ensures (S := LaneOperations) LaneOperation.perform (Metered count before) own
      (fun result last => ∃ more, last = added ++ more ∧ good result more) process added

namespace Process

variable {α β : Type}

theorem adds_done {result : α} {good : α → List Meter → Prop} (holds : good result []) :
    Process.Adds (.done result) good :=
  fun _ _ _ added _ => ⟨[], (List.append_nil added).symm, holds⟩

theorem Adds.bind {process : Process α} {next : α → Process β} {good : α → List Meter → Prop}
    {better : β → List Meter → Prop} (first : process.Adds good)
    (second : ∀ result more, good result more →
      (next result).Adds fun last later => better last (more ++ later)) :
    Process.Adds (process.bind next) better := by
  intro count own before added within
  refine Program.Ensures.bind (first count own before added within) fun result _ ended => ?_
  obtain ⟨more, rfl, holds⟩ := ended
  have further := second result more holds count own before (added ++ more) within
  refine further.mono fun last _ ended => ?_
  obtain ⟨later, rfl, holds⟩ := ended
  exact ⟨more ++ later, List.append_assoc _ _ _, holds⟩

theorem Adds.mono {process : Process α} {good better : α → List Meter → Prop}
    (adds : process.Adds good)
    (weaker : ∀ result more, good result more → better result more) : process.Adds better := by
  intro count own before added within
  refine (adds count own before added within).mono fun result _ ended => ?_
  obtain ⟨more, same, holds⟩ := ended
  exact ⟨more, same, weaker result more holds⟩

/-- One operation, answered in some world. -/
theorem adds_ask (operation : LaneOperation) : (Process.ask operation).Adds fun answer more =>
    more = operation.meters ∧ ∃ world, answer = (operation.perform world).1 := by
  intro count own before added within
  refine Program.ensures_ask (S := LaneOperations) fun views world metered seen => ?_
  subst seen
  exact ⟨_, metered.update within (operation.grown_perform world), _, rfl, rfl, world, rfl⟩

/-- A process that nobody interrupts. -/
theorem Adds.finish {process : Process α} {good : α → List Meter → Prop}
    (adds : process.Adds good) (world : World) : ∃ more, good (process.finish world).1 more ∧
      Grown world.metrics more (process.finish world).2.metrics := by
  have begun : Metered 1 world.metrics (fun _ => []) world := fun meter => by simp
  obtain ⟨last, metered, more, same, holds⟩ :=
    Program.Ensures.run (adds 1 0 world.metrics [] Nat.zero_lt_one) begun
  refine ⟨more, holds, ?_⟩
  have grown := Metered.grown metered
  rwa [List.range_one, List.flatMap_singleton, Function.update_self, same, List.nil_append] at grown

end Process

theorem runScheduled_adds {α : Type} {processes : List (Process α)}
    {good : Nat → α → List Meter → Prop}
    (each : ∀ place (process : Process α), processes[place]? = some process →
      process.Adds (good place))
    (turns : List Nat) (world : World) :
    let ran := runScheduled LaneOperation.perform processes turns world
    ∃ added : Nat → List Meter,
      (∀ place result, ran.1[place]? = some result → good place result (added place)) ∧
        Grown world.metrics ((List.range processes.length).flatMap added) ran.2.metrics := by
  have begun : Metered processes.length world.metrics (fun _ => []) world := fun meter => by simp
  obtain ⟨last, metered, ends, _⟩ := runScheduled_ensures begun (fun place process found =>
    each place process found _ _ _ [] (List.getElem?_eq_some_iff.mp found).1) turns
  refine ⟨last, fun place result found => ?_, Metered.grown metered⟩
  obtain ⟨more, same, holds⟩ := ends place result found
  rw [same]
  exact holds

end Beamline.Run
