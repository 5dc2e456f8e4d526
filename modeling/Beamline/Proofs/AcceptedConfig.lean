import Beamline.Proofs.Detectors
import Beamline.Proofs.Lists
import Beamline.Run.Simulation

namespace Beamline.Run

private theorem nodup_of_firstRepeated {seen names : List String}
    (once : firstRepeated seen names = none) : names.Nodup ∧ ∀ name ∈ names, name ∉ seen := by
  induction names generalizing seen with
  | nil => exact ⟨.nil, by simp⟩
  | cons name rest ih =>
    unfold firstRepeated at once
    split at once
    · cases once
    · rename_i fresh
      obtain ⟨distinct, unseen⟩ := ih once
      have other : name ∉ rest := fun again => unseen name again List.mem_cons_self
      refine ⟨List.nodup_cons.mpr ⟨other, distinct⟩, List.forall_mem_cons.mpr ⟨fresh, ?_⟩⟩
      exact fun later among known => unseen later among (List.mem_cons_of_mem _ known)

theorem forall₂_of_buildPlanes {planes : List Plane} {detectors : List Detector}
    (built : Config.buildPlanes planes = .ok detectors) :
    List.Forall₂ (fun plane detector => plane.build = .ok detector) planes detectors := by
  induction planes generalizing detectors with
  | nil =>
    cases built
    exact .nil
  | cons plane rest ih =>
    unfold Config.buildPlanes at built
    cases first : plane.build with
    | error error =>
      rw [first] at built
      cases built
    | ok detector =>
      cases later : Config.buildPlanes rest with
      | error error =>
        rw [first, later] at built
        cases built
      | ok others =>
        rw [first, later] at built
        cases built
        exact .cons first (ih later)

theorem checked_of_buildPlanes {planes : List Plane} {detectors : List Detector}
    (built : Config.buildPlanes planes = .ok detectors) :
    ∀ detector ∈ detectors, detector.Checked := by
  intro detector among
  obtain ⟨_, _, single⟩ := forall₂_of_mem_right (forall₂_of_buildPlanes built) among
  exact (Detector.build_eq_ok.mp single).2

private theorem names_of_buildPlanes {planes : List Plane} {detectors : List Detector}
    (built : Config.buildPlanes planes = .ok detectors) :
    detectors.map Detector.name = planes.map Plane.name := by
  replace built := forall₂_of_buildPlanes built
  induction built with
  | nil => rfl
  | cons first _ ih =>
    rw [List.map_cons, List.map_cons, (Detector.build_eq_ok.mp first).1, ih]

/-- What is checked of a configuration. -/
structure Valid (config : Config) : Prop where
  working : 0 < config.workers.toNat
  few : config.workers.toNat ≤ ConfigError.maxWorkers
  installed : config.planes ≠ []
  once : firstRepeated [] (config.planes.map Plane.name) = none
  tuned : config.pipeline.fault = none

theorem validate_eq_ok {config : Config} : config.validate = .ok () ↔ Valid config := by
  have idle : config.workers == 0 ↔ ¬0 < config.workers.toNat := by
    rw [beq_iff_eq, ← UInt64.toNat_inj]
    exact Nat.pos_iff_ne_zero.not_left.symm
  unfold Config.validate
  constructor
  · intro checked
    split at checked
    · cases checked
    · rename_i working
      split at checked
      · cases checked
      · rename_i few
        split at checked
        · cases checked
        · rename_i installed
          split at checked
          · cases checked
          · rename_i once
            split at checked
            · cases checked
            · rename_i tuned
              exact ⟨not_not.mp (idle.not.mp working), Nat.not_lt.mp few, by simpa using installed,
                once, tuned⟩
  · intro ⟨working, few, installed, once, tuned⟩
    rw [if_neg (idle.not.mpr (not_not.mpr working)), if_neg (Nat.not_lt.mpr few),
      if_neg (by simpa using installed), once, tuned]

theorem detectors_eq_ok {config : Config} {detectors : List Detector} :
    config.detectors = .ok detectors ↔
      Valid config ∧ Config.buildPlanes config.planes = .ok detectors := by
  unfold Config.detectors
  rw [← validate_eq_ok]
  cases config.validate with
  | error error => exact ⟨nofun, nofun⟩
  | ok =>
    cases Config.buildPlanes config.planes with
    | error error => exact ⟨nofun, nofun⟩
    | ok others =>
      refine ⟨fun built => ?_, fun ⟨_, planes⟩ => ?_⟩
      · cases built
        exact ⟨rfl, rfl⟩
      · cases planes
        rfl

theorem ofConfig_eq_ok {σ : Type} {config : Config} {simulation : Simulation σ} :
    Simulation.ofConfig config = .ok simulation ↔ Valid config ∧ ∃ detectors,
      Config.buildPlanes config.planes = .ok detectors ∧ simulation = { config, detectors } := by
  have assembled : Simulation.ofConfig config = .ok simulation ↔
      ∃ detectors, config.detectors = .ok detectors ∧ simulation = { config, detectors } := by
    unfold Simulation.ofConfig
    cases config.detectors <;> simp [eq_comm]
  rw [assembled]
  simp only [detectors_eq_ok, and_assoc, exists_and_left]

/-- A configuration that is accepted, and its detectors. -/
structure Accepted (config : Config) (detectors : List Detector) : Prop where
  working : 0 < config.workers.toNat
  few : config.workers.toNat ≤ ConfigError.maxWorkers
  installed : 0 < detectors.length
  planes : detectors.length = config.planes.length
  apart : (detectors.map Detector.name).Nodup
  checked : ∀ detector ∈ detectors, detector.Checked

theorem accepted_of_ofConfig {σ : Type} {config : Config} {simulation : Simulation σ}
    (built : Simulation.ofConfig config = .ok simulation) :
    ∃ detectors, simulation = { config, detectors } ∧ Accepted config detectors := by
  obtain ⟨valid, detectors, planes, rfl⟩ := ofConfig_eq_ok.mp built
  have names := names_of_buildPlanes planes
  have count : detectors.length = config.planes.length := by
    simpa using congrArg List.length names
  exact ⟨detectors, rfl, {
    working := valid.working
    few := valid.few
    installed := count ▸ List.length_pos_iff.mpr valid.installed
    planes := count
    apart := names ▸ (nodup_of_firstRepeated valid.once).1
    checked := checked_of_buildPlanes planes }⟩

theorem ofConfig_workers {σ : Type} {config : Config} {simulation : Simulation σ}
    (built : Simulation.ofConfig config = .ok simulation) {workers : UInt64}
    (working : 0 < workers.toNat) (few : workers.toNat ≤ ConfigError.maxWorkers) :
    Simulation.ofConfig { config with workers } =
      .ok { simulation with config := { config with workers } } := by
  obtain ⟨valid, detectors, planes, rfl⟩ := ofConfig_eq_ok.mp built
  exact ofConfig_eq_ok.mpr ⟨{ valid with working, few }, detectors, planes, rfl⟩

end Beamline.Run
