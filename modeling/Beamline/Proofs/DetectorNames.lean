import Beamline.Proofs.AcceptedConfig
import Beamline.Proofs.NameLists
import Beamline.Proofs.Overrides

/-!
The detector planes of an environment. The list of names in its variable gives a standard plane for
each name that it spells out, in order. Such planes can all be built, so that a configuration from
the environment is refused for its numbers or for the choice of its names, never for its geometry.
-/

namespace Beamline

/-! ## Planes in a row -/

/-- One standard plane for each name, in order, with their distance between them. -/
structure Lined (names : List String) (planes : List Plane) : Prop where
  length_eq : planes.length = names.length
  plane : ∀ (index : Nat) (name : String), names[index]? = some name → planes[index]? = some
    { name, model := "timepix", pixels := (256, 256), pitch := (0.055, 0.055), thickness := 0.3,
      z := Float.ofNat index * 20 }

private theorem Plane.lined_row (names : List String) : Lined names (Plane.row names) where
  length_eq := List.length_mapIdx
  plane index name among := by
    rw [Plane.row, List.getElem?_mapIdx, among]
    rfl

theorem Plane.mem_row {names : List String} {plane : Plane} (among : plane ∈ Plane.row names) :
    ∃ name ∈ names, ∃ index, plane = Plane.standard name index := by
  obtain ⟨index, before, rfl⟩ := List.mem_mapIdx.mp among
  exact ⟨names[index], List.getElem_mem before, index, rfl⟩

private theorem Plane.exists_build_standard {name : String} (filled : name ≠ "") (index : Nat) :
    ∃ detector, (Plane.standard name index).build = .ok detector := by
  have columns : (0 : UInt32) < 256 := by decide
  have wide : ¬ (0.055 : Float) ≤ 0 := by decide
  have thick : ¬ (0.3 : Float) ≤ 0 := by decide
  exact ⟨_, Detector.build_eq_ok.mpr ⟨rfl, filled, columns, columns, wide, wide, thick⟩⟩

namespace Config

private theorem exists_buildPlanes {planes : List Plane}
    (each : ∀ plane ∈ planes, ∃ detector, plane.build = .ok detector) :
    ∃ detectors, buildPlanes planes = .ok detectors := by
  induction planes with
  | nil => exact ⟨[], rfl⟩
  | cons plane rest ih =>
    obtain ⟨⟨detector, built⟩, later⟩ := List.forall_mem_cons.mp each
    obtain ⟨others, remaining⟩ := ih later
    refine ⟨detector :: others, ?_⟩
    rw [buildPlanes, built, remaining]
    rfl

/-! ## Refusals -/

/-- The first name in a list that repeats an earlier one. -/
def FirstRepeat (name : String) (names : List String) : Prop :=
  ∃ before after, names = before ++ name :: after ∧ before.Nodup ∧ name ∈ before

private theorem firstRepeat_of_firstRepeated {seen names : List String} {name : String}
    (found : firstRepeated seen names = some name) (once : seen.Nodup) :
    ∃ before after, names = before ++ name :: after ∧ (before ++ seen).Nodup ∧
      name ∈ before ++ seen := by
  induction names generalizing seen with
  | nil => cases found
  | cons first rest ih =>
    unfold firstRepeated at found
    split at found
    · rename_i known
      cases found
      exact ⟨[], rest, rfl, once, known⟩
    · rename_i fresh
      obtain ⟨before, after, rfl, distinct, among⟩ :=
        ih found (List.nodup_cons.mpr ⟨fresh, once⟩)
      have moved : (before ++ first :: seen).Perm (first :: before ++ seen) := List.perm_middle
      exact ⟨first :: before, after, rfl, moved.nodup_iff.mp distinct, moved.mem_iff.mp among⟩

/-- Why a configuration is refused that comes from the environment. -/
inductive Refusal (config : Config) : ConfigError → Prop
  | noWorkers (idle : config.workers = 0) : Refusal config .noWorkers
  | tooManyWorkers (many : 65535 < config.workers.toNat) :
      Refusal config (.tooManyWorkers config.workers.toNat)
  | noDetectors (empty : config.planes = []) : Refusal config .noDetectors
  | duplicateDetector {name : String} (first : FirstRepeat name (config.planes.map Plane.name)) :
      Refusal config (.geometry (.duplicateDetector name))
  | thresholdNegative (negative : ¬ 0 ≤ config.pipeline.threshold) :
      Refusal config (.invalidParameter .thresholdNegative)

variable {config : Config} {error : ConfigError}

private theorem firstRepeat_of_duplicate {names : List String} {name : String}
    (found : firstRepeated [] names = some name) : FirstRepeat name names := by
  obtain ⟨before, after, same, distinct, among⟩ := firstRepeat_of_firstRepeated found .nil
  rw [List.append_nil] at distinct among
  exact ⟨before, after, same, distinct, among⟩

/-- Of the parameters only the threshold comes from the environment, the others are positive. -/
theorem fault_eq_of_described {lookup : String → Option String} {processors : UInt64}
    {fault : ParameterFault} (described : Described lookup processors config)
    (found : config.pipeline.fault = some fault) :
    fault = .thresholdNegative ∧ ¬ 0 ≤ config.pipeline.threshold := by
  have deposits : ¬ ((10 : UInt64) == 0) = true := by decide
  have pairs : ¬ (!decide ((80 : Float) > 0)) = true := by decide
  unfold Pipeline.fault at found
  rw [described.deposits, described.pairs, described.gain, if_neg deposits, if_neg pairs] at found
  split at found
  · rename_i negative
    cases found
    simp only [ge_iff_le, Bool.not_eq_true', decide_eq_false_iff_not] at negative
    exact ⟨rfl, negative⟩
  · cases found

private theorem refusal_of_validate {lookup : String → Option String} {processors : UInt64}
    (described : Described lookup processors config) (refused : config.validate = .error error) :
    Refusal config error := by
  unfold Config.validate at refused
  split at refused
  · rename_i idle
    cases refused
    exact .noWorkers (beq_iff_eq.mp idle)
  split at refused
  · rename_i many
    cases refused
    exact .tooManyWorkers many
  split at refused
  · rename_i empty
    cases refused
    exact .noDetectors (List.isEmpty_iff.mp empty)
  split at refused
  · rename_i name repeated
    cases refused
    exact .duplicateDetector (firstRepeat_of_duplicate repeated)
  split at refused
  · rename_i fault found
    cases refused
    obtain ⟨rfl, negative⟩ := fault_eq_of_described described found
    exact .thresholdNegative negative
  · cases refused

/-! ## The variable with the names -/

/-- An environment without one of its variables. -/
def unset (key : String) (lookup : String → Option String) (other : String) : Option String :=
  if other = key then none else lookup other

theorem override_unset {α : Type} {lookup : String → Option String} {key other : String}
    {read : String → Option α} {preset : α} (different : other ≠ key) :
    override (unset key lookup) other read preset = override lookup other read preset := by
  simp only [override, unset, if_neg different]

theorem map_bind {ε α β γ : Type} (first : Except ε α) (next : α → Except ε β) (change : β → γ) :
    (first >>= next).map change = first >>= fun value => (next value).map change := by
  cases first with
  | error failure => rfl
  | ok value => rfl

private theorem ofEnvironment_of_listed {lookup : String → Option String} {list : String}
    (listed : lookup "PIXSIM_DETECTORS" = some list) (processors : UInt64) :
    ofEnvironment lookup processors =
      (ofEnvironment (unset "PIXSIM_DETECTORS" lookup) processors).map fun config =>
        { config with planes := Plane.row (Text.names list) } := by
  have planes (preset : List Plane) : namedPlanes lookup preset = Plane.row (Text.names list) := by
    rw [namedPlanes, listed]
  unfold ofEnvironment
  simp only [map_bind, override_unset (show "PIXSIM_EVENTS" ≠ "PIXSIM_DETECTORS" by decide),
    override_unset (show "PIXSIM_WORKERS" ≠ "PIXSIM_DETECTORS" by decide),
    override_unset (show "PIXSIM_SEED" ≠ "PIXSIM_DETECTORS" by decide),
    override_unset (show "PIXSIM_PARTICLES" ≠ "PIXSIM_DETECTORS" by decide),
    override_unset (show "PIXSIM_THRESHOLD" ≠ "PIXSIM_DETECTORS" by decide), planes]
  rfl

private theorem name_of_standard :
    ∀ name ∈ ["telescope0", "dut", "telescope1"], Text.Name name := by
  have spelled : Text.names "telescope0,dut,telescope1" = ["telescope0", "dut", "telescope1"] := by
    decide
  intro name among
  exact Text.name_of_mem_names (spelled ▸ among)

private theorem names_of_described {lookup : String → Option String} {processors : UInt64}
    (described : Described lookup processors config) :
    ∃ names, (∀ name ∈ names, Text.Name name) ∧ config.planes = Plane.row names := by
  rw [described.planes, namedPlanes]
  cases lookup "PIXSIM_DETECTORS" with
  | none => exact ⟨_, name_of_standard, rfl⟩
  | some list => exact ⟨_, fun _ => Text.name_of_mem_names, rfl⟩

/-- The variable with the detectors' names gives one standard plane for each name that it spells
out, in order; it makes no difference to the rest of the configuration. Whatever it holds, the
detectors have names without commas and without white space at their ends, and a configuration from
the environment is only refused for its number of workers, for having no detectors, for the first
name that repeats an earlier one, or for its threshold. -/
theorem ofEnvironment_lines_up (lookup : String → Option String) (processors : UInt64) :
    (∀ names pieces, (∀ name ∈ names, Text.Name name) → Text.Spells names pieces →
      lookup "PIXSIM_DETECTORS" = some (",".intercalate pieces) → ∃ planes, Lined names planes ∧
        ofEnvironment lookup processors =
          (ofEnvironment (unset "PIXSIM_DETECTORS" lookup) processors).map fun config =>
            { config with planes }) ∧
    ∀ config, ofEnvironment lookup processors = .ok config →
      (∀ plane ∈ config.planes, Text.Name plane.name) ∧
      ∀ error, config.detectors = .error error → Refusal config error := by
  constructor
  · intro names pieces proper spells listed
    have read : Text.names (",".intercalate pieces) = names :=
      Text.names_eq_iff.mpr ⟨proper, pieces, rfl, spells⟩
    have settled := ofEnvironment_of_listed listed processors
    rw [read] at settled
    exact ⟨Plane.row names, Plane.lined_row names, settled⟩
  · intro config given
    have described := ofEnvironment_eq_ok.mp given
    obtain ⟨names, proper, planes⟩ := names_of_described described
    have named : ∀ plane ∈ config.planes, Text.Name plane.name := by
      intro plane among
      obtain ⟨name, listed, index, rfl⟩ := Plane.mem_row (planes ▸ among)
      exact proper name listed
    refine ⟨named, fun error refused => ?_⟩
    have each : ∀ plane ∈ config.planes, ∃ detector, plane.build = .ok detector := by
      intro plane among
      obtain ⟨name, listed, index, rfl⟩ := Plane.mem_row (planes ▸ among)
      exact Plane.exists_build_standard (proper name listed).filled index
    obtain ⟨detectors, built⟩ := exists_buildPlanes each
    rcases bind_eq_error.mp refused with invalid | ⟨_, _, unbuilt⟩
    · exact refusal_of_validate described invalid
    · rw [built] at unbuilt
      cases unbuilt

/-- An environment with a list of names alone. -/
def listing (list : String) (key : String) : Option String :=
  if key = "PIXSIM_DETECTORS" then some list else none

theorem lined_up_padded_names :
    let lookup := listing " a,, b\t,a "
    let config : Config := { planes := Plane.row ["a", "b", "a"] }
    (∃ planes, Lined ["a", "b", "a"] planes ∧ ofEnvironment lookup 1 = .ok { planes }) ∧
    ofEnvironment lookup 1 = .ok config ∧ (∀ plane ∈ config.planes, Text.Name plane.name) ∧
    config.detectors = .error (.geometry (.duplicateDetector "a")) ∧
    Refusal config (.geometry (.duplicateDetector "a")) := by
  intro lookup config
  obtain ⟨lines, refusals⟩ := ofEnvironment_lines_up lookup 1
  have proper : ∀ name ∈ ["a", "b", "a"], Text.Name name := by
    have spelled : Text.names "a,b,a" = ["a", "b", "a"] := by decide
    intro name among
    exact Text.name_of_mem_names (spelled ▸ among)
  have spells : Text.Spells ["a", "b", "a"] [" a", "", " b\t", "a "] := by
    have blank : ∀ c ∈ " ".toList, Text.isBlank c = true := List.all_eq_true.mp rfl
    have tab : ∀ c ∈ "\t".toList, Text.isBlank c = true := List.all_eq_true.mp rfl
    have nothing : ∀ c ∈ "".toList, Text.isBlank c = true := List.all_eq_true.mp rfl
    exact .name blank nothing (.blank nothing (.name blank tab (.name nothing blank .nil)))
  have listed : lookup "PIXSIM_DETECTORS" = some (",".intercalate [" a", "", " b\t", "a "]) := by
    decide
  have plain : ofEnvironment (unset "PIXSIM_DETECTORS" lookup) 1 = .ok {} := rfl
  obtain ⟨planes, lined, settled⟩ := lines _ _ proper spells listed
  rw [plain] at settled
  have given : ofEnvironment lookup 1 = .ok config := rfl
  obtain ⟨named, refused⟩ := refusals config given
  have repeated : config.detectors = .error (.geometry (.duplicateDetector "a")) := rfl
  exact ⟨⟨planes, lined, settled⟩, given, named, repeated, refused _ repeated⟩

end Config

end Beamline
