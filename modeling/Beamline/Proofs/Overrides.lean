import Beamline.Config.Environment
import Beamline.Proofs.Numerals

/-!
What the environment makes of the defaults. A variable with a whole number is taken just if it holds
a numeral of a word, whatever white space is around it; of several variables that are not taken the
first one in the order of reading is reported, with all of its text.
-/

namespace Beamline.Config

open Number (Denotes)

variable {lookup : String → Option String} {key : String} {error : ConfigError}

/-! ## One variable -/

/-- How a field follows from a variable: without the variable it keeps its default, else the text
of the variable is one for the field. -/
def Follows {α : Type} (means : String → α → Prop) (lookup : String → Option String) (key : String)
    (preset field : α) : Prop :=
  match lookup key with
  | none => field = preset
  | some text => means text field

section Override

variable {α β : Type} {read : String → Option α} {preset : α} {text : String}

theorem override_of_absent (absent : lookup key = none) :
    override lookup key read preset = .ok preset := by
  rw [override, absent]

theorem override_of_taken {value : α} (held : lookup key = some text)
    (taken : read (Text.trim text) = some value) :
    override lookup key read preset = .ok value := by
  simp only [override, held, taken]

theorem override_of_refused (held : lookup key = some text)
    (refused : read (Text.trim text) = none) :
    override lookup key read preset = .error (.invalidValue key text) := by
  simp only [override, held, refused]

theorem override_eq_ok {means : String → α → Prop} {field : α}
    (reads : ∀ text value, read (Text.trim text) = some value ↔ means text value) :
    override lookup key read preset = .ok field ↔ Follows means lookup key preset field := by
  unfold Follows
  cases held : lookup key with
  | none =>
    rw [override_of_absent held, Except.ok.injEq]
    exact eq_comm
  | some text =>
    simp only [← reads]
    cases taken : read (Text.trim text) with
    | none =>
      rw [override_of_refused held taken]
      exact ⟨nofun, nofun⟩
    | some value =>
      rw [override_of_taken held taken, Except.ok.injEq, Option.some.injEq]

private theorem override_eq_error :
    override lookup key read preset = .error error ↔ ∃ text, lookup key = some text ∧
      read (Text.trim text) = none ∧ error = .invalidValue key text := by
  constructor
  · intro failed
    cases held : lookup key with
    | none =>
      rw [override_of_absent held] at failed
      cases failed
    | some text =>
      cases taken : read (Text.trim text) with
      | none =>
        rw [override_of_refused held taken] at failed
        exact ⟨text, rfl, taken, (Except.error.inj failed).symm⟩
      | some value =>
        rw [override_of_taken held taken] at failed
        cases failed
  · rintro ⟨text, held, refused, rfl⟩
    exact override_of_refused held refused

end Override

/-! ## All variables -/

/-- A whole number as the text of a variable. -/
def Whole (text : String) (word : UInt64) : Prop :=
  Denotes text word.toNat

/-- A number that may have a fraction as the text of a variable. -/
def Fractional (text : String) (number : Float) : Prop :=
  Number.float? (Text.trim text) = some number

/-- The variables that hold numbers, in the order of reading. -/
def numeric : List String :=
  ["PIXSIM_EVENTS", "PIXSIM_WORKERS", "PIXSIM_SEED", "PIXSIM_PARTICLES", "PIXSIM_THRESHOLD"]

/-- Texts that a variable does not take. Only the threshold may have a fraction. -/
def Malformed (key text : String) : Prop :=
  if key = "PIXSIM_THRESHOLD" then ∀ number, ¬ Fractional text number
  else ∀ word, ¬ Whole text word

/-- The first of some variables with a text that it does not take. -/
inductive FirstMalformed (lookup : String → Option String) :
    List String → String → String → Prop
  | here {key text : String} {others : List String} (held : lookup key = some text)
      (malformed : Malformed key text) : FirstMalformed lookup (key :: others) key text
  | later {other key text : String} {others : List String}
      (passed : ∀ text, lookup other = some text → ¬ Malformed other text)
      (first : FirstMalformed lookup others key text) :
      FirstMalformed lookup (other :: others) key text

/-- The configuration that the environment describes, on a machine with some processors. -/
structure Described (lookup : String → Option String) (processors : UInt64) (config : Config) :
    Prop where
  events : Follows Whole lookup "PIXSIM_EVENTS" 100 config.events
  workers : Follows Whole lookup "PIXSIM_WORKERS" (max processors 1) config.workers
  seed : Follows Whole lookup "PIXSIM_SEED" 42 config.seed
  particles : Follows Whole lookup "PIXSIM_PARTICLES" 2 config.pipeline.particlesPerEvent
  threshold : Follows Fractional lookup "PIXSIM_THRESHOLD" 600 config.pipeline.threshold
  planes : config.planes = namedPlanes lookup (Plane.row ["telescope0", "dut", "telescope1"])
  deposits : config.pipeline.depositsPerParticle = 10
  pairs : config.pipeline.pairsPerMicrometre = 80
  gain : config.pipeline.gain = 10

private theorem bind_eq_ok {ε α β : Type} {first : Except ε α} {next : α → Except ε β}
    {result : β} :
    (first >>= next) = .ok result ↔ ∃ value, first = .ok value ∧ next value = .ok result := by
  cases first with
  | error failure => simp [bind, Except.bind]
  | ok value => simp [bind, Except.bind]

theorem bind_eq_error {ε α β : Type} {first : Except ε α} {next : α → Except ε β} {failure : ε} :
    (first >>= next) = .error failure ↔
      first = .error failure ∨ ∃ value, first = .ok value ∧ next value = .error failure := by
  cases first with
  | error early => simp [bind, Except.bind]
  | ok value => simp [bind, Except.bind]

theorem ofEnvironment_eq_ok {processors : UInt64} {config : Config} :
    ofEnvironment lookup processors = .ok config ↔ Described lookup processors config := by
  have whole (text : String) (word : UInt64) :
      Number.word? (Text.trim text) = some word ↔ Whole text word :=
    Number.word?_trim_eq_some_iff text word
  have fractional (text : String) (number : Float) :
      Number.float? (Text.trim text) = some number ↔ Fractional text number := Iff.rfl
  unfold ofEnvironment
  simp only [bind_eq_ok, override_eq_ok whole, override_eq_ok fractional]
  constructor
  · rintro ⟨events, first, workers, second, seed, third, particles, fourth, threshold, last, made⟩
    cases made
    exact ⟨first, second, third, fourth, last, rfl, rfl, rfl, rfl⟩
  · intro described
    refine ⟨_, described.events, _, described.workers, _, described.seed, _, described.particles,
      _, described.threshold, ?_⟩
    obtain ⟨events, workers, seed, planes, particles, deposits, pairs, threshold, gain⟩ := config
    obtain ⟨-, -, -, -, -, rfl, rfl, rfl, rfl⟩ := described
    rfl

/-- Reading goes on to the other variables just if the first one takes its text. -/
theorem override_bind_eq_error {α β : Type} {read : String → Option α} {preset : α}
    {next : α → Except ConfigError β} {others : List String}
    (refused : ∀ text, Malformed key text ↔ read (Text.trim text) = none)
    (rest : ∀ value, next value = .error error ↔
      ∃ other text, FirstMalformed lookup others other text ∧ error = .invalidValue other text) :
    (override lookup key read preset >>= next) = .error error ↔ ∃ other text,
      FirstMalformed lookup (key :: others) other text ∧ error = .invalidValue other text := by
  rw [bind_eq_error, override_eq_error]
  simp only [rest]
  constructor
  · rintro (⟨text, held, malformed, rfl⟩ | ⟨value, taken, other, text, first, rfl⟩)
    · exact ⟨key, text, .here held ((refused text).mpr malformed), rfl⟩
    · refine ⟨other, text, .later (fun own held malformed => ?_) first, rfl⟩
      rw [override_of_refused held ((refused own).mp malformed)] at taken
      cases taken
  · rintro ⟨other, text, first, rfl⟩
    cases first with
    | here held malformed => exact .inl ⟨text, held, (refused text).mp malformed, rfl⟩
    | later passed first =>
      refine .inr ?_
      cases held : lookup key with
      | none => exact ⟨preset, override_of_absent held, other, text, first, rfl⟩
      | some own =>
        obtain ⟨value, taken⟩ :=
          Option.ne_none_iff_exists'.mp (mt (refused own).mpr (passed own held))
        exact ⟨value, override_of_taken held taken, other, text, first, rfl⟩

theorem malformed_iff_of_whole (other : key ≠ "PIXSIM_THRESHOLD") (text : String) :
    Malformed key text ↔ Number.word? (Text.trim text) = none := by
  rw [Malformed, if_neg other, Option.eq_none_iff_forall_ne_some]
  simp only [ne_eq, Number.word?_trim_eq_some_iff]
  rfl

private theorem malformed_iff_of_threshold (text : String) :
    Malformed "PIXSIM_THRESHOLD" text ↔ Number.float? (Text.trim text) = none := by
  rw [Malformed, if_pos rfl, Option.eq_none_iff_forall_ne_some]
  rfl

private theorem ofEnvironment_eq_error {processors : UInt64} :
    ofEnvironment lookup processors = .error error ↔ ∃ key text,
      FirstMalformed lookup numeric key text ∧ error = .invalidValue key text := by
  unfold ofEnvironment
  refine override_bind_eq_error (malformed_iff_of_whole (by decide)) fun events => ?_
  refine override_bind_eq_error (malformed_iff_of_whole (by decide)) fun workers => ?_
  refine override_bind_eq_error (malformed_iff_of_whole (by decide)) fun seed => ?_
  refine override_bind_eq_error (malformed_iff_of_whole (by decide)) fun particles => ?_
  exact override_bind_eq_error malformed_iff_of_threshold fun threshold => ⟨nofun, nofun⟩

/-- A variable with the decimal text of a word, white space around it or not, sets the word. -/
theorem follows_iff_of_decimal {word preset field : UInt64} {before after : String}
    (left : ∀ c ∈ before.toList, Text.isBlank c = true)
    (right : ∀ c ∈ after.toList, Text.isBlank c = true)
    (held : lookup key = some (before ++ toString word.toNat ++ after)) :
    Follows Whole lookup key preset field ↔ field = word := by
  have denotes := Number.denotes_toString word.toNat left right
  unfold Follows Whole
  rw [held]
  constructor
  · intro other
    exact UInt64.toNat_inj.mp (other.unique denotes)
  · rintro rfl
    exact denotes

/-- The environment gives a configuration just if it describes it: every whole number is what the
numeral in its variable denotes, or its default without the variable. It gives an error just for the
first variable whose text is not taken, and quotes this text. The decimal text of a word denotes the
word, also with white space around it. -/
theorem ofEnvironment_reads_numerals (lookup : String → Option String) (processors : UInt64) :
    (∀ config, ofEnvironment lookup processors = .ok config ↔
      Described lookup processors config) ∧
    (∀ error, ofEnvironment lookup processors = .error error ↔ ∃ key text,
      FirstMalformed lookup numeric key text ∧ error = .invalidValue key text) ∧
    ∀ (word : UInt64) (before after : String), (∀ c ∈ before.toList, Text.isBlank c = true) →
      (∀ c ∈ after.toList, Text.isBlank c = true) → ∀ key preset field,
        lookup key = some (before ++ toString word.toNat ++ after) →
          (Follows Whole lookup key preset field ↔ field = word) :=
  ⟨fun _ => ofEnvironment_eq_ok, fun _ => ofEnvironment_eq_error,
    fun _ _ _ left right _ _ _ held => follows_iff_of_decimal left right held⟩

def seeded (text : String) (key : String) : Option String :=
  if key = "PIXSIM_SEED" then some text else none

theorem seed_of_greatest_word :
    ofEnvironment (seeded "\t18446744073709551615 ") 1 =
      .ok { seed := 18446744073709551615 } ∧
    ∀ field, Follows Whole (seeded "\t18446744073709551615 ") "PIXSIM_SEED" 42 field ↔
      field = 18446744073709551615 := by
  obtain ⟨described, -, decimal⟩ :=
    ofEnvironment_reads_numerals (seeded "\t18446744073709551615 ") 1
  have held : seeded "\t18446744073709551615 " "PIXSIM_SEED" =
      some ("\t" ++ toString (18446744073709551615 : UInt64).toNat ++ " ") := by decide
  have follows (field : UInt64) := decimal 18446744073709551615 "\t" " "
    (List.all_eq_true.mp rfl) (List.all_eq_true.mp rfl) "PIXSIM_SEED" 42 field held
  refine ⟨(described _).mpr ?_, follows⟩
  exact ⟨rfl, rfl, (follows _).mpr rfl, rfl, rfl, rfl, rfl, rfl, rfl⟩

end Beamline.Config
