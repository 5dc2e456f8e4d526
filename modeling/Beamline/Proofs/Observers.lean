import Beamline.Demo.Monitor
import Beamline.Proofs.ChargeSums
import Beamline.Proofs.LaneWork

/-!
Observers: modules that only look. They bind slots for every message and filters, they read what
they get, and they remove or empty what is their own; they neither dispatch a message nor draw from
the random stream of an event. Apart from that their code may do as it likes, also stop early.
-/

namespace Beamline.Run

open Bus

variable {σ α β : Type} {steady : Prop} {own created : List Handle}

/-- What a module may request that has registered some delegates of its own and only observes. A
steady one makes no requirements. -/
def Request.Observes (steady : Prop) (own : List Handle) : Request → Prop
  | bindSlot kind _ flags => kind = .multi ∧ (steady → flags.required = false)
  | register binding flags => binding.slot? = none ∧ (steady → flags.required = false)
  | remove handle | resetHandle handle => handle ∈ own
  | drain slot | resetSlot slot => ∃ handle ∈ own, handle.place = .slot slot
  | bindApart .. | dispatch .. | draw _ => False
  | _ => True

/-- What comes of a registration that is suitable or not: a delegate that fits the answer, or none. -/
def Granted (suitable : Prop) (fits : Handle → α → Prop) :
    Except BusError α → List Handle → Prop
  | .ok value, created => ∃ handle, created = [handle] ∧ fits handle value
  | .error _, created => ¬suitable ∧ created = []

theorem granted_of_error {suitable : Prop} {fits : Handle → α → Prop}
    {result : Except BusError α} {error : BusError} (refused : result = .error error)
    (unsuitable : ¬suitable) : Granted suitable fits result [] := by
  subst refused
  exact ⟨unsuitable, rfl⟩

theorem granted_of_ok {suitable : Prop} {fits : Handle → α → Prop} {result : Except BusError α}
    {value : α} {handle : Handle} (accepted : result = .ok value) (fit : fits handle value) :
    Granted suitable fits result [handle] := by
  subst accepted
  exact ⟨handle, rfl, fit⟩

/-- What a module with some delegates can be answered, and the delegates that it gets in addition. -/
def Request.Grants (own : List Handle) :
    (request : Request) → request.Answer → List Handle → Prop
  | bindSlot kind payload flags, answer, created =>
    Granted (flags.incompatibility (Binding.slot (F := Filter) { number := 0, kind, payload }).kind =
        none)
      (fun handle slot => handle.place = .slot slot ∧ handle.delegate.flags = flags) answer created
  | register binding flags, answer, created =>
    Granted (flags.incompatibility binding.kind = none)
      (fun handle given => given = handle ∧ handle.delegate.flags = flags) answer created
  | handles, (answer : List Handle), created => answer ⊆ own ∧ created = []
  | _, _, created => created = []

/-- Whatever it can be answered, a program only observes, and comes to a good end with the delegates
that it has then. -/
def Program.Observes (steady : Prop) (good : α → List Handle → Prop) :
    Program Requests α → List Handle → Prop
  | done result, own => good result own
  | call request next, own => Request.Observes steady own request ∧ ∀ answer created,
      Request.Grants own request answer created →
        (next answer).Observes steady good (own ++ created)

/-- Code that only observes, from a state and some delegates on. -/
def Code.Observes (steady : Prop) (good : Except Stop α × σ → List Handle → Prop)
    (code : Code σ α) (state : σ) (own : List Handle) : Prop :=
  let program : Program Requests (Except Stop α × σ) := code state
  program.Observes steady good own

/-- How a stage of an observer may end: it goes on knowing what it has to know of its delegates, or
it stops early, which a steady one does not do. -/
def Settles (steady : Prop) (knows : σ → List Handle → Prop) (ended : Except Stop Unit × σ)
    (own : List Handle) : Prop :=
  (ended.1 = .ok () → knows ended.2 own) ∧ (steady → ended.1 = .ok ())

/-- A module that only observes until the events are processed. -/
structure Behaviour.Observes (steady : Prop) (knows : σ → List Handle → Prop)
    (behaviour : Behaviour σ) : Prop where
  setUp : ∀ state own, knows state own →
    behaviour.setUp.Observes steady (Settles steady knows) state own
  run : ∀ event state own, knows state own →
    (behaviour.run event).Observes steady (Settles steady knows) state own

def Blueprint.Observes (steady : Prop) (blueprint : Blueprint σ) : Prop :=
  ∀ surroundings detector,
    (blueprint.construct surroundings detector).Observes steady (fun ended own =>
      (∀ behaviour state, ended.1 = .ok (behaviour, state) →
        ∃ knows, knows state own ∧ behaviour.Observes steady knows) ∧
      (steady → ∃ made, ended.1 = .ok made)) () []

/-! ## Code of observers -/

namespace Code

variable {state : σ}

theorem observes_pure {good : Except Stop α × σ → List Handle → Prop} {value : α}
    (ends : good (.ok value, state) own) :
    Code.Observes steady good (pure value) state own :=
  ends

private theorem observes_plain {good : Except Stop α × σ → List Handle → Prop} {code : Code σ α}
    (plain : code.Plain) (ends : ∀ ended, good ended own) :
    Code.Observes steady good code state own := by
  obtain ⟨result, after, computes⟩ := plain state
  unfold Code.Observes
  rw [show (code state : Program Requests (Except Stop α × σ)) = _ from computes]
  exact ends (result, after)

theorem observes_ask {good : Except Stop α × σ → List Handle → Prop} {request : Request}
    {next : request.Answer → Code σ α} (permitted : request.Observes steady own)
    (further : ∀ answer created, request.Grants own answer created →
      (next answer).Observes steady good state (own ++ created)) :
    Code.Observes steady good (ask request >>= next) state own :=
  ⟨permitted, further⟩

private theorem observes_read {good : Except Stop α × σ → List Handle → Prop} {slot : Slot}
    {next : List Message → Code σ α}
    (further : ∀ messages, (next messages).Observes steady good state own) :
    Code.Observes steady good (ask (.read slot) >>= next) state own := by
  refine observes_ask trivial ?_
  rintro messages _ rfl
  rw [List.append_nil]
  exact further messages

theorem observes_bindSlot {good : Except Stop α × σ → List Handle → Prop} {payload : PayloadType}
    {flags : Flags} {next : Slot → Code σ α} (free : flags.required = false)
    (suitable : flags.incompatibility .multi = none)
    (further : ∀ slot handle, handle.place = .slot slot →
      (next slot).Observes steady good state (own ++ [handle])) :
    Code.Observes steady good (bindSlot .multi payload flags >>= next) state own := by
  have permitted : Request.Observes steady own (.bindSlot .multi payload flags) :=
    ⟨rfl, fun _ => free⟩
  refine observes_ask permitted ?_
  rintro (error | slot) created granted
  · exact absurd suitable granted.1
  · obtain ⟨handle, rfl, place, _⟩ := granted
    exact further slot handle place

theorem observes_register {good : Except Stop α × σ → List Handle → Prop}
    {binding : Binding Filter} {flags : Flags} {next : Handle → Code σ α}
    (filter : binding.slot? = none) (free : flags.required = false)
    (suitable : flags.incompatibility binding.kind = none)
    (further : ∀ handle, (next handle).Observes steady good state (own ++ [handle])) :
    Code.Observes steady good (register binding flags >>= next) state own := by
  have permitted : Request.Observes steady own (.register binding flags) :=
    ⟨filter, fun _ => free⟩
  refine observes_ask permitted ?_
  rintro (error | handle) created granted
  · exact absurd suitable granted.1
  · obtain ⟨handle, rfl, rfl, _⟩ := granted
    exact further handle

end Code

end Beamline.Run

namespace Beamline.Demo

open Bus Run

/-- The reader of deposits is an observer, but not a steady one: its sum of charge can overflow. -/
theorem Reader.observes {steady : Prop} (wild : ¬steady) : Reader.blueprint.Observes steady := by
  intro surroundings detector
  refine Code.observes_bindSlot rfl rfl fun deposits _ _ => ?_
  refine Code.observes_bindSlot rfl rfl fun _ _ _ => ?_
  refine Code.observes_pure ⟨?_, fun _ => ⟨_, rfl⟩⟩
  rintro _ _ ⟨⟩
  refine ⟨fun _ _ => True, trivial, fun _ _ _ => ?_, fun _ _ _ _ => ?_⟩
  · exact Code.observes_pure ⟨fun _ => trivial, fun _ => rfl⟩
  · refine Code.observes_read fun messages => ?_
    exact Code.observes_plain (Reader.plain_countAll messages)
      fun _ => ⟨fun _ => trivial, fun calm => absurd calm wild⟩

/-- The monitor is an observer. -/
theorem Monitor.observes (steady : Prop) (tally : Nat) :
    (Monitor.blueprint tally).Observes steady := by
  intro surroundings detector
  refine Code.observes_register rfl rfl rfl fun _ => ?_
  refine Code.observes_pure ⟨?_, fun _ => ⟨_, rfl⟩⟩
  rintro _ _ ⟨⟩
  refine ⟨fun _ _ => True, trivial, fun _ _ _ => ?_, fun _ _ _ _ => ?_⟩
  · exact Code.observes_pure ⟨fun _ => trivial, fun _ => rfl⟩
  · exact ⟨fun _ => trivial, fun _ => rfl⟩

end Beamline.Demo
