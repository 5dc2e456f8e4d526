import Beamline.Proofs.Chronicles

namespace Beamline.Run

variable {σ α : Type}

/-- A result that does not come from finding the flag raised. -/
def Own (result : Except Stop α) : Prop :=
  ∀ lane, result ≠ .error (.error (.aborted lane))

def ByItself (error : RunError) : Prop :=
  ∀ lane, error ≠ .aborted lane

/-- An operation that leaves the flag alone. -/
def LaneOperation.LeavesFlag (operation : LaneOperation) : Prop :=
  operation ≠ .abort

theorem Request.aborting_perform (request : Request) (scope : Scope) (world : World) :
    (request.perform scope world).2.aborting = world.aborting := by
  cases request <;> rfl

theorem LaneOperation.aborting_perform {operation : LaneOperation}
    (leaves : operation.LeavesFlag) (world : World) :
    (operation.perform world).2.aborting = world.aborting := by
  cases operation with
  | abort => exact absurd rfl leaves
  | request scope wanted => exact wanted.aborting_perform scope world
  | _ => rfl

/-- A process that leaves the flag alone. -/
abbrev Process.LeavesFlag (process : Process α) (good : α → Prop) : Prop :=
  Program.Respects (S := LaneOperations) LaneOperation.LeavesFlag good process

theorem leavesFlag_ask (operation : LaneOperation) (leaves : operation.LeavesFlag) :
    (Process.ask operation).LeavesFlag fun _ => True :=
  Program.respects_ask (S := LaneOperations) leaves

theorem Module.leavesFlag_ask (module : Module σ) (request : Request) :
    (module.ask request).LeavesFlag fun _ => True :=
  (Run.leavesFlag_ask (.request { bindings := module.bindings } request) nofun).bind
    fun _ _ => trivial

theorem ByItself.inModule {error : RunError} (own : ByItself error) (name : String)
    (stage : Stage) : ByItself (error.inModule name stage) := by
  cases error with
  | aborted lane => exact absurd rfl (own lane)
  | _ => exact fun _ => nofun

/-- What a lane has to do with the flag. -/
inductive Signal
  /-- It neither raised the flag nor found it raised. -/
  | none
  /-- It raised the flag after an event of its own failed. -/
  | raised
  /-- It found the flag raised. -/
  | noticed
  deriving DecidableEq

/-- The flag is raised where one of `count` lanes raised it. -/
structure Signalled (count : Nat) (signals : Nat → Signal) (world : World) : Prop where
  lasting : ∀ place, signals place = .noticed → world.aborting = true
  raised : world.aborting = true → ∃ place < count, signals place = .raised

namespace Signalled

variable {count own : Nat} {signals : Nat → Signal} {world : World}

theorem leave (signalled : Signalled count signals world) {operation : LaneOperation}
    (leaves : operation.LeavesFlag) : Signalled count signals (operation.perform world).2 := by
  have same := operation.aborting_perform leaves world
  constructor
  · intro place noticed
    exact same.trans (signalled.lasting place noticed)
  · intro aborting
    exact signalled.raised (same.symm.trans aborting)

theorem notice (signalled : Signalled count signals world) (quiet : signals own = .none)
    (aborting : world.aborting = true) :
    Signalled count (Function.update signals own .noticed) world := by
  obtain ⟨place, within, raised⟩ := signalled.raised aborting
  refine ⟨fun _ _ => aborting, fun _ => ⟨place, within, ?_⟩⟩
  have other : place ≠ own := by
    rintro rfl
    exact absurd (raised.symm.trans quiet) nofun
  rwa [Function.update_of_ne other]

theorem raise (within : own < count) :
    Signalled count (Function.update signals own .raised) { world with aborting := true } :=
  ⟨fun _ _ => rfl, fun _ => ⟨own, within, Function.update_self _ _ _⟩⟩

end Signalled

theorem signalled_begin (count : Nat) (world : World) :
    Signalled count (fun _ => .none) { world with aborting := false } :=
  ⟨fun _ => nofun, nofun⟩

end Beamline.Run
