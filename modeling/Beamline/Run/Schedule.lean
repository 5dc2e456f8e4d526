import Beamline.Run.Lane

/-!
Several programs that change one state. A schedule is a list of turns: at each turn the program of
that number performs its next operation. Turns of finished or unknown programs do nothing, and after
the last turn the programs run to their ends one after the other, so every schedule is complete
and every order of operations is the beginning of some schedule.
-/

namespace Beamline.Run

variable {S : Signature} {σ α : Type}
  (handler : (operation : S.Operation) → σ → S.Answer operation × σ)

def takeTurn (programs : List (Program S α)) (turn : Nat) (state : σ) : List (Program S α) × σ :=
  match programs[turn]? with
  | none => (programs, state)
  | some program =>
    let (program, state) := program.step handler state
    (programs.set turn program, state)

def interleave (programs : List (Program S α)) : List Nat → σ → List (Program S α) × σ
  | [], state => (programs, state)
  | turn :: rest, state =>
    let (programs, state) := takeTurn handler programs turn state
    interleave programs rest state

/-- Runs programs to their ends, one after the other. -/
def finishAll : List (Program S α) → σ → List α × σ
  | [], state => ([], state)
  | program :: rest, state =>
    let (result, state) := program.run handler state
    let (results, state) := finishAll rest state
    (result :: results, state)

/-- Runs programs by a schedule; the results are in the order of the programs. -/
def runScheduled (programs : List (Program S α)) (turns : List Nat) (state : σ) : List α × σ :=
  let (programs, state) := interleave handler programs turns state
  finishAll handler programs state

end Beamline.Run
