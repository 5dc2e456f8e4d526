namespace Beamline.Run

/-- Operations and the types of their answers. -/
structure Signature where
  Operation : Type
  Answer : Operation → Type

/-- A program over a signature that ends with a result. -/
inductive Program (S : Signature) (α : Type) : Type
  | done (result : α)
  | call (operation : S.Operation) (next : S.Answer operation → Program S α)

namespace Program

variable {S T : Signature} {α β : Type}

/-- One program and then another that may depend on the first one's result. -/
def bind : Program S α → (α → Program S β) → Program S β
  | done result, next => next result
  | call operation rest, next => call operation fun answer => (rest answer).bind next

instance : Monad (Program S) where
  pure := done
  bind := bind

/-- The program that asks for one operation and returns its answer. -/
def ask (operation : S.Operation) : Program S (S.Answer operation) :=
  call operation done

/-- Runs a program to its end, each operation changing a state. -/
def run {σ : Type} (handler : (operation : S.Operation) → σ → S.Answer operation × σ) :
    Program S α → σ → α × σ
  | done result, state => (result, state)
  | call operation next, state =>
    let (answer, state) := handler operation state
    (next answer).run handler state

/-- Answers the first operation of a program; a finished one stays as it is. -/
def step {σ : Type} (handler : (operation : S.Operation) → σ → S.Answer operation × σ) :
    Program S α → σ → Program S α × σ
  | done result, state => (done result, state)
  | call operation next, state =>
    let (answer, state) := handler operation state
    (next answer, state)

/-- Runs a program inside one over another signature, which keeps a state for it. -/
def within {σ : Type}
    (interpret : (operation : S.Operation) → σ → Program T (S.Answer operation × σ)) :
    Program S α → σ → Program T (α × σ)
  | done result, state => done (result, state)
  | call operation next, state =>
    (interpret operation state).bind fun (answer, state) => (next answer).within interpret state

end Program

end Beamline.Run
