import Beamline.Run.Module

namespace Beamline.Run

variable {σ α β : Type}

theorem Code.bind_apply (code : Code σ α) (next : α → Code σ β) (state : σ) :
    ((code >>= next) state : Program Requests (Except Stop β × σ)) =
      Program.bind (code state) fun ended => ExceptT.bindCont next ended.1 ended.2 := rfl

/-- From a state, code comes to a result without a request, and leaves another state. -/
def Code.Computes (code : Code σ α) (state : σ) (result : Except Stop α) (after : σ) : Prop :=
  (code state : Program Requests (Except Stop α × σ)) = .done (result, after)

namespace Code

variable {state middle after : σ} {code : Code σ α} {next : α → Code σ β} {value : α}

theorem computes_pure (value : α) (state : σ) :
    Computes (pure value : Code σ α) state (.ok value) state := rfl

theorem computes_get (state : σ) : Computes (get : Code σ σ) state (.ok state) state := rfl

theorem computes_modify (change : σ → σ) (state : σ) :
    Computes (modify change : Code σ Unit) state (.ok ()) (change state) := rfl

theorem computes_orFault_of_ok {checked : Except Fault α} (fine : checked = .ok value)
    (state : σ) : Computes (orFault checked : Code σ α) state (.ok value) state := by
  subst fine
  rfl

theorem computes_orFault_of_error {checked : Except Fault α} {fault : Fault}
    (failed : checked = .error fault) (state : σ) :
    Computes (orFault checked : Code σ α) state (.error (.fault fault)) state := by
  subst failed
  rfl

theorem Computes.bind {result : Except Stop β} (first : code.Computes state (.ok value) middle)
    (second : (next value).Computes middle result after) :
    (code >>= next).Computes state result after := by
  unfold Computes at first second ⊢
  rw [bind_apply, first]
  exact second

theorem Computes.bind_of_error {stop : Stop} (first : code.Computes state (.error stop) after) :
    (code >>= next).Computes state (.error stop) after := by
  unfold Computes at first ⊢
  rw [bind_apply, first]
  rfl

/-- Code that makes no requests, whatever the state is. -/
def Plain (code : Code σ α) : Prop :=
  ∀ state, ∃ result after, code.Computes state result after

private theorem plain_pure (value : α) : (pure value : Code σ α).Plain :=
  fun state => ⟨_, _, computes_pure value state⟩

theorem plain_get : (get : Code σ σ).Plain :=
  fun state => ⟨_, _, computes_get state⟩

theorem plain_modify (change : σ → σ) : (modify change : Code σ Unit).Plain :=
  fun state => ⟨_, _, computes_modify change state⟩

theorem plain_orFault (checked : Except Fault α) : (orFault checked : Code σ α).Plain := by
  intro state
  cases fine : checked with
  | ok value => exact ⟨_, _, computes_orFault_of_ok rfl state⟩
  | error fault => exact ⟨_, _, computes_orFault_of_error rfl state⟩

theorem Plain.bind (first : code.Plain) (second : ∀ value, (next value).Plain) :
    (code >>= next).Plain := by
  intro state
  obtain ⟨stop | value, middle, computes⟩ := first state
  · exact ⟨_, _, computes.bind_of_error⟩
  · obtain ⟨result, after, rest⟩ := second value middle
    exact ⟨_, _, computes.bind rest⟩

theorem plain_forM {f : α → Code σ Unit} (each : ∀ value, (f value).Plain) (values : List α) :
    (values.forM f).Plain := by
  induction values with
  | nil => exact plain_pure ()
  | cons value rest ih => exact (each value).bind fun _ => ih

end Code

end Beamline.Run
