import Beamline.Proofs.CodeOutcome
import Beamline.Proofs.DemoAccounts

/-!
The generator's messages. Each deposit belongs to one step of one particle of its detector, in
order, and takes one random number; the messages are offered in a fixed order, and what is in them
does not depend on who receives them.
-/

namespace Beamline.Demo.Generator

open Bus Run

/-! ## One draw for each member of a list -/

section Draws

variable {α β γ : Type}

private theorem mapM_flatMap {m : Type → Type} [Monad m] [LawfulMonad m] (values : List α)
    (inner : α → List β) (f : β → m γ) :
    (do return (← values.mapM fun value => (inner value).mapM f).flatten) =
      (values.flatMap inner).mapM f := by
  induction values with
  | nil => simp
  | cons value rest ih =>
    rw [List.flatMap_cons, List.mapM_append, ← ih]
    simp

def drawMany (drawn : StateM Random.Stream β) (count : Nat) : StateM Random.Stream (List β) :=
  (List.replicate count ()).mapM fun _ => drawn

private theorem mapM_draw (drawn : StateM Random.Stream β) (make : α → β → γ) (values : List α)
    (stream : Random.Stream) :
    (values.mapM fun value => do return make value (← drawn)) stream =
      (List.zipWith make values (drawMany drawn values.length stream).1,
        (drawMany drawn values.length stream).2) := by
  induction values generalizing stream with
  | nil => rfl
  | cons value rest ih =>
    have first : drawMany drawn (rest.length + 1) stream =
        ((drawn stream).1 :: (drawMany drawn rest.length (drawn stream).2).1,
          (drawMany drawn rest.length (drawn stream).2).2) := by
      rw [drawMany, List.replicate_succ, List.mapM_cons]
      rfl
    rw [List.mapM_cons, List.length_cons, first]
    exact congrArg (fun later : List γ × Random.Stream =>
      (make value (drawn stream).1 :: later.1, later.2)) (ih (drawn stream).2)

/-- The steps of a nested loop: the outer member and the inner number. -/
def stepsOf (values : List α) (steps : Nat) : List (α × Nat) :=
  values.flatMap fun value => (List.range steps).map fun step => (value, step)

private theorem length_stepsOf (values : List α) (steps : Nat) :
    (stepsOf values steps).length = values.length * steps := by
  induction values with
  | nil => rw [List.length_nil, Nat.zero_mul]; rfl
  | cons value rest ih =>
    rw [stepsOf, List.flatMap_cons, List.length_append, List.length_map, List.length_range,
      List.length_cons, Nat.succ_mul, Nat.add_comm]
    exact congrArg (· + steps) ih

private theorem getElem?_stepsOf {values : List α} {steps number : Nat} {step : α × Nat}
    (found : (stepsOf values steps)[number]? = some step) :
    values[number / steps]? = some step.1 ∧ step.2 = number % steps := by
  induction values generalizing number with
  | nil => cases found
  | cons value rest ih =>
    rw [stepsOf, List.flatMap_cons, List.getElem?_append] at found
    simp only [List.length_map, List.length_range] at found
    split at found
    · rename_i early
      rw [Nat.div_eq_of_lt early, Nat.mod_eq_of_lt early]
      simp only [List.getElem?_map, List.getElem?_range early, Option.map_some] at found
      cases found
      exact ⟨rfl, rfl⟩
    · rename_i late
      have within : steps ≤ number := Nat.not_lt.mp late
      obtain ⟨outer, inner⟩ := ih found
      have positive : 0 < steps := by
        refine Nat.pos_of_ne_zero fun none => ?_
        subst none
        simp at found
      rw [Nat.div_eq_sub_div positive within, Nat.mod_eq_sub_mod within]
      exact ⟨outer, inner⟩

end Draws

/-! ## One detector -/

/-- What tracks leave in a detector, and what that takes from a stream: particles for the tracks
that enter and leave inside the sensor, in order, and for each of them a number of deposits along
its path. Each deposit takes one number. -/
structure Deposited (detector : Detector) (pipeline : Pipeline) (trajectories : List Trajectory)
    (stream : Random.Stream) (particles : List Particle) (deposits : List Deposit)
    (rest : Random.Stream) : Prop where
  crossing : particles = (trajectories.map (passage detector)).filter fun particle =>
    detector.contains particle.localBegin && detector.contains particle.localEnd
  count : deposits.length = particles.length * pipeline.depositsPerParticle.toNat
  drawn : rest = (drawMany (drawNumber 0.7 1.6 false) deposits.length stream).2
  linked : ∀ number deposit, deposits[number]? = some deposit →
    let index := number / pipeline.depositsPerParticle.toNat
    let step := number % pipeline.depositsPerParticle.toNat
    ∃ trajectory particle fluctuation, particles[index]? = some particle ∧
      trajectory ∈ trajectories ∧ particle = passage detector trajectory ∧
      (drawMany (drawNumber 0.7 1.6 false) deposits.length stream).1[number]? = some fluctuation ∧
      deposit = depositAt detector pipeline trajectory particle index step fluctuation ∧
      deposit.particle = some (UInt64.ofNat index) ∧
      (UInt64.ofNat index).toNat < particles.length ∧
      (particles.length ≤ UInt64.size → (UInt64.ofNat index).toNat = index) ∧
      deposit.localPosition = particle.localBegin.between particle.localEnd
        ((Float.ofNat step + 0.5) / pipeline.depositsPerParticle.toFloat)

def allDepositsOf (detector : Detector) (pipeline : Pipeline)
    (passages : List (Trajectory × Particle)) : StateM Random.Stream (List Deposit) := do
  return (← passages.zipIdx.mapM (depositsOf detector pipeline)).flatten

theorem draws_allDepositsOf (detector : Detector) (pipeline : Pipeline)
    (passages : List (Trajectory × Particle)) :
    (drawAllDeposits detector pipeline passages).OnlyDraws
      (allDepositsOf detector pipeline passages) :=
  (Code.draws_mapM (draws_depositsOf detector pipeline) _).bind fun _ => Code.draws_pure _

/-- The deposit of one step of a passage. -/
def stepDeposit (detector : Detector) (pipeline : Pipeline)
    (step : ((Trajectory × Particle) × Nat) × Nat) (fluctuation : Float) : Deposit :=
  depositAt detector pipeline step.1.1.1 step.1.1.2 step.1.2 step.2 fluctuation

/-- The deposits as one loop over the steps of all passages, each of which draws once. -/
theorem allDepositsOf_apply (detector : Detector) (pipeline : Pipeline)
    (passages : List (Trajectory × Particle)) (stream : Random.Stream) :
    let steps := stepsOf passages.zipIdx pipeline.depositsPerParticle.toNat
    let numbers := drawMany (drawNumber 0.7 1.6 false) steps.length stream
    allDepositsOf detector pipeline passages stream =
      (List.zipWith (stepDeposit detector pipeline) steps numbers.1, numbers.2) := by
  intro steps numbers
  have loop : allDepositsOf detector pipeline passages = steps.mapM fun step => do
      return stepDeposit detector pipeline step (← drawNumber 0.7 1.6 false) := by
    unfold allDepositsOf steps stepsOf
    rw [← mapM_flatMap]
    simp only [List.mapM_map]
    rfl
  rw [loop]
  exact mapM_draw _ (stepDeposit detector pipeline) steps stream

private theorem map_passages (detector : Detector) (trajectories : List Trajectory) :
    (passages detector trajectories).map Prod.snd =
      (trajectories.map (passage detector)).filter fun particle =>
        detector.contains particle.localBegin && detector.contains particle.localEnd := by
  unfold passages
  rw [List.filter_map, List.filter_map, List.map_map]
  rfl

private theorem mem_passages {detector : Detector} {trajectories : List Trajectory}
    {found : Trajectory × Particle} (member : found ∈ passages detector trajectories) :
    found.1 ∈ trajectories ∧ found.2 = passage detector found.1 := by
  obtain ⟨trajectory, among, rfl⟩ := List.mem_map.mp (List.mem_of_mem_filter member)
  exact ⟨among, rfl⟩

theorem deposited {detector : Detector} {pipeline : Pipeline} {trajectories : List Trajectory}
    {stream rest : Random.Stream} {deposits : List Deposit}
    (drawn : allDepositsOf detector pipeline (passages detector trajectories) stream =
      (deposits, rest)) :
    Deposited detector pipeline trajectories stream
      ((passages detector trajectories).map Prod.snd) deposits rest := by
  have split := allDepositsOf_apply detector pipeline (passages detector trajectories) stream
  rw [drawn] at split
  obtain ⟨made, left⟩ := Prod.mk.inj split
  have total := length_stepsOf (passages detector trajectories).zipIdx
    pipeline.depositsPerParticle.toNat
  have count : deposits.length = (stepsOf (passages detector trajectories).zipIdx
      pipeline.depositsPerParticle.toNat).length := by
    rw [made, List.length_zipWith, drawMany, length_mapM, List.length_replicate, Nat.min_self]
  rw [← count] at made left
  rw [List.length_zipIdx] at total
  refine { crossing := map_passages .., count := ?_, drawn := left, linked := ?_ }
  · rw [count, total, List.length_map]
  · intro number deposit found index step
    have zipped : (List.zipWith _ _ _)[number]? = some deposit := made ▸ found
    obtain ⟨⟨⟨passed, place⟩, part⟩, fluctuation, here, drew, rfl⟩ :=
      List.getElem?_zipWith_eq_some.mp zipped
    obtain ⟨outer, inner⟩ := getElem?_stepsOf here
    rw [List.getElem?_zipIdx] at outer
    obtain ⟨passage, listed, same⟩ := Option.map_eq_some_iff.mp outer
    rw [Nat.zero_add] at same
    obtain ⟨rfl, rfl⟩ := Prod.mk.inj same
    obtain rfl : part = step := inner
    obtain ⟨among, crossed⟩ := mem_passages (List.mem_of_getElem? listed)
    have particle : ((passages detector trajectories).map Prod.snd)[index]? = some passage.2 := by
      rw [List.getElem?_map, listed]
      rfl
    have within := (List.getElem?_eq_some_iff.mp particle).1
    have wrapped : (UInt64.ofNat index).toNat = index % UInt64.size := UInt64.toNat_ofNat
    refine ⟨passage.1, passage.2, fluctuation, particle, among, crossed, drew, rfl, rfl, ?_, ?_,
      rfl⟩
    · rw [wrapped]
      exact Nat.lt_of_le_of_lt (Nat.mod_le _ _) within
    · intro few
      rw [wrapped, Nat.mod_eq_of_lt (Nat.lt_of_lt_of_le within few)]

/-! ## One event -/

/-- What tracks leave in detectors, one detector after the other. -/
inductive Shots (pipeline : Pipeline) (trajectories : List Trajectory) :
    List Detector → Random.Stream → List Shot → Random.Stream → Prop
  | nil (stream : Random.Stream) : Shots pipeline trajectories [] stream [] stream
  | cons {shot : Shot} {detectors : List Detector} {shots : List Shot}
      {stream rest last : Random.Stream}
      (first : Deposited shot.detector pipeline trajectories stream shot.particles shot.deposits
        rest)
      (later : Shots pipeline trajectories detectors rest shots last) :
      Shots pipeline trajectories (shot.detector :: detectors) stream (shot :: shots) last

private theorem shots_mapM (pipeline : Pipeline) (trajectories : List Trajectory)
    (detectors : List Detector) (stream : Random.Stream) :
    Shots pipeline trajectories detectors stream
      (detectors.mapM (shot pipeline trajectories) stream).1
      (detectors.mapM (shot pipeline trajectories) stream).2 := by
  induction detectors generalizing stream with
  | nil => exact .nil stream
  | cons detector rest ih =>
    rw [List.mapM_cons]
    let shot : Shot := (shot pipeline trajectories detector stream).1
    have first : Deposited shot.detector pipeline trajectories stream shot.particles
        shot.deposits _ := deposited rfl
    exact .cons first (ih _)

def sendShot (shot : Shot) : DemoCode Unit := do
  Code.dispatchWanted shot.particlesMessage
  let wanted : Bool ← Code.ask (.hasReceiver shot.depositsMessage)
  if wanted then
    modify fun counters =>
      { counters with depositsSent := counters.depositsSent + shot.deposits.length }
    let _ ← Code.dispatch shot.depositsMessage

private theorem presents_sendShot (shot : Shot) : (sendShot shot).Presents (pure shot) fun shot =>
    [shot.particlesMessage, shot.depositsMessage] := by
  have particles := Code.presents_dispatchWanted (σ := Counters) shot.particlesMessage
  have deposits := Code.presents_offer fun before => ⟨_, Code.outcome_modify_dispatch
    (fun counters : Counters =>
      { counters with depositsSent := counters.depositsSent + shot.deposits.length })
    shot.depositsMessage before⟩
  exact particles.then deposits (fun _ _ => shot) fun _ _ => rfl

private theorem presents_sendPassages (pipeline : Pipeline) (trajectories : List Trajectory)
    (detector : Detector) : (sendPassages pipeline trajectories detector).Presents
      (shot pipeline trajectories detector) fun shot =>
        [shot.particlesMessage, shot.depositsMessage] := by
  let made (deposits : List Deposit) : Shot := {
    detector, particles := (passages detector trajectories).map Prod.snd, deposits }
  have later (deposits : List Deposit) :=
    presents_sendShot (made deposits)
  exact (draws_allDepositsOf detector pipeline _).presents later

/-- Draws the tracks of an event and what they leave in the detectors. -/
def fire (detectors : List Detector) (pipeline : Pipeline) :
    StateM Random.Stream (List Trajectory × List Shot) := do
  let trajectories ← trajectories (firstZ detectors - runUp) pipeline.particlesPerEvent.toNat
  let shots ← detectors.mapM (shot pipeline trajectories)
  return (trajectories, shots)

/-- The messages of an event: the tracks, and then for each detector its particles and deposits. -/
def offered (trajectories : List Trajectory) (shots : List Shot) : List Message :=
  { payload := .tracks (trajectories.map track) } :: shots.flatMap fun shot =>
    [{ payload := .particles shot.particles, detector := some shot.detector },
      { payload := .deposits shot.deposits, detector := some shot.detector }]

private theorem presents_run (detectors : List Detector) (pipeline : Pipeline) :
    (run detectors pipeline).Presents (fire detectors pipeline) fun fired =>
      offered fired.1 fired.2 := by
  refine (draws_trajectories _ _).presents fun trajectories => ?_
  have tracks := Code.presents_dispatchWanted (σ := Counters)
    { payload := .tracks (trajectories.map track) }
  have shots := Code.presents_forM (presents_sendPassages pipeline trajectories) detectors
  exact tracks.then shots (fun _ shots => (trajectories, shots)) fun _ _ => rfl

/-- The deposits of a detector are linked to its particles by their numbers, and each takes one
random number. In an event the tracks are offered first, and then for each detector its particles
and its deposits. A message is dispatched just if it has a receiver, up to one that cannot be
dispatched; what is drawn does not depend on that. -/
theorem deposits_linked :
    (∀ (detector : Detector) (pipeline : Pipeline) (trajectories : List Trajectory)
      (event : UInt64) (stream : Random.Stream), ∃ deposits rest,
        Deposited detector pipeline trajectories stream
          ((passages detector trajectories).map Prod.snd) deposits rest ∧
        ∀ (state : Counters) (bindings : Bindings) (world : World),
          (drawAllDeposits detector pipeline (passages detector trajectories)).outcome
            { state, scope := { bindings, context := some { event, stream } }, world } =
          (.ok deposits,
            { state, scope := { bindings, context := some { event, stream := rest } }, world })) ∧
    ∀ (detectors : List Detector) (pipeline : Pipeline) (event : UInt64) (stream : Random.Stream),
      ∃ tracks shots middle last,
        trajectories (firstZ detectors - runUp) pipeline.particlesPerEvent.toNat stream =
          (tracks, middle) ∧
        tracks.length = pipeline.particlesPerEvent.toNat ∧
        Shots pipeline tracks detectors middle shots last ∧
        ∀ (state : Counters) (bindings : Bindings) (world : World), ∃ ended after,
          (run detectors pipeline).outcome
            { state, scope := { bindings, context := some { event, stream } }, world } =
              (ended, after) ∧
          Offers bindings (offered tracks shots) world ended after.world ∧
          (ended = .ok () →
            after.scope = { bindings, context := some { event, stream := last } }) := by
  constructor
  · intro detector pipeline trajectories event stream
    have draws := draws_allDepositsOf detector pipeline (passages detector trajectories)
    exact ⟨_, _, deposited rfl, fun state bindings world => draws.outcome rfl⟩
  · intro detectors pipeline event stream
    rcases drawn : trajectories (firstZ detectors - runUp) pipeline.particlesPerEvent.toNat stream
      with ⟨tracks, middle⟩
    have count : tracks.length = pipeline.particlesPerEvent.toNat := by
      have drew := length_mapM trajectory
        (List.replicate pipeline.particlesPerEvent.toNat (firstZ detectors - runUp)) stream
      rw [List.length_replicate] at drew
      rw [← drew]
      exact (congrArg (fun drawn => drawn.1.length) drawn).symm
    have fired : fire detectors pipeline stream =
        ((tracks, (detectors.mapM (shot pipeline tracks) middle).1),
          (detectors.mapM (shot pipeline tracks) middle).2) :=
      congrArg (fun drew : List Trajectory × Random.Stream =>
        ((drew.1, (detectors.mapM (shot pipeline drew.1) drew.2).1),
          (detectors.mapM (shot pipeline drew.1) drew.2).2)) drawn
    refine ⟨tracks, _, middle, _, rfl, count, shots_mapM pipeline tracks detectors middle, ?_⟩
    intro state bindings world
    obtain ⟨ended, after, reached, offers, same, left⟩ := presents_run detectors pipeline
      { state, scope := { bindings, context := some { event, stream } }, world } event stream rfl
    rw [fired] at offers left
    refine ⟨ended, after, reached, offers, fun completed => ?_⟩
    have own : after.scope.bindings = bindings := same
    rw [← own, ← left completed]

end Beamline.Demo.Generator
