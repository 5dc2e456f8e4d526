import Beamline.Proofs.ChargeSums
import Beamline.Proofs.CodeOutcome
import Beamline.Proofs.Delivery
import Beamline.Proofs.ExchangeInvariant

/-!
The transfer of charge groups deposits by pixel. Each deposit adds to the charge of its one pixel,
in the order of the deposits, or to the charge that is lost. That sum is a word: beyond the words
the transfer meets a fault before it dispatches.
-/

namespace Beamline.Demo.Transfer

open Bus Run

/-! ## Grouped deposits -/

section Groups

variable (detector : Detector)

/-- The deposits at a pixel, or those at none, in order. -/
def depositsAt (deposits : List Deposit) (pixel : Option PixelIndex) : List Deposit :=
  deposits.filter fun deposit => pixelOf detector deposit.localPosition = pixel

/-- The charge of deposits, added from the first to the last. -/
def sumOf (deposits : List Deposit) : Float :=
  deposits.foldl (fun sum deposit => sum + deposit.charge.toFloat) 0

/-- The charges are those of the deposits by pixel. -/
def Grouped (deposits : List Deposit) (charges : Charges) : Prop :=
  ∀ pixel : PixelIndex, charges[pixel]? =
    if depositsAt detector deposits (some pixel) = [] then none
    else some (sumOf (depositsAt detector deposits (some pixel)))

variable {detector} {deposits : List Deposit} {deposit : Deposit} {pixel : Option PixelIndex}
  {charges : Charges}

private theorem depositsAt_concat_of_eq
    (here : pixelOf detector deposit.localPosition = pixel) :
    depositsAt detector (deposits ++ [deposit]) pixel =
      depositsAt detector deposits pixel ++ [deposit] := by
  rw [depositsAt, List.filter_append, List.filter_cons_of_pos (by simpa using here)]
  rfl

private theorem depositsAt_concat_of_ne
    (elsewhere : pixelOf detector deposit.localPosition ≠ pixel) :
    depositsAt detector (deposits ++ [deposit]) pixel = depositsAt detector deposits pixel := by
  rw [depositsAt, List.filter_append, List.filter_cons_of_neg (by simpa using elsewhere)]
  exact List.append_nil _

private theorem sumOf_concat (deposits : List Deposit) (deposit : Deposit) :
    sumOf (deposits ++ [deposit]) = sumOf deposits + deposit.charge.toFloat := by
  rw [sumOf, List.foldl_append]
  rfl

/-- The charge at a pixel so far, none at a pixel without deposits. -/
private theorem Grouped.getD (grouped : Grouped detector deposits charges) (pixel : PixelIndex) :
    charges.getD pixel 0 = sumOf (depositsAt detector deposits (some pixel)) := by
  rw [Std.TreeMap.getD_eq_getD_getElem?, grouped]
  split
  · rename_i none
    rw [none]
    rfl
  · rfl

/-- One more deposit joins its group. -/
theorem Grouped.step (grouped : Grouped detector deposits charges) (deposit : Deposit) :
    Grouped detector (deposits ++ [deposit]) (step detector charges deposit) := by
  intro pixel
  unfold Transfer.step
  cases here : pixelOf detector deposit.localPosition with
  | none =>
    rw [depositsAt_concat_of_ne (by simp [here])]
    exact grouped pixel
  | some own =>
    simp only [Charges.add, Std.TreeMap.getElem?_insert, grouped.getD]
    by_cases same : own = pixel
    · subst same
      rw [if_pos Std.ReflOrd.compare_self, depositsAt_concat_of_eq here, sumOf_concat,
        if_neg (by simp)]
    · rw [if_neg fun equal => same (Std.LawfulEqOrd.eq_of_compare equal), grouped,
        depositsAt_concat_of_ne (by simpa [here] using same)]

private theorem grouped_chargesOf (detector : Detector) (deposits : List Deposit) :
    Grouped detector deposits (chargesOf detector deposits) := by
  induction deposits using List.reverseRecOn with
  | nil => exact fun pixel => Std.TreeMap.getElem?_emptyc
  | append_singleton deposits deposit ih =>
    have last : chargesOf detector (deposits ++ [deposit]) =
        Transfer.step detector (chargesOf detector deposits) deposit := by
      simp [chargesOf]
    rw [last]
    exact ih.step deposit

end Groups

/-! ## Records -/

theorem compare_eq_lt {first second : PixelIndex} : compare first second = .lt ↔
    first.x < second.x ∨ first.x = second.x ∧ first.y < second.y := by
  change (compare first.x second.x).then (compare first.y second.y) = .lt ↔ _
  rw [Ordering.then_eq_lt, Std.compare_eq_lt, Std.compare_eq_lt, Std.compare_eq_iff_eq]

namespace Charges

variable {charges : Charges}

theorem mem_records {record : PixelCharge} :
    record ∈ charges.records ↔ charges[record.pixel]? = some record.charge := by
  rw [← Std.TreeMap.mem_toList_iff_getElem?_eq_some]
  unfold records
  constructor
  · intro listed
    obtain ⟨entry, member, rfl⟩ := List.mem_map.mp listed
    exact member
  · exact fun member => List.mem_map.mpr ⟨_, member, rfl⟩

private theorem pairwise_records :
    charges.records.Pairwise fun first second => compare first.pixel second.pixel = .lt := by
  refine List.pairwise_map.mpr ?_
  exact Std.TreeMap.ordered_keys_toList

end Charges

theorem Grouped.mem_records {detector : Detector} {deposits : List Deposit} {charges : Charges}
    (grouped : Grouped detector deposits charges) {record : PixelCharge} :
    record ∈ charges.records ↔
      (∃ deposit ∈ deposits, pixelOf detector deposit.localPosition = some record.pixel) ∧
        record.charge = sumOf (depositsAt detector deposits (some record.pixel)) := by
  have hit : depositsAt detector deposits (some record.pixel) ≠ [] ↔
      ∃ deposit ∈ deposits, pixelOf detector deposit.localPosition = some record.pixel := by
    simp [depositsAt]
  rw [Charges.mem_records, grouped, ← hit]
  split
  · rename_i none
    simp [none]
  · rename_i any
    simp [any, eq_comm]

/-! ## The module -/

section Run

variable {detector : Detector} (filled : detector.Filled) (slot : Slot)
  (before : Setting Counters)

include filled

/-- What the module does in an event: it reads its slot and dispatches one message. -/
theorem outcome_run (fits : before.state.lostCharge + lostOf detector
      (depositsOf (before.world.bus.store.contents slot)) < UInt64.size) :
    let deposits := depositsOf (before.world.bus.store.contents slot)
    let sent := before.scope.bindings.dispatch before.world.bus {
      payload := .pixelCharges (chargesOf detector deposits).records
      detector := some detector } none
    (run detector slot).outcome before = ((Code.attempted sent.1).map fun _ => (), {
      state := { before.state with
        lost := UInt64.ofNat (before.state.lostCharge + lostOf detector deposits) }
      scope := before.scope
      world := { before.world with bus := sent.2 } }) := by
  intro deposits sent
  have holds : before.state.Holds { lostCharge := lostOf detector deposits } :=
    ⟨fits, before.state.received.toNat_lt⟩
  have counted : before.state.plus { lostCharge := lostOf detector deposits } = { before.state with
      lost := UInt64.ofNat (before.state.lostCharge + lostOf detector deposits) } := by
    simp [Counters.plus, Counters.lostCharge, UInt64.ofNat_add]
  have read : (Code.ask (σ := Counters) (.read slot)).outcome before =
    (.ok (before.world.bus.store.contents slot), before) := Code.outcome_ask rfl
  have collected := ((adds_collectAll filled deposits before.state).computes holds).outcome
  rw [counted] at collected
  refine (Code.outcome_bind_of_ok read).trans ((Code.outcome_bind_of_ok collected).trans ?_)
  exact Code.outcome_dispatch_unit _ _

/-- Beyond the words the module meets a fault and does nothing to the world. -/
theorem outcome_run_of_overflow (overflows : ¬before.state.lostCharge + lostOf detector
      (depositsOf (before.world.bus.store.contents slot)) < UInt64.size) : ∃ state,
    (run detector slot).outcome before = (.error (.fault .addition), { before with state }) := by
  let deposits := depositsOf (before.world.bus.store.contents slot)
  have crowded : ¬before.state.Holds { lostCharge := lostOf detector deposits } :=
    fun holds => overflows holds.lost
  have read : (Code.ask (σ := Counters) (.read slot)).outcome before =
    (.ok (before.world.bus.store.contents slot), before) := Code.outcome_ask rfl
  obtain ⟨state, faults⟩ := (adds_collectAll filled deposits before.state).faults crowded
  exact ⟨state, (Code.outcome_bind_of_ok read).trans (Code.outcome_bind_of_error faults.outcome)⟩

end Run

/-- Each deposit is counted exactly once. For a detector that was built, an event dispatches exactly
one message, whatever is in the slot, as long as the lost charge stays a word. The records are in
increasing order of their pixels, which are pixels of the matrix; they are the pixels of the
deposits, each with the sum of the charges of its own deposits in their order. The lost charge grows
by that of the deposits at no pixel; if it is no word then, nothing is dispatched. -/
theorem run_groups {name model : String} {position : Position} {pixels : UInt32 × UInt32}
    {pitch : Float × Float} {thickness : Float} {detector : Detector}
    (built : Detector.build name model position pixels pitch thickness = .ok detector)
    (slot : Slot) (before : Setting Counters) :
    let deposits := depositsOf (before.world.bus.store.contents slot)
    ∃ (pixelOf : Position → Option PixelIndex) (records : List PixelCharge),
      (∀ place, detector.pixelAt place = .ok (pixelOf place)) ∧
      (let sent := before.scope.bindings.dispatch before.world.bus
          { payload := .pixelCharges records, detector := some detector } none
        let lost := deposits.filter fun deposit => pixelOf deposit.localPosition = none
        let sum := before.state.lostCharge + (lost.map fun deposit => deposit.charge.toNat).sum
        (sum < UInt64.size →
          (run detector slot).outcome before = ((Code.attempted sent.1).map fun _ => (), {
            state := { before.state with lost := UInt64.ofNat sum }
            scope := before.scope
            world := { before.world with bus := sent.2 } })) ∧
        (UInt64.size ≤ sum → ∃ state,
          (run detector slot).outcome before =
            (.error (.fault .addition), { before with state }))) ∧
      (records.Pairwise fun first second => first.pixel.x < second.pixel.x ∨
        first.pixel.x = second.pixel.x ∧ first.pixel.y < second.pixel.y) ∧
      (∀ record ∈ records,
        record.pixel.x < detector.pixels.1 ∧ record.pixel.y < detector.pixels.2) ∧
      ∀ pixel charge, { pixel, charge } ∈ records ↔
        (∃ deposit ∈ deposits, pixelOf deposit.localPosition = some pixel) ∧
        charge = (deposits.filter fun deposit => pixelOf deposit.localPosition = some pixel).foldl
          (fun sum deposit => sum + deposit.charge.toFloat) 0 := by
  intro deposits
  have filled := (Detector.build_eq_ok.mp built).2.filled
  have grouped := grouped_chargesOf detector deposits
  refine ⟨pixelOf detector, (chargesOf detector deposits).records, pixelAt_eq filled,
    ⟨?_, ?_⟩, ?_, ?_, ?_⟩
  · exact fun fits => outcome_run filled slot before fits
  · exact fun beyond => outcome_run_of_overflow filled slot before (Nat.not_lt.mpr beyond)
  · exact Charges.pairwise_records.imp fun ordered => compare_eq_lt.mp ordered
  · intro record listed
    obtain ⟨deposit, _, there⟩ := (grouped.mem_records.mp listed).1
    exact pixelOf_within filled there
  · exact fun pixel charge => grouped.mem_records

def square : Detector where
  name := "square"
  model := "test"
  position := {}
  pixels := (2, 2)
  pitch := (1, 1)
  thickness := 1

def depositOf (localPosition : Position) (charge : UInt32) : Deposit where
  localPosition
  globalPosition := localPosition
  carrier := .electron
  charge
  time := 0
  particle := none

theorem run_groups_square :
    let slot : Slot := { number := 0, kind := .multi, payload := .deposit }
    let messages : List Message := [
      { payload := .deposits [depositOf {} 5, depositOf { x := 3 } 7], detector := some square },
      { payload := .deposits [depositOf {} 3], detector := some square }]
    let before : Setting Counters := {
      state := { lost := 1 }
      scope := { bindings := { identity := { number := 0, name := "transfer" } } }
      world := { bus.store := ({} : Store).setContents slot messages } }
    Detector.build "square" "test" {} (2, 2) (1, 1) 1 = .ok square ∧ ∃ records : List PixelCharge,
      ((run square slot).outcome before).2.state.lostCharge = 8 ∧
        { pixel := ⟨1, 1⟩, charge := 0 + (5 : UInt32).toFloat + (3 : UInt32).toFloat } ∈
          records := by
  intro slot messages before
  have built : Detector.build "square" "test" {} (2, 2) (1, 1) 1 = .ok square := rfl
  refine ⟨built, ?_⟩
  obtain ⟨pixelOf, records, told, ⟨ran, _⟩, _, _, members⟩ := run_groups built slot before
  have held : depositsOf (before.world.bus.store.contents slot) =
      [depositOf {} 5, depositOf { x := 3 } 7, depositOf {} 3] := by
    simp [before, Store.contents, Store.setContents, messages, depositsOf, Payload.deposits?]
  have middle : pixelOf {} = some ⟨1, 1⟩ := by
    have found : square.pixelAt {} = .ok (some ⟨1, 1⟩) := by decide
    exact Except.ok.inj ((told {}).symm.trans found)
  have outside : pixelOf { x := 3 } = none := by
    have missed : square.pixelAt { x := 3 } = .ok none := by decide
    exact Except.ok.inj ((told { x := 3 }).symm.trans missed)
  rw [held] at ran members
  have sum : before.state.lostCharge + (([depositOf {} 5, depositOf { x := 3 } 7,
      depositOf {} 3].filter fun deposit => pixelOf deposit.localPosition = none).map
        fun deposit => deposit.charge.toNat).sum = 8 := by
    simp [depositOf, middle, outside, before, Counters.lostCharge]
  rw [sum] at ran
  refine ⟨records, ?_, (members _ _).mpr ?_⟩
  · rw [ran (by decide)]
    rfl
  · simp [depositOf, middle, outside]

private theorem run_copies {deposit : Deposit}
    (outside : square.pixelAt deposit.localPosition = .ok none) (slot : Slot)
    (identity : Identity) {copies count : Nat}
    (beyond : UInt64.size ≤ copies * count * deposit.charge.toNat) :
    let message : Message := {
      payload := .deposits (List.replicate count deposit), detector := some square }
    let before : Setting Counters := {
      state := {}
      scope := { bindings := { identity } }
      world := { bus.store := ({} : Store).setContents slot (List.replicate copies message) } }
    ∃ state, (run square slot).outcome before =
      (.error (.fault .addition), { before with state }) := by
  intro message before
  have filled : square.Filled := ⟨by decide, by decide⟩
  have nowhere : pixelOf square deposit.localPosition = none :=
    Except.ok.inj ((pixelAt_eq filled deposit.localPosition).symm.trans outside)
  have held : before.world.bus.store.contents slot = List.replicate copies message := by
    simp [before, Store.contents, Store.setContents]
  have listed : depositsOf (List.replicate copies message) =
      List.replicate (copies * count) deposit := by
    rw [depositsOf, List.flatMap_replicate]
    exact List.flatten_replicate_replicate
  have lost : lostOf square (depositsOf (before.world.bus.store.contents slot)) =
      copies * count * deposit.charge.toNat := by
    rw [held, listed, lostOf, chargeOf, List.filter_replicate_of_pos (by simpa using nowhere),
      List.map_replicate, List.sum_replicate_nat]
  refine outcome_run_of_overflow filled slot before (Nat.not_lt.mpr ?_)
  exact beyond.trans (lost.ge.trans (Nat.le_add_left _ _))

private theorem run_refused {slot single : Slot} {receiver identity : Identity} {store : Store}
    (kind : single.kind = .single) (payload : single.payload = .pixelCharge)
    (filled : store.isFilled single = true) (wants : identity.output = receiver.input)
    (lane : receiver.lane = identity.lane) (everywhere : receiver.detector = none)
    (nothing : store.contents slot = []) :
    let before : Setting Counters := {
      state := {}
      scope := { bindings := { identity } }
      world := { bus := (({ store } : Bus).register receiver (.slot single) {}).2 } }
    ∃ error, ((run square slot).outcome before).1 = .error (.error (.bus error)) := by
  intro before
  have suitable : ({ store } : Bus).messenger.refusal (.slot single) {} = none :=
    (Usage.sound_fresh store).bus.refusal_eq_none rfl (by simp)
  have sound := @Sound.register _ _ _ (Usage.sound_fresh store).bus receiver _ _ suitable
  have same : before.world.bus.store = store :=
    congrArg (fun registered => registered.2.store) (register_of_suitable suitable)
  have held : depositsOf (before.world.bus.store.contents slot) = [] := by
    rw [same, nothing]
    rfl
  let sent : Message := {
    payload := .pixelCharges (chargesOf square []).records
    detector := some square }
  let handle := ({ store } : Bus).nextHandle receiver (.slot single) {}
  have typed : ∀ type ∈ handle.delegate.binding.payload, type = sent.type := by
    rintro _ ⟨⟩
    exact payload
  have candidate : handle ∈ before.world.bus.messenger.candidates identity sent identity.output :=
    sound.lists.mem_candidates.mpr ⟨List.mem_cons_self, lane,
      by simp [handle, nextHandle, everywhere], .inr wants, typed⟩
  have blocked : handle.Blocked before.world.bus.store := ⟨single, rfl, kind, rfl, same ▸ filled⟩
  obtain ⟨error, refused⟩ :=
    (Usage.Sound.dispatch_fails_iff sound identity).mpr ⟨_, candidate, blocked⟩
  have whole : square.Filled := ⟨by decide, by decide⟩
  have ran := outcome_run whole slot before (by rw [held]; exact of_decide_eq_true rfl)
  rw [held] at ran
  refine ⟨error, ?_⟩
  rw [ran]
  change (Code.attempted (before.world.bus.dispatch identity sent identity.output).1).map _ = _
  rw [show (before.world.bus.dispatch identity sent identity.output).1 = _ from refused]
  rfl

/-- A run may dispatch nothing: if one message is in the slot so often that the sum of the lost charge
is no word, and if a receiver of the charges has a single slot that is filled. -/
theorem run_square_fails :
    let slot : Slot := { number := 0, kind := .multi, payload := .deposit }
    let single : Slot := { number := 1, kind := .single, payload := .pixelCharge }
    let receiver : Identity := { number := 1, name := "receiver" }
    let scope : Scope := { bindings := { identity := { number := 0, name := "transfer" } } }
    let deposits := List.replicate (2 ^ 20) (depositOf { x := 3 } 4294967295)
    let message : Message := { payload := .deposits deposits, detector := some square }
    let crowded : Setting Counters := {
      state := {}
      scope
      world := { bus.store := ({} : Store).setContents slot (List.replicate 4097 message) } }
    let store := ({} : Store).setContents single [{ payload := .pixelCharges [] }]
    let occupied : Setting Counters := {
      state := {}
      scope
      world := { bus := (({ store } : Bus).register receiver (.slot single) {}).2 } }
    Detector.build "square" "test" {} (2, 2) (1, 1) 1 = .ok square ∧
      (∃ state, (run square slot).outcome crowded =
        (.error (.fault .addition), { crowded with state })) ∧
      ∃ error, ((run square slot).outcome occupied).1 = .error (.error (.bus error)) := by
  intro slot single receiver scope deposits message crowded store occupied
  refine ⟨rfl, run_copies (by decide) _ _ (by decide), ?_⟩
  exact run_refused rfl rfl (by simp [store, Store.isFilled, Store.contents, Store.setContents])
    rfl rfl rfl (by
      simp [store, Store.contents, Store.setContents, Std.HashMap.getD_insert, slot, single])

end Beamline.Demo.Transfer
