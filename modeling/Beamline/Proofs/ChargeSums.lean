import Beamline.Demo.Reader
import Beamline.Demo.Transfer
import Beamline.Proofs.Detectors
import Beamline.Proofs.PlainCode
import Mathlib.Algebra.Order.BigOperators.Group.List
import Mathlib.Algebra.Order.Group.Nat
import Mathlib.Algebra.Ring.Nat
import Mathlib.Data.Nat.Cast.Basic

namespace Beamline

theorem Number.sum_eq (first second : UInt64) : Number.sum first second =
    if first.toNat + second.toNat < UInt64.size then
      .ok (first + UInt64.ofNat second.toNat) else .error .addition := by
  have wraps : first ≤ first + second ↔ first.toNat + second.toNat < UInt64.size := by
    have below := first.toNat_lt
    have small := second.toNat_lt
    rw [UInt64.le_iff_toNat_le, UInt64.toNat_add]
    simp only [UInt64.size]
    omega
  simp only [Number.sum, wraps, UInt64.ofNat_toNat]

namespace Demo

open Bus Run

/-! ## Counters as numbers -/

/-- What is counted in some events, in numbers that no word bounds. -/
structure Totals where
  depositsSent : Nat := 0
  lostCharge : Nat := 0
  hits : Nat := 0
  belowThreshold : Nat := 0
  depositsRead : Nat := 0
  chargeRead : Nat := 0

namespace Totals

instance : Add Totals where
  add first second := {
    depositsSent := first.depositsSent + second.depositsSent
    lostCharge := first.lostCharge + second.lostCharge
    hits := first.hits + second.hits
    belowThreshold := first.belowThreshold + second.belowThreshold
    depositsRead := first.depositsRead + second.depositsRead
    chargeRead := first.chargeRead + second.chargeRead }

instance : Zero Totals where
  zero := {}

instance : AddCommMonoid Totals where
  add_assoc first second third := by
    change mk .. = mk ..
    congr 1 <;> exact Nat.add_assoc ..
  zero_add totals := by
    change mk .. = mk ..
    congr 1 <;> exact Nat.zero_add _
  add_zero totals := rfl
  add_comm first second := by
    change mk .. = mk ..
    congr 1 <;> exact Nat.add_comm ..
  nsmul := nsmulRec

end Totals

namespace Counters

def totals (counters : Counters) : Totals where
  depositsSent := counters.depositsSent
  lostCharge := counters.lostCharge
  hits := counters.hits
  belowThreshold := counters.belowThreshold
  depositsRead := counters.depositsRead
  chargeRead := counters.chargeRead

/-- Counters after something was counted. The sums of charge are right as long as they are words. -/
def plus (counters : Counters) (gain : Totals) : Counters where
  depositsSent := counters.depositsSent + gain.depositsSent
  lost := counters.lost + UInt64.ofNat gain.lostCharge
  hits := counters.hits + gain.hits
  belowThreshold := counters.belowThreshold + gain.belowThreshold
  depositsRead := counters.depositsRead + gain.depositsRead
  received := counters.received + UInt64.ofNat gain.chargeRead

/-- The sums of charge stay words. -/
structure Holds (counters : Counters) (gain : Totals) : Prop where
  lost : counters.lostCharge + gain.lostCharge < UInt64.size
  received : counters.chargeRead + gain.chargeRead < UInt64.size

variable {counters : Counters} {first second : Totals}

private theorem toNat_add_ofNat {word : UInt64} {more : Nat}
    (fits : word.toNat + more < UInt64.size) :
    (word + UInt64.ofNat more).toNat = word.toNat + more := by
  have small : more % UInt64.size = more := Nat.mod_eq_of_lt (by omega)
  rw [UInt64.toNat_add, UInt64.toNat_ofNat', small]
  exact Nat.mod_eq_of_lt fits

theorem Holds.totals_plus (holds : counters.Holds first) :
    (counters.plus first).totals = counters.totals + first := by
  have lost := toNat_add_ofNat holds.lost
  have received := toNat_add_ofNat holds.received
  change Totals.mk .. = Totals.mk ..
  congr 1

@[simp]
theorem plus_zero (counters : Counters) : counters.plus 0 = counters := by
  change Counters.mk .. = counters
  simp [show (0 : Totals) = {} from rfl]

theorem plus_add (counters : Counters) (first second : Totals) :
    counters.plus (first + second) = (counters.plus first).plus second := by
  change Counters.mk .. = Counters.mk ..
  congr 1
  all_goals simp only [plus, Nat.add_assoc, UInt64.add_assoc, ← UInt64.ofNat_add]
  all_goals rfl

theorem holds_add : counters.Holds (first + second) ↔
    counters.Holds first ∧ (counters.plus first).Holds second := by
  have parts (one : counters.Holds first) :
      (counters.plus first).lostCharge = counters.lostCharge + first.lostCharge ∧
        (counters.plus first).chargeRead = counters.chargeRead + first.chargeRead :=
    ⟨congrArg Totals.lostCharge one.totals_plus, congrArg Totals.chargeRead one.totals_plus⟩
  have lost : (first + second).lostCharge = first.lostCharge + second.lostCharge := rfl
  have received : (first + second).chargeRead = first.chargeRead + second.chargeRead := rfl
  constructor
  · rintro ⟨above, below⟩
    rw [lost] at above
    rw [received] at below
    have one : counters.Holds first := ⟨by omega, by omega⟩
    obtain ⟨left, read⟩ := parts one
    exact ⟨one, by omega, by omega⟩
  · rintro ⟨one, above, below⟩
    obtain ⟨left, read⟩ := parts one
    exact ⟨by omega, by omega⟩

theorem holds_of_free (lost : first.lostCharge = 0) (received : first.chargeRead = 0) :
    counters.Holds first where
  lost := by rw [lost]; exact counters.lost.toNat_lt
  received := by rw [received]; exact counters.received.toNat_lt

end Counters

/-! ## Code that counts -/

/-- Code that adds something to the counters, which is a fault if a sum of charge is no word. -/
structure Adds {α : Type} (code : DemoCode α) (counters : Counters) (value : α) (gain : Totals) :
    Prop where
  computes : counters.Holds gain → code.Computes counters (.ok value) (counters.plus gain)
  faults : ¬counters.Holds gain → ∃ after, code.Computes counters (.error (.fault .addition)) after

section Adds

variable {α β : Type} {code : DemoCode α} {next : α → DemoCode β} {value : α} {result : β}
  {counters : Counters} {gain more : Totals}

theorem adds_pure (value : α) (counters : Counters) :
    Adds (pure value) counters value 0 where
  computes _ := by
    rw [Counters.plus_zero]
    exact Code.computes_pure value counters
  faults overflows := absurd (Counters.holds_of_free rfl rfl) overflows

theorem Adds.bind (first : Adds code counters value gain)
    (second : Adds (next value) (counters.plus gain) result more) :
    Adds (code >>= next) counters result (gain + more) where
  computes holds := by
    obtain ⟨one, other⟩ := Counters.holds_add.mp holds
    rw [Counters.plus_add]
    exact (first.computes one).bind (second.computes other)
  faults overflows := by
    by_cases one : counters.Holds gain
    · obtain ⟨after, stopped⟩ := second.faults fun other =>
        overflows (Counters.holds_add.mpr ⟨one, other⟩)
      exact ⟨after, (first.computes one).bind stopped⟩
    · obtain ⟨after, stopped⟩ := first.faults one
      exact ⟨after, stopped.bind_of_error⟩

private theorem adds_modify {change : Counters → Counters}
    (same : change counters = counters.plus gain)
    (lost : gain.lostCharge = 0) (received : gain.chargeRead = 0) :
    Adds (modify change) counters () gain where
  computes _ := same ▸ Code.computes_modify change counters
  faults overflows := absurd (Counters.holds_of_free lost received) overflows

theorem adds_forM {ε : Type} {code : ε → DemoCode Unit} {gain : ε → Totals}
    (each : ∀ one counters, Adds (code one) counters () (gain one)) (ones : List ε)
    (counters : Counters) : Adds (ones.forM code) counters () (ones.map gain).sum := by
  induction ones generalizing counters with
  | nil => exact adds_pure () counters
  | cons one rest ih => exact (each one counters).bind (ih _)

private theorem adds_foldlM {ε γ : Type} {code : γ → ε → DemoCode γ} {step : γ → ε → γ}
    {gain : ε → Totals}
    (each : ∀ value one counters, Adds (code value one) counters (step value one) (gain one))
    (ones : List ε) (value : γ) (counters : Counters) :
    Adds (ones.foldlM code value) counters (ones.foldl step value) (ones.map gain).sum := by
  induction ones generalizing value counters with
  | nil => exact adds_pure value counters
  | cons one rest ih =>
    rw [List.foldlM_cons]
    exact (each value one counters).bind (ih _ _)

end Adds

def chargeOf (deposits : List Deposit) : Nat :=
  (deposits.map fun deposit => deposit.charge.toNat).sum

theorem chargeOf_append (first second : List Deposit) :
    chargeOf (first ++ second) = chargeOf first + chargeOf second := by
  rw [chargeOf, List.map_append, List.sum_append]
  rfl

section Charge

variable {sum : UInt64} {deposit : Deposit}

theorem computes_addCharge (fits : sum.toNat + deposit.charge.toNat < UInt64.size)
    (counters : Counters) : (addCharge sum deposit).Computes counters
      (.ok (sum + UInt64.ofNat deposit.charge.toNat)) counters :=
  Code.computes_orFault_of_ok ((Number.sum_eq ..).trans (if_pos fits)) counters

theorem computes_addCharge_of_overflow
    (overflows : ¬sum.toNat + deposit.charge.toNat < UInt64.size) (counters : Counters) :
    (addCharge sum deposit).Computes counters (.error (.fault .addition)) counters :=
  Code.computes_orFault_of_error ((Number.sum_eq ..).trans (if_neg overflows)) counters

end Charge

namespace Reader

private theorem adds_countCharge (deposit : Deposit) (counters : Counters) :
    Adds (countCharge deposit) counters () { chargeRead := deposit.charge.toNat } where
  computes holds := by
    have counted : counters.plus { chargeRead := deposit.charge.toNat } = { counters with
        received := counters.received + UInt64.ofNat deposit.charge.toNat } := by
      simp [Counters.plus]
    rw [counted]
    refine (Code.computes_get counters).bind ?_
    exact (computes_addCharge holds.received counters).bind (Code.computes_modify _ counters)
  faults overflows := by
    have past := fun fits => overflows ⟨counters.lost.toNat_lt, fits⟩
    refine ⟨counters, (Code.computes_get counters).bind ?_⟩
    exact (computes_addCharge_of_overflow past counters).bind_of_error

def gainOf (deposits : List Deposit) : Totals where
  depositsRead := deposits.length
  chargeRead := chargeOf deposits

private theorem gainOf_append (first second : List Deposit) :
    gainOf (first ++ second) = gainOf first + gainOf second := by
  rw [gainOf, List.length_append, chargeOf_append]
  rfl

private theorem sum_gains (deposits : List Deposit) :
    (deposits.map fun deposit : Deposit =>
      ({ chargeRead := deposit.charge.toNat } : Totals)).sum =
      { chargeRead := chargeOf deposits } := by
  induction deposits with
  | nil => rfl
  | cons deposit rest ih =>
    rw [List.map_cons, List.sum_cons, ih]
    rfl

private theorem adds_count (message : Message) (counters : Counters) :
    Adds (count message) counters () (gainOf message.payload.deposits?) := by
  have charges := adds_forM adds_countCharge message.payload.deposits? counters
  rw [sum_gains] at charges
  have number : Adds (modify fun counters : Counters => { counters with
      depositsRead := counters.depositsRead + message.payload.deposits?.length })
      (counters.plus { chargeRead := chargeOf message.payload.deposits? }) ()
      { depositsRead := message.payload.deposits?.length } :=
    adds_modify (by simp [Counters.plus]) rfl rfl
  have total : gainOf message.payload.deposits? =
      { chargeRead := chargeOf message.payload.deposits? } +
        { depositsRead := message.payload.deposits?.length } := by
    change Totals.mk .. = Totals.mk ..
    simp
  rw [total]
  exact Adds.bind charges number

theorem sum_gainOf (messages : List Message) :
    (messages.map fun message => gainOf message.payload.deposits?).sum =
      gainOf (depositsOf messages) := by
  induction messages with
  | nil => rfl
  | cons message rest ih =>
    rw [List.map_cons, List.sum_cons, ih, ← gainOf_append]
    rfl

theorem adds_countAll (messages : List Message) (counters : Counters) :
    Adds (messages.forM count) counters () (gainOf (depositsOf messages)) := by
  rw [← sum_gainOf]
  exact adds_forM adds_count messages counters

theorem plain_countAll (messages : List Message) : (messages.forM count).Plain := by
  have charge (sum : UInt64) (deposit : Deposit) : (addCharge sum deposit).Plain :=
    Code.plain_orFault _
  refine Code.plain_forM (fun message => ?_) messages
  refine Code.Plain.bind (Code.plain_forM (fun deposit => ?_) _) fun _ => Code.plain_modify _
  exact Code.plain_get.bind fun counters =>
    (charge counters.received deposit).bind fun _ => Code.plain_modify _

end Reader

namespace Transfer

/-- The pixel over a place, none also in a matrix without pixels. -/
def pixelOf (detector : Detector) (place : Position) : Option PixelIndex :=
  (detector.pixelAt place).toOption.join

theorem pixelAt_eq {detector : Detector} (filled : detector.Filled) (place : Position) :
    detector.pixelAt place = .ok (pixelOf detector place) := by
  obtain ⟨found, told, _⟩ := filled.pixelAt
  rw [pixelOf, told]
  rfl

theorem pixelOf_within {detector : Detector} (filled : detector.Filled) {place : Position}
    {pixel : PixelIndex} (found : pixelOf detector place = some pixel) :
    pixel.x < detector.pixels.1 ∧ pixel.y < detector.pixels.2 := by
  obtain ⟨other, told, _, within⟩ := filled.pixelAt
  have same := Except.ok.inj ((told place).symm.trans (pixelAt_eq filled place))
  exact within place pixel (same.trans found)

/-- The charges of pixels after one more deposit. -/
def step (detector : Detector) (charges : Charges) (deposit : Deposit) : Charges :=
  match pixelOf detector deposit.localPosition with
  | some pixel => charges.add pixel deposit
  | none => charges

def chargesOf (detector : Detector) (deposits : List Deposit) : Charges :=
  deposits.foldl (step detector) ∅

def gainOf (detector : Detector) (deposit : Deposit) : Totals where
  lostCharge := if pixelOf detector deposit.localPosition = none then deposit.charge.toNat else 0

/-- The charge of the deposits at no pixel. -/
def lostOf (detector : Detector) (deposits : List Deposit) : Nat :=
  chargeOf (deposits.filter fun deposit => pixelOf detector deposit.localPosition = none)

theorem sum_gainOf (detector : Detector) (deposits : List Deposit) :
    (deposits.map (gainOf detector)).sum = { lostCharge := lostOf detector deposits } := by
  induction deposits with
  | nil => rfl
  | cons deposit rest ih =>
    rw [List.map_cons, List.sum_cons, ih, lostOf, lostOf]
    by_cases outside : pixelOf detector deposit.localPosition = none
    · rw [List.filter_cons_of_pos (by simpa using outside), gainOf, if_pos outside]
      rfl
    · rw [List.filter_cons_of_neg (by simpa using outside), gainOf, if_neg outside]
      exact zero_add _

private theorem adds_collect {detector : Detector} (filled : detector.Filled) (charges : Charges)
    (deposit : Deposit) (counters : Counters) :
    Adds (collect detector charges deposit) counters (step detector charges deposit)
      (gainOf detector deposit) := by
  have told := Code.computes_orFault_of_ok (pixelAt_eq filled deposit.localPosition) counters
  unfold step gainOf
  cases found : pixelOf detector deposit.localPosition with
  | some pixel =>
    rw [found] at told
    have kept : Adds (collect detector charges deposit) counters (charges.add pixel deposit) 0 := {
      computes := fun _ => by
        rw [Counters.plus_zero]
        exact told.bind (Code.computes_pure _ counters)
      faults := fun overflows => absurd (Counters.holds_of_free rfl rfl) overflows }
    exact kept
  | none =>
    rw [found] at told
    have counted : counters.plus { lostCharge := deposit.charge.toNat } = { counters with
        lost := counters.lost + UInt64.ofNat deposit.charge.toNat } := by
      simp [Counters.plus]
    exact {
      computes := fun holds => by
        rw [if_pos rfl, counted]
        refine told.bind ((Code.computes_get counters).bind ?_)
        exact (computes_addCharge holds.lost counters).bind
          ((Code.computes_modify _ counters).bind (Code.computes_pure _ _))
      faults := fun overflows => by
        have past := fun fits => overflows ⟨fits, counters.received.toNat_lt⟩
        refine ⟨counters, told.bind ((Code.computes_get counters).bind ?_)⟩
        exact (computes_addCharge_of_overflow past counters).bind_of_error }

theorem adds_collectAll {detector : Detector} (filled : detector.Filled) (deposits : List Deposit)
    (counters : Counters) : Adds (deposits.foldlM (collect detector) ∅) counters
      (chargesOf detector deposits) { lostCharge := lostOf detector deposits } := by
  rw [← sum_gainOf]
  exact adds_foldlM (adds_collect filled) deposits ∅ counters

theorem lostOf_le (detector : Detector) (deposits : List Deposit) :
    lostOf detector deposits ≤ chargeOf deposits :=
  (List.filter_sublist.map _).sum_le_sum fun _ _ => Nat.zero_le _

end Transfer

end Demo

end Beamline
