import Beamline.Proofs.EventShares
import Beamline.Random.Stream

/-!
The seeds of events. An event's seed comes from the run's seed and the event's number by steps on
words that can be undone, so two events of a run never have the same seed.
-/

namespace Beamline.Random

/-- The event that has a seed of its own in a run with a seed. -/
def eventOf (seed own : UInt64) : UInt64 :=
  (own ^^^ seed) * 0xF1DE83E19937733D - 1

/-- The factor of event numbers is odd, so it has an inverse among the words. -/
theorem factor_mul_inverse : (0x9E3779B97F4A7C15 * 0xF1DE83E19937733D : UInt64) = 1 := rfl

private theorem eventOf_eventSeed (seed event : UInt64) :
    eventOf seed (eventSeed seed event) = event := by
  unfold eventOf eventSeed
  rw [UInt64.xor_comm seed, UInt64.xor_assoc, UInt64.xor_self, UInt64.xor_zero, UInt64.mul_assoc,
    factor_mul_inverse, UInt64.mul_one, UInt64.add_sub_cancel]

private theorem eventSeed_eventOf (seed own : UInt64) :
    eventSeed seed (eventOf seed own) = own := by
  unfold eventOf eventSeed
  rw [UInt64.sub_add_cancel, UInt64.mul_assoc, UInt64.mul_comm 0xF1DE83E19937733D,
    factor_mul_inverse, UInt64.mul_one, UInt64.xor_comm own, ← UInt64.xor_assoc, UInt64.xor_self,
    UInt64.zero_xor]

theorem eventSeed_bijective (seed : UInt64) : Function.Bijective (eventSeed seed) :=
  Function.bijective_iff_has_inverse.mpr
    ⟨eventOf seed, eventOf_eventSeed seed, eventSeed_eventOf seed⟩

theorem eventSeed_involutive (event : UInt64) :
    Function.Involutive fun seed => eventSeed seed event := by
  intro seed
  simp only [eventSeed, UInt64.xor_assoc, UInt64.xor_self, UInt64.xor_zero]

/-- Sum and product are taken of numbers, and modulo the number of words only once. -/
theorem toNat_eventSeed (seed event : UInt64) : (eventSeed seed event).toNat =
    seed.toNat ^^^ ((event.toNat + 1) * 0x9E3779B97F4A7C15 % UInt64.size) := by
  unfold eventSeed
  rw [UInt64.toNat_xor, UInt64.toNat_mul, UInt64.toNat_add]
  exact congrArg (seed.toNat ^^^ ·) (Nat.mod_mul_mod ..)

/-- In a run every event has a seed of its own, also the one with the greatest number, and runs with
different seeds give an event different ones. So the streams of the events of a run come from
different seeds. -/
theorem eventSeeds_apart :
    (∀ seed, Function.Bijective (eventSeed seed)) ∧
      (∀ event, Function.Bijective fun seed => eventSeed seed event) ∧
      (∀ seed event, (eventSeed seed event).toNat =
        seed.toNat ^^^ ((event.toNat + 1) * 0x9E3779B97F4A7C15 % UInt64.size)) ∧
      ∀ plan : Run.Plan, ∃ seeds : List UInt64, seeds.Nodup ∧
        plan.allEvents.map (Stream.ofEvent plan.seed) = seeds.map Stream.ofSeed := by
  refine ⟨eventSeed_bijective, fun event => (eventSeed_involutive event).bijective,
    toNat_eventSeed, fun plan => ⟨plan.allEvents.map (eventSeed plan.seed), ?_, ?_⟩⟩
  · exact Run.Plan.allEvents_nodup.map (eventSeed_bijective plan.seed).injective
  · rw [List.map_map]
    rfl

end Beamline.Random
