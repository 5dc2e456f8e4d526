import Beamline.Proofs.ExchangeInvariant
import Beamline.Proofs.Numerals

/-!
The names of delegates. A name ends with the number of the delegate, which can be read off it
whatever the texts before it contain, so no two delegates of a messenger have the same name.
-/

namespace Beamline.Bus

/-- The number that the last digits of a text stand for. -/
def numberAtEnd (text : String) : Option Nat :=
  Number.natural? (text.toList.reverse.takeWhile Char.isDigit).reverse

/-- Digits at the end of a text are found up to the first character that is none. -/
theorem reverse_takeWhile_append {holds : Char → Bool} {before after : List Char} {mark : Char}
    (ends : holds mark = false) (all : ∀ c ∈ after, holds c = true) :
    ((before ++ mark :: after).reverse.takeWhile holds).reverse = after := by
  rw [List.reverse_append, List.reverse_cons, List.append_assoc,
    List.takeWhile_append_of_pos fun c among => all c (List.mem_reverse.mp among),
    List.singleton_append, List.takeWhile_cons_of_neg (by simp [ends]), List.append_nil,
    List.reverse_reverse]

theorem numberAtEnd_append_idText (text : String) (handle : Handle) :
    numberAtEnd (text ++ handle.idText) = some handle.id := by
  have digits := Number.digits_toString handle.id
  have parts : (text ++ handle.idText).toList =
      text.toList ++ '#' :: (toString handle.id).toList := by
    simp [Handle.idText]
  rw [numberAtEnd, parts, reverse_takeWhile_append rfl fun c among =>
    Number.isDigit_iff.mpr (digits.ascii c among)]
  exact Number.natural?_eq_some_iff.mpr digits

private theorem Handle.numberAtEnd_uniqueName (handle : Handle) :
    numberAtEnd handle.uniqueName = some handle.id :=
  numberAtEnd_append_idText _ handle

theorem nodup_uniqueNames {handles : List Handle} (apart : (handles.map Handle.id).Nodup) :
    (handles.map Handle.uniqueName).Nodup := by
  refine List.Nodup.of_map numberAtEnd ?_
  have numbers : (handles.map Handle.uniqueName).map numberAtEnd =
      (handles.map Handle.id).map some := by
    simp [Handle.numberAtEnd_uniqueName]
  rw [numbers]
  exact apart.map fun _ _ => Option.some.inj

theorem Usage.Sound.nodup_uniqueNames {usage : Usage} {returned live : List Handle}
    (sound : usage.Sound returned live) : (returned.map Handle.uniqueName).Nodup :=
  Bus.nodup_uniqueNames (sound.numbered ▸ List.nodup_range)

/-- Whatever was done with a messenger, no two delegates that it ever returned have the same name,
be they registered or removed and whatever texts their names are made of. That is so also where it
was given handles of other messengers. -/
theorem delegateNames_unique :
    (∀ (text : String) (handle : Handle),
        numberAtEnd (text ++ handle.idText) = some handle.id) ∧
      (∀ (store : Store) (operations : List Operation),
        ((issued ((Usage.fresh store).answers operations)).map Handle.uniqueName).Nodup) ∧
      ∀ (requests : List Request) (number : Nat),
        ((issued (Exchange.fresh.answers requests number)).map Handle.uniqueName).Nodup :=
  ⟨numberAtEnd_append_idText,
    fun store operations => (Usage.sound_after store operations).nodup_uniqueNames,
    fun requests number =>
      Usage.Sound.nodup_uniqueNames (Exchange.sound_after requests number)⟩

end Beamline.Bus
