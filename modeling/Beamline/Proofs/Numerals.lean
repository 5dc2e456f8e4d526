import Beamline.Number.Natural
import Beamline.Proofs.Trimming
import Mathlib.Data.Nat.Digits.Defs

namespace Beamline.Number

/-- The value of decimal digits by their places, of which the last counts ones. -/
def placeValue (digits : List Char) : Nat :=
  Nat.ofDigits 10 (digits.reverse.map fun digit => digit.toNat - '0'.toNat)

/-- ASCII digits, at least one, and the number that they stand for. -/
structure Digits (text : List Char) (value : Nat) : Prop where
  filled : text ≠ []
  ascii : ∀ c ∈ text, '0' ≤ c ∧ c ≤ '9'
  value_eq : value = placeValue text

/-- The numerals of a number, with or without a plus sign. -/
inductive Numeral : List Char → Nat → Prop
  | plain {text : List Char} {value : Nat} (digits : Digits text value) : Numeral text value
  | signed {text : List Char} {value : Nat} (digits : Digits text value) :
      Numeral ('+' :: text) value

/-- A numeral in a text, with white space around it. -/
def Denotes (text : String) (value : Nat) : Prop :=
  ∃ numeral, Text.Padded numeral text.toList ∧ Numeral numeral value

/-! ## Digits -/

theorem isDigit_iff {c : Char} : c.isDigit = true ↔ '0' ≤ c ∧ c ≤ '9' := by
  rw [Char.isDigit, Bool.and_eq_true, decide_eq_true_iff, decide_eq_true_iff]
  rfl

theorem ofDigits_eq_placeValue (digits : List Char) : ofDigits digits = placeValue digits := by
  rw [placeValue, Nat.ofDigits_eq_foldr, List.map_reverse, List.foldr_reverse, List.foldl_map]
  unfold ofDigits
  congr 1
  funext value digit
  exact Nat.add_comm ..

theorem natural?_eq_some_iff {text : List Char} {value : Nat} :
    natural? text = some value ↔ Digits text value := by
  unfold natural?
  constructor
  · intro read
    split at read
    · cases read
    · rename_i taken
      cases read
      obtain ⟨filled, digits⟩ := not_or.mp (mt Bool.or_eq_true_iff.mpr taken)
      refine ⟨by simpa using filled, fun c among => ?_, ofDigits_eq_placeValue text⟩
      rw [Bool.not_eq_true, Bool.not_eq_false'] at digits
      exact isDigit_iff.mp (List.all_eq_true.mp digits c among)
  · rintro ⟨filled, ascii, rfl⟩
    have digits : text.all Char.isDigit = true :=
      List.all_eq_true.mpr fun c among => isDigit_iff.mpr (ascii c among)
    rw [digits, ofDigits_eq_placeValue, if_neg (by simpa using filled)]

theorem Digits.unique {text : List Char} {first second : Nat} (one : Digits text first)
    (other : Digits text second) : first = second :=
  one.value_eq.trans other.value_eq.symm

/-! ## Signs -/

/-- What follows a plus sign, if there is one. -/
def unsigned : List Char → List Char
  | '+' :: rest => rest
  | text => text

theorem numeral_iff {text : List Char} {value : Nat} :
    Numeral text value ↔ Digits (unsigned text) value := by
  unfold unsigned
  constructor
  · rintro (digits | digits)
    · split
      · exact absurd (digits.ascii '+' List.mem_cons_self) (by decide)
      · exact digits
    · exact digits
  · intro digits
    split at digits
    · exact .signed digits
    · exact .plain digits

theorem Numeral.unique {text : List Char} {first second : Nat} (one : Numeral text first)
    (other : Numeral text second) : first = second :=
  (numeral_iff.mp one).unique (numeral_iff.mp other)

private theorem word?_eq_some_iff {text : String} {word : UInt64} :
    word? text = some word ↔ Numeral text.toList word.toNat := by
  have reading : word? text = (natural? (unsigned text.toList)).bind fun value =>
      if value < UInt64.size then some (UInt64.ofNat value) else none := rfl
  rw [reading, Option.bind_eq_some_iff, numeral_iff]
  constructor
  · rintro ⟨value, read, fits⟩
    split at fits
    · rename_i small
      cases fits
      rw [UInt64.toNat_ofNat_of_lt' small]
      exact natural?_eq_some_iff.mp read
    · cases fits
  · intro digits
    refine ⟨word.toNat, natural?_eq_some_iff.mpr digits, ?_⟩
    rw [if_pos word.toNat_lt, UInt64.ofNat_toNat]

/-! ## White space -/

theorem isBlank_of_digit {c : Char} (ascii : '0' ≤ c ∧ c ≤ '9') : Text.isBlank c = false := by
  have low : 48 ≤ c.toNat := UInt32.le_iff_toNat_le.mp ascii.1
  have high : c.toNat ≤ 57 := UInt32.le_iff_toNat_le.mp ascii.2
  rw [Bool.eq_false_iff]
  simp only [Text.isBlank, ne_eq, Bool.or_eq_true, Bool.and_eq_true, decide_eq_true_iff, beq_iff_eq]
  omega

theorem Numeral.bare {text : List Char} {value : Nat} (numeral : Numeral text value) :
    Text.Bare text := by
  have plain (c : Char) (among : c ∈ text) : Text.isBlank c = false := by
    cases numeral with
    | plain digits => exact isBlank_of_digit (digits.ascii c among)
    | signed digits =>
      rcases List.mem_cons.mp among with rfl | later
      · rfl
      · exact isBlank_of_digit (digits.ascii c later)
  exact ⟨fun c first => plain c (List.mem_of_head? first),
    fun c last => plain c (List.mem_of_getLast? last)⟩

theorem trimmed_numeral {text : String} {numeral : List Char} {value : Nat}
    (padded : Text.Padded numeral text.toList) (spelled : Numeral numeral value) :
    (Text.trim text).toList = numeral := by
  rw [Text.trim, String.toList_ofList]
  exact Text.trimmed_of_padded padded spelled.bare

/-- Text without the white space at its ends is read as a word just if it denotes it. -/
theorem word?_trim_eq_some_iff (text : String) (word : UInt64) :
    word? (Text.trim text) = some word ↔ Denotes text word.toNat := by
  rw [word?_eq_some_iff]
  constructor
  · intro numeral
    refine ⟨_, ?_, numeral⟩
    rw [Text.trim, String.toList_ofList]
    exact Text.padded_trimmed _
  · rintro ⟨numeral, padded, spelled⟩
    rw [trimmed_numeral padded spelled]
    exact spelled

theorem Denotes.unique {text : String} {first second : Nat} (one : Denotes text first)
    (other : Denotes text second) : first = second := by
  obtain ⟨_, padded, numeral⟩ := one
  obtain ⟨_, also, spelled⟩ := other
  rw [← trimmed_numeral padded numeral] at numeral
  rw [← trimmed_numeral also spelled] at spelled
  exact numeral.unique spelled

theorem digits_toString (value : Nat) : Digits (toString value).toList value := by
  have digits : (toString value).toList = Nat.toDigits 10 value := Nat.toList_repr
  rw [digits]
  refine ⟨Nat.toDigits_ne_nil, fun c among => ?_, ?_⟩
  · exact isDigit_iff.mp (Nat.isDigit_of_mem_toDigits (by decide) (by decide) among)
  · rw [← ofDigits_eq_placeValue]
    exact (Nat.ofDigitChars_toDigits (by decide) (by decide)).symm

theorem denotes_toString (value : Nat) {before after : String}
    (left : ∀ c ∈ before.toList, Text.isBlank c = true)
    (right : ∀ c ∈ after.toList, Text.isBlank c = true) :
    Denotes (before ++ toString value ++ after) value :=
  ⟨(toString value).toList, ⟨before.toList, after.toList, left, right, by simp⟩,
    .plain (digits_toString value)⟩

end Beamline.Number
