import Beamline.Text.Blank

namespace Beamline.Text

/-- No white space at either end, though perhaps within. -/
structure Bare (text : List Char) : Prop where
  head : ∀ c ∈ text.head?, isBlank c = false
  last : ∀ c ∈ text.getLast?, isBlank c = false

def Padded (core text : List Char) : Prop :=
  ∃ before after, (∀ c ∈ before, isBlank c = true) ∧ (∀ c ∈ after, isBlank c = true) ∧
    text = before ++ core ++ after

theorem Bare.reverse {text : List Char} (bare : Bare text) : Bare text.reverse := by
  refine ⟨?_, ?_⟩
  · rw [List.head?_reverse]
    exact bare.last
  · rw [List.getLast?_reverse]
    exact bare.head

/-- White space is dropped before a text that does not start with any, up to it. -/
theorem dropWhile_padded {before text : List Char} (blank : ∀ c ∈ before, isBlank c = true)
    (head : ∀ c ∈ text.head?, isBlank c = false) :
    (before ++ text).dropWhile isBlank = text := by
  rw [List.dropWhile_append_of_pos blank]
  cases text with
  | nil => rfl
  | cons c rest => exact List.dropWhile_cons_of_neg (Bool.eq_false_iff.mp (head c rfl))

theorem trimmed_of_blank {text : List Char} (blank : ∀ c ∈ text, isBlank c = true) :
    trimmed text = [] := by
  have dropped : (text ++ []).dropWhile isBlank = [] := dropWhile_padded blank (by simp)
  rw [List.append_nil] at dropped
  rw [trimmed, dropped]
  rfl

theorem trimmed_of_padded {core text : List Char} (padded : Padded core text) (bare : Bare core) :
    trimmed text = core := by
  obtain ⟨before, after, left, right, rfl⟩ := padded
  by_cases empty : core = []
  · subst empty
    refine trimmed_of_blank ?_
    simpa [or_imp, forall_and] using ⟨left, right⟩
  · have head : (core ++ after).head? = core.head? := by
      obtain ⟨c, rest, rfl⟩ := List.exists_cons_of_ne_nil empty
      rfl
    have last : ∀ c ∈ after.reverse, isBlank c = true :=
      fun c among => right c (List.mem_reverse.mp among)
    rw [trimmed, List.append_assoc, dropWhile_padded left (head ▸ bare.head), List.reverse_append,
      dropWhile_padded last bare.reverse.head, List.reverse_reverse]

theorem blank_of_mem_takeWhile {text : List Char} {c : Char} (among : c ∈ text.takeWhile isBlank) :
    isBlank c = true :=
  List.all_eq_true.mp List.all_takeWhile c among

theorem padded_trimmed (text : List Char) : Padded (trimmed text) text := by
  refine ⟨text.takeWhile isBlank, ((text.dropWhile isBlank).reverse.takeWhile isBlank).reverse,
    fun _ => blank_of_mem_takeWhile, fun _ among => ?_, ?_⟩
  · exact blank_of_mem_takeWhile (List.mem_reverse.mp among)
  · rw [trimmed, List.append_assoc, ← List.reverse_append, List.takeWhile_append_dropWhile,
      List.reverse_reverse, List.takeWhile_append_dropWhile]

theorem head_dropWhile_blank (text : List Char) :
    ∀ c ∈ (text.dropWhile isBlank).head?, isBlank c = false := by
  intro c first
  have kept := List.head?_dropWhile_not isBlank text
  rw [Option.mem_def.mp first] at kept
  exact kept

theorem bare_trimmed (text : List Char) : Bare (trimmed text) := by
  have start : trimmed text <+: text.dropWhile isBlank := by
    have ending := List.dropWhile_suffix (l := (text.dropWhile isBlank).reverse) isBlank
    have start := List.reverse_prefix.mpr ending
    rw [List.reverse_reverse] at start
    exact start
  constructor
  · intro c first
    refine head_dropWhile_blank text c ?_
    obtain ⟨rest, same⟩ := start
    rw [← same, List.head?_append, Option.mem_def.mp first]
    rfl
  · rw [trimmed, List.getLast?_reverse]
    exact head_dropWhile_blank _

end Beamline.Text
