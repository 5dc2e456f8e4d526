import Beamline.Proofs.Trimming

namespace Beamline.Text

/-! ## Pieces -/

theorem pieces_eq_splitOn (separator : Char) (text : List Char) :
    pieces separator text = text.splitOn separator := by
  induction text with
  | nil => rfl
  | cons c rest ih =>
    unfold pieces
    rw [List.splitOn, List.splitOnP_cons_eq_if_modifyHead, ← List.splitOn, ih]
    by_cases same : c = separator
    · rw [if_pos same, if_pos (beq_iff_eq.mpr same)]
    · rw [if_neg same, if_neg (mt beq_iff_eq.mp same)]
      cases cut : rest.splitOn separator with
      | nil => exact absurd cut (List.splitOn_ne_nil separator rest)
      | cons piece others => rfl

theorem intercalate_pieces (separator : Char) (text : List Char) :
    [separator].intercalate (pieces separator text) = text := by
  rw [pieces_eq_splitOn]
  exact List.intercalate_splitOn separator

theorem not_mem_of_mem_pieces {separator : Char} {text piece : List Char}
    (among : piece ∈ pieces separator text) : separator ∉ piece := by
  induction text generalizing piece with
  | nil =>
    rw [List.mem_singleton.mp among]
    exact List.not_mem_nil
  | cons c rest ih =>
    unfold pieces at among
    split at among
    · rcases List.mem_cons.mp among with rfl | later
      · exact List.not_mem_nil
      · exact ih later
    · rename_i other
      split at among
      · rw [List.mem_singleton.mp among]
        exact fun same => other (List.mem_singleton.mp same).symm
      · rename_i first others cut
        rw [cut] at ih
        rcases List.mem_cons.mp among with rfl | later
        · rintro (_ | ⟨_, within⟩)
          · exact other rfl
          · exact ih List.mem_cons_self within
        · exact ih (List.mem_cons_of_mem _ later)

/-! ## Names -/

/-- What can be told apart as a name in a list. -/
structure Name (name : String) : Prop where
  filled : name ≠ ""
  whole : ',' ∉ name.toList
  bare : Bare name.toList

/-- A list of pieces that spells out names in order: each with white space around it, and any
number of pieces of white space anywhere. -/
inductive Spells : List String → List String → Prop
  | nil : Spells [] []
  | blank {names pieces : List String} {piece : String}
      (blank : ∀ c ∈ piece.toList, isBlank c = true) (rest : Spells names pieces) :
      Spells names (piece :: pieces)
  | name {names pieces : List String} {before name after : String}
      (left : ∀ c ∈ before.toList, isBlank c = true)
      (right : ∀ c ∈ after.toList, isBlank c = true) (rest : Spells names pieces) :
      Spells (name :: names) ((before ++ name ++ after) :: pieces)

/-- The characters that are left of a piece, if any are. -/
def kept (pieces : List (List Char)) : List (List Char) :=
  (pieces.map trimmed).filter fun piece => !piece.isEmpty

theorem names_eq_kept (list : String) :
    names list = (kept (pieces ',' list.toList)).map String.ofList :=
  rfl

theorem kept_cons_of_blank {piece : List Char} {pieces : List (List Char)}
    (blank : trimmed piece = []) : kept (piece :: pieces) = kept pieces := by
  simp [kept, blank]

theorem kept_cons_of_filled {piece : List Char} {pieces : List (List Char)}
    (filled : trimmed piece ≠ []) : kept (piece :: pieces) = trimmed piece :: kept pieces := by
  simp [kept, filled]

/-- The names that are spelled out are what is left of the pieces. -/
theorem Spells.kept {names pieces : List String} (spells : Spells names pieces)
    (proper : ∀ name ∈ names, Name name) :
    kept (pieces.map String.toList) = names.map String.toList := by
  induction spells with
  | nil => rfl
  | blank blank _ ih =>
    rw [List.map_cons, kept_cons_of_blank (trimmed_of_blank blank)]
    exact ih proper
  | @name names pieces before name after left right _ ih =>
    obtain ⟨first, others⟩ := List.forall_mem_cons.mp proper
    have padded : Padded name.toList (before ++ name ++ after).toList :=
      ⟨before.toList, after.toList, left, right, by simp⟩
    have same := trimmed_of_padded padded first.bare
    have filled : trimmed (before ++ name ++ after).toList ≠ [] := by
      rw [same]
      exact mt String.toList_eq_nil_iff.mp first.filled
    rw [List.map_cons, kept_cons_of_filled filled, same, ih others, List.map_cons]

theorem spells_kept (pieces : List (List Char)) :
    Spells ((kept pieces).map String.ofList) (pieces.map String.ofList) := by
  induction pieces with
  | nil => exact .nil
  | cons piece rest ih =>
    by_cases empty : trimmed piece = []
    · rw [kept_cons_of_blank empty]
      refine .blank (fun c among => ?_) ih
      obtain ⟨before, after, left, right, same⟩ := padded_trimmed piece
      rw [String.toList_ofList, same, empty, List.append_nil] at among
      exact (List.mem_append.mp among).elim (left c) (right c)
    · obtain ⟨before, after, left, right, same⟩ := padded_trimmed piece
      have spelled : String.ofList piece =
          String.ofList before ++ String.ofList (trimmed piece) ++ String.ofList after := by
        rw [← String.ofList_append, ← String.ofList_append, ← same]
      rw [kept_cons_of_filled empty, List.map_cons, List.map_cons, spelled]
      refine .name (fun c among => left c ?_) (fun c among => right c ?_) ih
      · rwa [String.toList_ofList] at among
      · rwa [String.toList_ofList] at among

/-- A comma is not white space, so no piece that spells out names is cut. -/
theorem Spells.uncut {names pieces : List String} (spells : Spells names pieces)
    (proper : ∀ name ∈ names, Name name) : ∀ piece ∈ pieces, ',' ∉ piece.toList := by
  have comma {text : List Char} (blank : ∀ c ∈ text, isBlank c = true) : ',' ∉ text :=
    fun among => absurd (blank ',' among) (by decide)
  induction spells with
  | nil => exact List.forall_mem_nil _
  | blank blank _ ih => exact List.forall_mem_cons.mpr ⟨comma blank, ih proper⟩
  | name left right _ ih =>
    obtain ⟨first, others⟩ := List.forall_mem_cons.mp proper
    refine List.forall_mem_cons.mpr ⟨?_, ih others⟩
    simp [comma left, comma right, first.whole]

private theorem pieces_intercalate {pieces : List String}
    (uncut : ∀ piece ∈ pieces, ',' ∉ piece.toList)
    (some : pieces ≠ []) :
    Text.pieces ',' (",".intercalate pieces).toList = pieces.map String.toList := by
  rw [String.toList_intercalate, pieces_eq_splitOn]
  refine List.splitOn_intercalate ',' ?_ (by simpa using some)
  simpa using uncut

theorem name_of_mem_names {list name : String} (among : name ∈ names list) : Name name := by
  obtain ⟨text, left, rfl⟩ := List.mem_map.mp (names_eq_kept list ▸ among)
  obtain ⟨taken, filled⟩ := List.mem_filter.mp left
  obtain ⟨piece, cut, rfl⟩ := List.mem_map.mp taken
  obtain ⟨before, after, _, _, same⟩ := padded_trimmed piece
  refine ⟨?_, ?_, ?_⟩
  · rw [ne_eq, String.ofList_eq_empty_iff]
    simpa using filled
  · rw [String.toList_ofList]
    intro within
    refine not_mem_of_mem_pieces cut (same ▸ ?_)
    simp [within]
  · rw [String.toList_ofList]
    exact bare_trimmed piece

theorem names_eq_iff {list : String} {names : List String} : Text.names list = names ↔
    (∀ name ∈ names, Name name) ∧
      ∃ pieces, list = ",".intercalate pieces ∧ Spells names pieces := by
  constructor
  · rintro rfl
    refine ⟨fun _ => name_of_mem_names, (pieces ',' list.toList).map String.ofList, ?_, ?_⟩
    · rw [← String.toList_inj, String.toList_intercalate]
      have same := intercalate_pieces ',' list.toList
      simpa [Function.comp_def] using same.symm
    · exact spells_kept _
  · rintro ⟨proper, pieces, rfl, spells⟩
    rw [names_eq_kept]
    by_cases some : pieces = []
    · subst some
      cases spells
      rfl
    · rw [pieces_intercalate (spells.uncut proper) some, spells.kept proper]
      simp [Function.comp_def]

end Beamline.Text
