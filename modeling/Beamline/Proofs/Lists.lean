import Mathlib.Algebra.BigOperators.Group.List.Basic
import Mathlib.Algebra.GroupWithZero.Nat
import Mathlib.Data.List.Forall2
import Mathlib.Data.List.Nodup
import Mathlib.Data.List.Perm.Basic

namespace Beamline

theorem find?_congr {α : Type} {wanted sought : α → Bool} {members : List α}
    (same : ∀ member ∈ members, wanted member = sought member) :
    members.find? wanted = members.find? sought := by
  rw [← List.head?_filter, ← List.head?_filter, List.filter_congr same]

theorem first_or_none {α : Type} (holds : α → Prop) (members : List α) :
    (∀ member ∈ members, ¬ holds member) ∨ ∃ before member after,
      members = before ++ member :: after ∧ (∀ other ∈ before, ¬ holds other) ∧ holds member := by
  induction members with
  | nil => exact .inl (by simp)
  | cons first rest ih =>
    by_cases here : holds first
    · exact .inr ⟨[], first, rest, rfl, by simp, here⟩
    · rcases ih with none | ⟨before, member, after, rfl, none, found⟩
      · exact .inl (List.forall_mem_cons.mpr ⟨here, none⟩)
      · exact .inr ⟨first :: before, member, after, rfl, List.forall_mem_cons.mpr ⟨here, none⟩,
          found⟩

/-! ## Keys -/

/-- The only member of a list with a certain key. -/
theorem filter_key_eq {α β : Type} [DecidableEq β] {key : α → β} {members : List α}
    (apart : (members.map key).Nodup) {member : α} (listed : member ∈ members) :
    (members.filter fun other => key member = key other) = [member] := by
  induction members with
  | nil => cases listed
  | cons first rest ih =>
    obtain ⟨other, apart⟩ := List.nodup_cons.mp apart
    rcases List.mem_cons.mp listed with rfl | listed
    · have none (found : α) (among : found ∈ rest) : key member ≠ key found := by
        intro same
        exact other (same ▸ List.mem_map_of_mem among)
      rw [List.filter_cons_of_pos (by simp), List.filter_eq_nil_iff.mpr (by simpa using none)]
    · have different : key member ≠ key first := by
        intro same
        exact other (same ▸ List.mem_map_of_mem listed)
      rw [List.filter_cons_of_neg (by simpa using different), ih apart listed]

theorem filter_flatMap_key {α β γ : Type} [DecidableEq γ] {key : α → γ} {members : α → List β}
    {part : β → γ} {owners : List α} (apart : (owners.map key).Nodup)
    (keyed : ∀ owner ∈ owners, ∀ value ∈ members owner, part value = key owner) {owner : α}
    (listed : owner ∈ owners) :
    ((owners.flatMap members).filter fun value => part value = key owner) = members owner := by
  have own : ((owners.flatMap members).filter fun value => part value = key owner) =
      (owners.filter fun other => key owner = key other).flatMap members := by
    clear apart listed
    induction owners with
    | nil => rfl
    | cons first rest ih =>
      obtain ⟨head, others⟩ := List.forall_mem_cons.mp keyed
      rw [List.flatMap_cons, List.filter_append, ih others, List.filter_cons]
      by_cases same : key owner = key first
      · have all : ((members first).filter fun value => part value = key owner) = members first :=
          List.filter_eq_self.mpr fun value member => by simp [head value member, same]
        rw [all, if_pos (decide_eq_true same), List.flatMap_cons]
      · have none : ((members first).filter fun value => part value = key owner) = [] :=
          List.filter_eq_nil_iff.mpr fun value member => by
            simpa [head value member, eq_comm] using same
        simp [none, same]
  rw [own, filter_key_eq apart listed]
  simp

theorem perm_flatMap_filter {α β : Type} [DecidableEq β] {key : α → β} {keys : List β}
    (distinct : keys.Nodup) {members : List α} (known : ∀ member ∈ members, key member ∈ keys) :
    members.Perm (keys.flatMap fun wanted => members.filter fun member => key member = wanted) := by
  induction keys generalizing members with
  | nil =>
    have none : members = [] := List.eq_nil_iff_forall_not_mem.mpr fun member among => by
      cases known member among
    rw [none]
    exact .nil
  | cons first rest ih =>
    obtain ⟨other, distinct⟩ := List.nodup_cons.mp distinct
    let remaining := members.filter fun member => !decide (key member = first)
    have further : remaining.Perm
        (rest.flatMap fun wanted => remaining.filter fun member => key member = wanted) := by
      refine ih distinct fun member among => ?_
      obtain ⟨among, different⟩ := List.mem_filter.mp among
      exact (List.mem_cons.mp (known member among)).resolve_left (by simpa using different)
    have same : (rest.flatMap fun wanted => remaining.filter fun member => key member = wanted) =
        rest.flatMap fun wanted => members.filter fun member => key member = wanted := by
      apply List.flatMap_congr
      intro wanted listed
      rw [List.filter_filter]
      apply List.filter_congr
      intro member _
      have different : wanted ≠ first := fun equal => other (equal ▸ listed)
      by_cases found : key member = wanted <;> simp [found, different]
    rw [same] at further
    exact (List.filter_append_perm (fun member => decide (key member = first)) members).symm.trans
      (further.append_left _)

theorem filterMap_flatMap_key {α β : Type} [DecidableEq α] {keys : List α} (distinct : keys.Nodup)
    (values : α → List β) (key : α) :
    ((keys.flatMap fun other => (values other).map (Prod.mk other)).filterMap fun found =>
      if found.1 = key then some found.2 else none) = if key ∈ keys then values key else [] := by
  induction keys with
  | nil => rfl
  | cons first rest ih =>
    obtain ⟨new, distinct⟩ := List.nodup_cons.mp distinct
    rw [List.flatMap_cons, List.filterMap_append, ih distinct, List.filterMap_map]
    by_cases same : key = first
    · subst same
      simp [new]
    · simp [same, Ne.symm same]

/-! ## Sums -/

theorem sum_map_const {α : Type} {weight : α → Nat} {amount : Nat} {values : List α}
    (constant : ∀ value ∈ values, weight value = amount) :
    (values.map weight).sum = values.length * amount := by
  rw [List.map_congr_left constant, List.map_const', List.sum_replicate_nat]

theorem sum_map_le {α : Type} {weight : α → Nat} {bound : Nat} {values : List α}
    (below : ∀ value ∈ values, weight value ≤ bound) :
    (values.map weight).sum ≤ values.length * bound := by
  induction values with
  | nil => exact Nat.zero_le _
  | cons value rest ih =>
    obtain ⟨first, others⟩ := List.forall_mem_cons.mp below
    rw [List.map_cons, List.sum_cons, List.length_cons, Nat.succ_mul, Nat.add_comm]
    exact Nat.add_le_add (ih others) first

theorem sum_indicator {α : Type} (holds : α → Prop) [DecidablePred holds] (values : List α) :
    (values.map fun value => if holds value then 1 else 0).sum =
      (values.filter fun value => holds value).length := by
  induction values with
  | nil => rfl
  | cons value rest ih =>
    by_cases found : holds value <;> simp [found, ih, Nat.add_comm]

/-! ## Related lists -/

/-- Each value of the second list is related to one of the first. -/
theorem forall₂_of_mem_right {α β : Type} {R : α → β → Prop} {first : List α} {second : List β}
    (related : List.Forall₂ R first second) {value : β} (member : value ∈ second) :
    ∃ other ∈ first, R other value := by
  induction related with
  | nil => cases member
  | cons head further ih =>
    rcases List.mem_cons.mp member with rfl | member
    · exact ⟨_, List.mem_cons_self, head⟩
    · obtain ⟨other, among, holds⟩ := ih member
      exact ⟨other, List.mem_cons_of_mem _ among, holds⟩

theorem forall₂_append_left {α β : Type} {R : α → β → Prop} {first second : List α} {both : List β}
    (related : List.Forall₂ R (first ++ second) both) : ∃ before after,
      List.Forall₂ R first before ∧ List.Forall₂ R second after ∧ both = before ++ after := by
  induction first generalizing both with
  | nil => exact ⟨[], both, .nil, related, rfl⟩
  | cons value rest ih =>
    cases related with
    | cons head further =>
      obtain ⟨before, after, others, last, rfl⟩ := ih further
      exact ⟨_ :: before, after, .cons head others, last, rfl⟩

theorem forall₂_append_of_length {α β : Type} {R : α → β → Prop} {first second : List α}
    {before after : List β} (length : first.length = before.length) :
    List.Forall₂ R (first ++ second) (before ++ after) ↔
      List.Forall₂ R first before ∧ List.Forall₂ R second after := by
  constructor
  · intro related
    obtain ⟨one, other, first, second, same⟩ := forall₂_append_left related
    obtain ⟨rfl, rfl⟩ := List.append_inj same (length.symm.trans first.length_eq)
    exact ⟨first, second⟩
  · rintro ⟨first, second⟩
    exact List.rel_append first second

theorem forall₂_getElem? {α β : Type} {R : α → β → Prop} {first : List α} {second : List β}
    (related : List.Forall₂ R first second) {place : Nat} {value : α}
    (found : first[place]? = some value) : ∃ other, second[place]? = some other ∧ R value other := by
  obtain ⟨within, rfl⟩ := List.getElem?_eq_some_iff.mp found
  have bound : place < second.length := related.length_eq ▸ within
  exact ⟨second[place], List.getElem?_eq_getElem bound, related.get within bound⟩

theorem forall₂_modify {α β : Type} {R S : α → β → Prop} {first : List α} {second : List β}
    {change : β → β} {place : Nat} (related : List.Forall₂ R first second)
    (here : ∀ value other, first[place]? = some value → R value other → S value (change other))
    (elsewhere : ∀ index value other, index ≠ place → first[index]? = some value →
      R value other → S value other) :
    List.Forall₂ S first (second.modify place change) := by
  induction related generalizing place with
  | nil =>
    rw [List.modify_nil]
    exact .nil
  | @cons value other rest others head further ih =>
    cases place with
    | zero =>
      refine .cons (here value other rfl head) ?_
      have same : List.Forall₂ (fun value other => value ∈ rest ∧ R value other) rest others :=
        (List.forall₂_and_left rest others).mpr ⟨fun _ member => member, further⟩
      refine same.imp fun found kept both => ?_
      obtain ⟨index, listed⟩ := List.getElem?_of_mem both.1
      exact elsewhere (index + 1) found kept (Nat.succ_ne_zero index) listed both.2
    | succ place =>
      refine .cons (elsewhere 0 value other (Nat.succ_ne_zero place).symm rfl head) ?_
      exact ih (fun found kept listed => here found kept listed)
        fun index found kept different listed =>
          elsewhere (index + 1) found kept (by omega) listed

/-! ## Values of lists -/

theorem forall_getElem?_cons {α : Type} {holds : Nat → α → Prop} {number : Nat} {first : α}
    {rest : List α} :
    (∀ place value, (first :: rest)[place]? = some value → holds (number + place) value) ↔
      holds number first ∧
        ∀ place value, rest[place]? = some value → holds (number + 1 + place) value := by
  constructor
  · intro all
    refine ⟨all 0 first rfl, fun place value found => ?_⟩
    rw [Nat.add_assoc, Nat.add_comm 1 place]
    exact all (place + 1) value found
  · rintro ⟨head, further⟩ place value found
    cases place with
    | zero =>
      obtain rfl := Option.some.inj found
      exact head
    | succ place =>
      rw [Nat.add_comm place 1, ← Nat.add_assoc]
      exact further place value found

theorem eraseDups_nodup (texts : List String) : texts.eraseDups.Nodup := by
  cases texts with
  | nil => exact .nil
  | cons text rest =>
    rw [List.eraseDups_cons, List.nodup_cons]
    exact ⟨by simp [List.mem_eraseDups], eraseDups_nodup _⟩
termination_by texts.length
decreasing_by exact Nat.lt_succ_of_le (List.length_filter_le _ _)

theorem map_eq_map_range {α β : Type} {f : α → β} {g : Nat → β} {values : List α}
    (same : ∀ place value, values[place]? = some value → f value = g place) :
    values.map f = (List.range values.length).map g := by
  refine List.ext_getElem (by simp) fun place within _ => ?_
  rw [List.length_map] at within
  rw [List.getElem_map, List.getElem_map, List.getElem_range]
  exact same place _ (List.getElem?_eq_getElem within)

theorem map_range_getD {π β : Type} (parties : List π) (other : π) (f : π → β) :
    (List.range parties.length).map (fun place => f (parties.getD place other)) =
      parties.map f := by
  apply List.ext_getElem (by simp)
  intro place within bound
  simp at within
  simp [within]

end Beamline
