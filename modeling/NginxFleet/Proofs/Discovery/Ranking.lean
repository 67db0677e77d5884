/-
Module: NginxFleet.Proofs.Discovery.Ranking
Layer: Proofs
Purpose: Which version of a group counts. Any two versions can be put in order, so there is a best one:
  the first, as they are listed, before which no other may stand. The kinds that are looked at are
  those of the preferred version, or of the best one if none is preferred.
Main exports: ApiVersion.before_trans, ApiVersion.before_total, ApiVersion.BestOf,
  ApiVersion.Counts, ServedGroup.best_ranked_iff, ServedGroup.recommended_eq_some_iff
-/
import Mathlib.Data.List.Nodup
import NginxFleet.Discovery.Served

namespace NginxFleet

/-!
### The order of versions
-/

namespace ApiVersion

/-- The numbers of a version are at least as good as those of another. -/
def Outranks (a b : ApiVersion) : Prop :=
  b.stability < a.stability ∨
    a.stability = b.stability ∧
      (b.major < a.major ∨ a.major = b.major ∧ b.minor ≤ a.minor)

theorem outranks_of_before {a b : ApiVersion} (order : before a b) : a.Outranks b := by
  unfold before at order
  unfold Outranks
  split at order
  · exact .inr ⟨rfl, .inr ⟨rfl, Nat.le_refl _⟩⟩
  · split at order
    · exact .inl (of_decide_eq_true order)
    · split at order
      · exact .inr ⟨by omega, .inl (of_decide_eq_true order)⟩
      · exact .inr ⟨by omega, .inr ⟨by omega, of_decide_eq_true order⟩⟩

theorem before_of_outranks {a b : ApiVersion} (numbered : a.stability ≠ 0 ∨ b.stability ≠ 0)
    (better : a.Outranks b) : before a b := by
  unfold before
  unfold Outranks at better
  split
  · exact absurd numbered (by simp [stability])
  · split
    · exact decide_eq_true (by omega)
    · split
      · exact decide_eq_true (by omega)
      · exact decide_eq_true (by omega)

theorem eq_other_of_stability {a : ApiVersion} (unstable : a.stability = 0) :
    ∃ name, a = .other name := by
  cases a with
  | other name => exact ⟨name, rfl⟩
  | _ => cases unstable

/-- The order of versions is transitive. -/
theorem before_trans (a b c : ApiVersion) (first : before a b) (second : before b c) :
    before a c := by
  have left := outranks_of_before first
  have right := outranks_of_before second
  unfold Outranks at left right
  by_cases numbered : a.stability ≠ 0 ∨ c.stability ≠ 0
  · exact before_of_outranks numbered (by unfold Outranks; omega)
  · -- without numbers on either side there are none between them
    obtain ⟨x, rfl⟩ := eq_other_of_stability (a := a) (by omega)
    obtain ⟨z, rfl⟩ := eq_other_of_stability (a := c) (by omega)
    obtain ⟨y, rfl⟩ := eq_other_of_stability (a := b) (by omega)
    simp only [before, decide_eq_true_eq] at first second ⊢
    exact String.le_trans first second

/-- Any two versions can be put in order. -/
theorem before_total (a b : ApiVersion) : before a b || before b a := by
  by_cases numbered : a.stability ≠ 0 ∨ b.stability ≠ 0
  · by_cases better : a.Outranks b
    · simp [before_of_outranks numbered better]
    · have worse : b.Outranks a := by
        unfold Outranks at better ⊢
        omega
      simp [before_of_outranks numbered.symm worse]
  · obtain ⟨x, rfl⟩ := eq_other_of_stability (a := a) (by omega)
    obtain ⟨y, rfl⟩ := eq_other_of_stability (a := b) (by omega)
    simpa [before] using String.le_total x y

/-- A version is the best of those that are listed: it stands before all that are listed after it, and
    none that is listed before it may stand before it. -/
def BestOf (names : List String) (name : String) : Prop :=
  ∃ front back, names = front ++ name :: back ∧
    (∀ other ∈ front, before (ofText other) (ofText name) = false) ∧
    ∀ other ∈ back, before (ofText name) (ofText other)

/-- A version counts among those of a group: it is the preferred one, or the best if none is
    preferred. -/
def Counts (names : List String) (preferred : Option String) (name : String) : Prop :=
  match preferred with
  | some preferred => preferred = name
  | none => BestOf names name

end ApiVersion

/-!
### The version that counts
-/

section Sorting

variable {α : Type} (le : α → α → Bool)

/-- The first of the elements that a stable sort puts in order. -/
theorem exists_split_of_head?_mergeSort (trans : ∀ a b c, le a b → le b c → le a c)
    (total : ∀ a b, le a b || le b a) {items : List α} {item : α}
    (first : (items.mergeSort le).head? = some item) :
    ∃ front back, items = front ++ item :: back ∧ (∀ other ∈ front, le other item = false) ∧
      ∀ other ∈ back, le item other := by
  induction items with
  | nil => simp at first
  | cons head rest ih =>
      obtain ⟨front, back, sorted, others, ahead⟩ := List.mergeSort_cons trans total head rest
      rw [sorted] at first
      cases front with
      | nil =>
          cases first
          refine ⟨[], rest, rfl, by simp, ?_⟩
          intro other among
          have ordered := List.pairwise_mergeSort trans total (item :: rest)
          rw [sorted, List.nil_append, List.pairwise_cons] at ordered
          apply ordered.1
          rw [List.nil_append] at others
          exact others ▸ List.mem_mergeSort.mpr among
      | cons _ more =>
          cases first
          obtain ⟨before, after, split, worse, better⟩ := ih (by rw [others]; rfl)
          refine ⟨head :: before, after, by rw [split]; rfl, ?_, better⟩
          intro other among
          rcases List.mem_cons.mp among with rfl | inside
          · simpa using ahead item List.mem_cons_self
          · exact worse other inside

theorem head?_mergeSort_eq_some_iff (trans : ∀ a b c, le a b → le b c → le a c)
    (total : ∀ a b, le a b || le b a) {items : List α} {item : α} :
    (items.mergeSort le).head? = some item ↔
      ∃ front back, items = front ++ item :: back ∧ (∀ other ∈ front, le other item = false) ∧
        ∀ other ∈ back, le item other := by
  refine ⟨exists_split_of_head?_mergeSort le trans total, ?_⟩
  rintro ⟨front, back, split, worse, better⟩
  cases first : (items.mergeSort le).head? with
  | none =>
      have empty : items.mergeSort le = [] := List.head?_eq_none_iff.mp first
      have some_ : item ∈ items.mergeSort le := List.mem_mergeSort.mpr (by simp [split])
      simp [empty] at some_
  | some best =>
      obtain ⟨before, after, split', worse', better'⟩ :=
        exists_split_of_head?_mergeSort le trans total first
      -- of two different places one is in front of the other, which contradicts one of the splits
      rw [split] at split'
      obtain ⟨between, rfl, tail⟩ | ⟨between, rfl, tail⟩ := List.append_eq_append_iff.mp split'
      · cases between with
        | nil =>
            cases tail
            rfl
        | cons _ others =>
            cases tail
            have low := worse' item (by simp)
            rw [better best (by simp)] at low
            cases low
      · cases between with
        | nil =>
            cases tail
            rfl
        | cons _ others =>
            cases tail
            have low := worse best (by simp)
            rw [better' item (by simp)] at low
            cases low

end Sorting

namespace ServedGroup

variable {group : ServedGroup}

theorem head?_ranked_eq_some_iff {served : ServedVersion} :
    group.ranked.head? = some served ↔
      ∃ front back, group.versions = front ++ served :: back ∧
        (∀ other ∈ front, ApiVersion.before (.ofText other.version) (.ofText served.version) =
          false) ∧
        ∀ other ∈ back, ApiVersion.before (.ofText served.version) (.ofText other.version) := by
  unfold ranked
  apply head?_mergeSort_eq_some_iff
  · exact fun a b c => ApiVersion.before_trans _ _ _
  · exact fun a b => ApiVersion.before_total _ _

theorem best_ranked_iff {name : String} :
    group.ranked.head?.map ServedVersion.version = some name ↔
      ApiVersion.BestOf (group.versions.map ServedVersion.version) name := by
  unfold ApiVersion.BestOf
  constructor
  · intro named
    obtain ⟨served, best, rfl⟩ := Option.map_eq_some_iff.mp named
    obtain ⟨front, back, split, worse, better⟩ := head?_ranked_eq_some_iff.mp best
    refine ⟨front.map ServedVersion.version, back.map ServedVersion.version, ?_, ?_, ?_⟩
    · rw [split, List.map_append, List.map_cons]
    · simpa using worse
    · simpa using better
  · rintro ⟨front, back, split, worse, better⟩
    obtain ⟨before, rest, parts, rfl, tail⟩ := List.map_eq_append_iff.mp split
    obtain ⟨served, after, rfl, rfl, rfl⟩ := List.map_eq_cons_iff.mp tail
    refine Option.map_eq_some_iff.mpr
      ⟨served, head?_ranked_eq_some_iff.mpr ⟨before, after, parts, ?_, ?_⟩, rfl⟩
    · simpa using worse
    · simpa using better

theorem chosen?_eq_some_iff {name : String} :
    group.chosen? = some name ↔
      ApiVersion.Counts (group.versions.map ServedVersion.version) group.preferred name := by
  unfold chosen? ApiVersion.Counts
  cases group.preferred with
  | some preferred => simp
  | none => exact best_ranked_iff

/-- The kinds that are looked at are those of the version that counts, if the group has it. -/
theorem recommended_eq_some_iff (distinct : (group.versions.map ServedVersion.version).Nodup)
    {list : ResourceList} :
    group.recommended = some list ↔ ∃ name,
      ApiVersion.Counts (group.versions.map ServedVersion.version) group.preferred name ∧
        ⟨name, list⟩ ∈ group.versions := by
  have ranked (served : ServedVersion) : served ∈ group.ranked ↔ served ∈ group.versions :=
    List.mem_mergeSort
  unfold recommended
  rw [Option.map_eq_some_iff]
  constructor
  · rintro ⟨served, found, rfl⟩
    have chosen : group.chosen? = some served.version := by
      simpa [eq_comm] using List.find?_some found
    exact ⟨served.version, chosen?_eq_some_iff.mp chosen,
      (ranked served).mp (List.mem_of_find?_eq_some found)⟩
  · rintro ⟨name, counts, among⟩
    have chosen := chosen?_eq_some_iff.mpr counts
    cases found : group.ranked.find? fun served => some served.version = group.chosen? with
    | none =>
        have missing := List.find?_eq_none.mp found ⟨name, list⟩ ((ranked _).mpr among)
        simp [chosen] at missing
    | some served =>
        have named : some served.version = some name := by
          simpa [chosen] using List.find?_some found
        have listed := (ranked served).mp (List.mem_of_find?_eq_some found)
        have same := List.inj_on_of_nodup_map distinct listed among (Option.some.inj named)
        exact ⟨served, rfl, by rw [same]⟩

end ServedGroup

end NginxFleet
