/-
Module: NginxFleet.Proofs.Status.Order
Layer: Proofs
Purpose: The one order of a collection of pods. Entries are compared by name and then by address, which
  tells apart all entries that differ, so a collection has one ascending arrangement however often a
  name or an entry stands in it. The pods seen have changed if they are not this arrangement of the
  recorded ones.
Main exports: PodEntry.InOrder, PodEntry.sorted_eq_of_perm, PodEntry.eq_sorted_iff,
  podsChanged_eq_false_iff, podsChanged_observedPods_eq_false_iff
-/
import NginxFleet.Reconcile.Status

namespace NginxFleet

namespace PodEntry

variable {entries others : List PodEntry}

/-- An entry may stand before another if its name is smaller, or if the names are equal and its address
    is not greater. -/
def InOrder (a b : PodEntry) : Prop :=
  a.name < b.name ∨ a.name = b.name ∧ a.podIP ≤ b.podIP

instance (a b : PodEntry) : Decidable (a.InOrder b) :=
  inferInstanceAs (Decidable (_ ∨ _))

theorem le_eq_true_iff {a b : PodEntry} : le a b = true ↔ a.InOrder b := by
  simp [le, InOrder]

theorem InOrder.antisymm {a b : PodEntry} (before : a.InOrder b) (after : b.InOrder a) : a = b :=
  le_antisymm a b (le_eq_true_iff.mpr before) (le_eq_true_iff.mpr after)

theorem pairwise_inOrder_sorted (entries : List PodEntry) :
    (sorted entries).Pairwise InOrder :=
  (pairwise_sorted entries).imp le_eq_true_iff.mp

/-- Two ascending arrangements of the same entries are equal. -/
theorem eq_of_perm_of_inOrder (same : entries.Perm others) (ordered : entries.Pairwise InOrder)
    (orderedToo : others.Pairwise InOrder) : entries = others :=
  List.Perm.eq_of_pairwise (fun _ _ _ _ => InOrder.antisymm) ordered orderedToo same

/-- Entries are the ascending arrangement of others if they are in order and the same entries. -/
theorem eq_sorted_iff : entries = sorted others ↔ entries.Pairwise InOrder ∧ entries.Perm others := by
  constructor
  · rintro rfl
    exact ⟨pairwise_inOrder_sorted others, sorted_perm others⟩
  · rintro ⟨ordered, same⟩
    exact eq_of_perm_of_inOrder (same.trans (sorted_perm others).symm) ordered
      (pairwise_inOrder_sorted others)

/-- Entries that are equal when they are in order are the same entries. -/
theorem sorted_eq_of_perm (same : entries.Perm others) : sorted entries = sorted others :=
  eq_sorted_iff.mpr ⟨pairwise_inOrder_sorted entries, (sorted_perm entries).trans same⟩

end PodEntry

/-- Pods have not changed exactly if those seen are in order and are those recorded, in whatever
    order. -/
theorem podsChanged_eq_false_iff {observed stored : List PodEntry} :
    podsChanged observed stored = false ↔
      observed.Pairwise PodEntry.InOrder ∧ observed.Perm stored := by
  rw [← PodEntry.eq_sorted_iff]
  simp [podsChanged]

theorem podsChanged_observedPods_eq_false_iff {pods : List Pod} {stored : List PodEntry} :
    podsChanged (observedPods pods) stored = false ↔ (pods.map Pod.entry).Perm stored := by
  rw [podsChanged_eq_false_iff]
  have arranged : (observedPods pods).Perm (pods.map Pod.entry) := PodEntry.sorted_perm _
  constructor
  · rintro ⟨-, same⟩
    exact arranged.symm.trans same
  · intro same
    exact ⟨PodEntry.pairwise_inOrder_sorted _, arranged.trans same⟩

/-- Pods that were recorded have not changed. -/
theorem podsChanged_observedPods (pods : List Pod) :
    podsChanged (observedPods pods) (observedPods pods) = false :=
  podsChanged_observedPods_eq_false_iff.mpr (PodEntry.sorted_perm _).symm

/-- Pods that have changed are not those that are stored, in whatever order. -/
theorem not_perm_of_podsChanged {pods : List Pod} {stored : List PodEntry}
    (changed : podsChanged (observedPods pods) stored = true) :
    ¬ (pods.map Pod.entry).Perm stored := by
  intro same
  rw [podsChanged_observedPods_eq_false_iff.mpr same] at changed
  cases changed

/-- Pods that are listed in another order are recorded alike. -/
theorem observedPods_eq_of_perm {pods others : List Pod} (same : pods.Perm others) :
    observedPods pods = observedPods others :=
  PodEntry.sorted_eq_of_perm (same.map Pod.entry)

end NginxFleet
