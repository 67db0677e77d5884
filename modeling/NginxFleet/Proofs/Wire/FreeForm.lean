/-
Module: NginxFleet.Proofs.Wire.FreeForm
Layer: Proofs
Purpose: Values without a type of their own are kept in canonical form. The canonical form is a normal
  form: taking it again changes nothing, what cannot be read in it could not be read before, and it
  commutes with what is received. So a value that was read is read as itself again, and stays in
  this form on its way over the wire.
Main exports: Json.canonical_canonical, Json.canonical_received, FreeForm, FreeForm.of_readFree,
  FreeForm.readFree, FreeForm.received
-/
import NginxFleet.Object.Meta
import NginxFleet.Proofs.Wire.Record

namespace NginxFleet

namespace Json

/-!
### The canonical form is a normal form
-/

theorem insertEntry_of_below {key : String} {value : Json} {entries : List (String × Json)}
    (below : ∀ entry ∈ entries, key < entry.1) :
    insertEntry key value entries = (key, value) :: entries := by
  cases entries with
  | nil => rfl
  | cons head rest =>
      have first : key < head.1 := below head List.mem_cons_self
      simp [insertEntry, first]

/-- Members in order whose values are in canonical form are in canonical form. -/
theorem canonicalMembers_of_ascending {members : List (String × Json)}
    (ascending : Ascending members) (values : ∀ member ∈ members, member.2.canonical = member.2) :
    canonicalMembers members = members := by
  induction members with
  | nil => rfl
  | cons head rest ih =>
      obtain ⟨key, value⟩ := head
      obtain ⟨below, later⟩ := List.pairwise_cons.mp ascending
      have same := ih later fun member found => values member (List.mem_cons_of_mem _ found)
      have unknown : rest.lookup key = none := KeyMap.lookup_eq_none_of_lt below
      have first : value.canonical = value := values (key, value) List.mem_cons_self
      simp only [canonicalMembers, same, unknown, first]
      exact insertEntry_of_below below

mutual

theorem canonical_canonical : (document : Json) → document.canonical.canonical = document.canonical
  | .arr items => by
      simp only [canonical]
      rw [canonicalItems_canonicalItems items]
  | .obj members => by
      simp only [canonical]
      rw [canonicalMembers_of_ascending (ascending_canonicalMembers members)
        (canonical_of_mem_canonicalMembers members)]
  | .null | .bool _ | .int _ | .float _ | .str _ | .unreadable => rfl

theorem canonicalItems_canonicalItems : (items : List Json) →
    canonicalItems (canonicalItems items) = canonicalItems items
  | [] => rfl
  | item :: rest => by
      simp only [canonicalItems]
      rw [canonical_canonical item, canonicalItems_canonicalItems rest]

theorem canonical_of_mem_canonicalMembers : (members : List (String × Json)) →
    ∀ member ∈ canonicalMembers members, member.2.canonical = member.2
  | [] => by simp [canonicalMembers]
  | (key, value) :: rest => by
      have later := canonical_of_mem_canonicalMembers rest
      have first := canonical_canonical value
      intro member found
      simp only [canonicalMembers] at found
      split at found
      · exact later member found
      · rcases mem_insertEntry found with rfl | found
        · exact first
        · exact later member found

end

/-!
### The canonical form and the wire
-/

theorem lookup_membersReceived (key : String) (members : List (String × Json)) :
    (membersReceived members).lookup key = (members.lookup key).map received := by
  induction members with
  | nil => rfl
  | cons head rest ih =>
      obtain ⟨name, value⟩ := head
      rw [membersReceived, KeyMap.lookup_entry_cons, KeyMap.lookup_entry_cons]
      by_cases same : key = name
      · simp [same]
      · simp [same, ih]

theorem membersReceived_insertEntry (key : String) (value : Json)
    (members : List (String × Json)) :
    membersReceived (insertEntry key value members) =
      insertEntry key value.received (membersReceived members) := by
  induction members with
  | nil => rfl
  | cons head rest ih =>
      obtain ⟨name, document⟩ := head
      simp only [insertEntry, membersReceived]
      by_cases before : key < name
      · simp [before, membersReceived]
      · by_cases same : key = name
        · simp [same, membersReceived]
        · simp [before, same, membersReceived, ih]

mutual

theorem canonical_received : (document : Json) →
    document.received.canonical = document.canonical.received
  | .arr items => by
      simp only [received, canonical]
      rw [canonicalItems_itemsReceived items]
  | .obj members => by
      simp only [received, canonical]
      rw [canonicalMembers_membersReceived members]
  | .null | .bool _ | .int _ | .float _ | .str _ | .unreadable => rfl

theorem canonicalItems_itemsReceived : (items : List Json) →
    canonicalItems (itemsReceived items) = itemsReceived (canonicalItems items)
  | [] => rfl
  | item :: rest => by
      simp only [itemsReceived, canonicalItems]
      rw [canonical_received item, canonicalItems_itemsReceived rest]

theorem canonicalMembers_membersReceived : (members : List (String × Json)) →
    canonicalMembers (membersReceived members) = membersReceived (canonicalMembers members)
  | [] => rfl
  | (key, value) :: rest => by
      simp only [membersReceived, canonicalMembers]
      rw [canonicalMembers_membersReceived rest, lookup_membersReceived]
      cases (canonicalMembers rest).lookup key with
      | some later => rfl
      | none =>
          simp only [Option.map_none]
          rw [membersReceived_insertEntry, canonical_received value]

end

/-!
### The canonical form and what can be read
-/

theorem membersReadable_insertEntry {key : String} {value : Json}
    {members : List (String × Json)} (first : value.isReadable)
    (rest : membersReadable members) : membersReadable (insertEntry key value members) := by
  induction members with
  | nil => simp [insertEntry, membersReadable, first]
  | cons head later ih =>
      obtain ⟨name, document⟩ := head
      simp only [membersReadable, Bool.and_eq_true] at rest
      simp only [insertEntry]
      split
      · simp [membersReadable, first, rest]
      · split
        · simp [membersReadable, first, rest]
        · simp [membersReadable, rest, ih rest.2]

mutual

theorem isReadable_canonical : (document : Json) → document.isReadable →
    document.canonical.isReadable
  | .arr items, readable => itemsReadable_canonicalItems items readable
  | .obj members, readable => membersReadable_canonicalMembers members readable
  | .null, _ | .bool _, _ | .int _, _ | .float _, _ | .str _, _ => rfl

theorem itemsReadable_canonicalItems : (items : List Json) → itemsReadable items →
    itemsReadable (canonicalItems items)
  | [], _ => rfl
  | item :: rest, readable => by
      simp only [itemsReadable, Bool.and_eq_true] at readable
      simp only [canonicalItems, itemsReadable, Bool.and_eq_true]
      exact ⟨isReadable_canonical item readable.1, itemsReadable_canonicalItems rest readable.2⟩

theorem membersReadable_canonicalMembers : (members : List (String × Json)) →
    membersReadable members → membersReadable (canonicalMembers members)
  | [], _ => rfl
  | (key, value) :: rest, readable => by
      simp only [membersReadable, Bool.and_eq_true] at readable
      have later := membersReadable_canonicalMembers rest readable.2
      simp only [canonicalMembers]
      split
      · exact later
      · exact membersReadable_insertEntry (isReadable_canonical value readable.1) later

end

theorem canonical_ne_null {document : Json} (present : document ≠ .null) :
    document.canonical ≠ .null := by
  cases document <;> simp_all [canonical]

theorem received_ne_null {document : Json} (present : document ≠ .null) :
    document.received ≠ .null := by
  cases document <;> simp_all [received]

end Json

/-- A value without a type, as it is kept: in canonical form, readable in all its parts, and not
    null. -/
structure FreeForm (document : Json) : Prop where
  readable : document.isReadable
  canonical : document.canonical = document
  present : document ≠ .null

namespace FreeForm

theorem of_readFree {document value : Json} (present : document ≠ .null)
    (reading : readFree document = some value) : FreeForm value := by
  unfold NginxFleet.readFree at reading
  split at reading
  · rename_i readable
    cases reading
    exact ⟨Json.isReadable_canonical document readable, Json.canonical_canonical document,
      Json.canonical_ne_null present⟩
  · cases reading

theorem readFree {document : Json} (kept : FreeForm document) :
    readFree document = some document := by
  unfold NginxFleet.readFree
  rw [if_pos kept.readable, kept.canonical]

theorem received {document : Json} (kept : FreeForm document) : FreeForm document.received where
  readable := by rw [Json.isReadable_received]; exact kept.readable
  canonical := by rw [Json.canonical_received, kept.canonical]
  present := Json.received_ne_null kept.present

end FreeForm

end NginxFleet
