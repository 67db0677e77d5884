/-
Module: NginxFleet.Proofs.Wire.Record
Layer: Proofs
Purpose: What is read in a record that was written field by field. A reader looks only at the values
  given for each key, so a record is read back as soon as each of its fields is. What goes over the
  wire keeps the keys, and changes values at floating point numbers only.
Main exports: occurrences_withKey, received_record, received_eq_self, readLast, optional_eq_readLast,
  mem_of_optional, of_optional
-/
import NginxFleet.Json.Edit
import NginxFleet.Json.Received
import NginxFleet.Json.Reader

namespace NginxFleet.Json

/-!
### The values given for a key
-/

theorem occurrences_append (key : String) (front back : List (String × Json)) :
    occurrences key (front ++ back) = occurrences key front ++ occurrences key back := by
  simp [occurrences, List.filterMap_append]

theorem occurrences_eq_nil {key : String} {members : List (String × Json)}
    (absent : key ∉ members.map Prod.fst) : occurrences key members = [] := by
  unfold occurrences
  rw [List.filterMap_eq_nil_iff]
  intro member found
  have other : member.1 ≠ key := by
    intro same
    exact absent (List.mem_map.mpr ⟨member, found, same⟩)
  rw [if_neg other]

theorem mem_keys_setMembers {key : String} {fields : List (String × Option Json)}
    (found : key ∈ (setMembers fields).map Prod.fst) : key ∈ fields.map Prod.fst := by
  induction fields with
  | nil => exact found
  | cons field rest ih =>
      obtain ⟨name, value⟩ := field
      cases value with
      | none => exact List.mem_cons_of_mem _ (ih found)
      | some document =>
          rcases List.mem_cons.mp found with rfl | later
          · exact List.mem_cons_self
          · exact List.mem_cons_of_mem _ (ih later)

theorem occurrences_withoutKey (key other : String) (members : List (String × Json)) :
    occurrences other (withoutKey key members) =
      if other = key then [] else occurrences other members := by
  induction members with
  | nil => simp [withoutKey, occurrences]
  | cons member rest ih =>
      unfold withoutKey occurrences at *
      by_cases kept : member.1 = key
      · by_cases same : other = key
        · simp_all
        · have different : member.1 ≠ other := by
            rintro rfl
            exact same kept
          simp_all
      · by_cases same : other = key
        · subst same
          simp_all
        · simp_all [List.filterMap_cons]

/-- Setting a member gives one value for its key and leaves the values for any other key. -/
theorem occurrences_withKey (key other : String) (value : Json) (members : List (String × Json)) :
    occurrences other (withKey key value members) =
      if other = key then [value] else occurrences other members := by
  rw [withKey, occurrences_append, occurrences_withoutKey]
  by_cases same : other = key
  · simp [same, occurrences]
  · have different : key ≠ other := fun equal => same equal.symm
    simp [same, different, occurrences]

/-!
### What is received
-/

theorem membersReceived_eq_map (members : List (String × Json)) :
    membersReceived members = members.map fun member => (member.1, member.2.received) := by
  induction members with
  | nil => rfl
  | cons member rest ih => rw [membersReceived, ih, List.map_cons]

theorem itemsReceived_eq_map (items : List Json) : itemsReceived items = items.map received := by
  induction items with
  | nil => rfl
  | cons item rest ih => rw [itemsReceived, ih, List.map_cons]

theorem membersReceived_append (front back : List (String × Json)) :
    membersReceived (front ++ back) = membersReceived front ++ membersReceived back := by
  simp [membersReceived_eq_map]

theorem occurrences_membersReceived (key : String) (members : List (String × Json)) :
    occurrences key (membersReceived members) = (occurrences key members).map received := by
  induction members with
  | nil => rfl
  | cons member rest ih =>
      unfold occurrences at *
      by_cases same : member.1 = key <;> simp [membersReceived, same, ih]

theorem membersReceived_setMembers (fields : List (String × Option Json)) :
    membersReceived (setMembers fields) =
      setMembers (fields.map fun field => (field.1, field.2.map received)) := by
  induction fields with
  | nil => rfl
  | cons field rest ih =>
      obtain ⟨name, value⟩ := field
      cases value <;> simp [setMembers, membersReceived, ih]

@[simp] theorem received_record (fields : List (String × Option Json)) :
    (record fields).received =
      record (fields.map fun field => (field.1, field.2.map received)) := by
  simp only [record, received, membersReceived_setMembers]

@[simp] theorem received_str (text : String) : (Json.str text).received = .str text := rfl

@[simp] theorem received_bool (flag : Bool) : (Json.bool flag).received = .bool flag := rfl

@[simp] theorem received_ofInt32 (n : Int32) : (ofInt32 n).received = ofInt32 n := rfl

@[simp] theorem received_ofInt64 (n : Int64) : (ofInt64 n).received = ofInt64 n := rfl

@[simp] theorem received_ofList {α : Type} (write : α → Json) (items : List α) :
    (ofList write items).received = ofList (fun item => (write item).received) items := by
  simp [ofList, received, itemsReceived_eq_map]

@[simp] theorem received_ofTextMap (map : KeyMap String) :
    (ofTextMap map).received = ofTextMap map := by
  simp only [ofTextMap, ofMap, received, membersReceived_eq_map, List.map_map]
  rfl

theorem membersReceived_withoutKey (key : String) (members : List (String × Json)) :
    membersReceived (withoutKey key members) = withoutKey key (membersReceived members) := by
  simp [membersReceived_eq_map, withoutKey, List.filter_map, Function.comp_def]

theorem membersReceived_withKey (key : String) (value : Json) (members : List (String × Json)) :
    membersReceived (withKey key value members) =
      withKey key value.received (membersReceived members) := by
  simp [withKey, membersReceived_append, membersReceived_withoutKey, membersReceived]

theorem received_setMember (key : String) (value document : Json) :
    (setMember key value document).received = setMember key value.received document.received := by
  cases document <;> simp [setMember, received, membersReceived_withKey]

mutual

/-- The floating point numbers in a document. -/
def floats : Json → List Binary64
  | .float value => [value]
  | .arr items => itemsFloats items
  | .obj members => membersFloats members
  | .null | .bool _ | .int _ | .str _ | .unreadable => []

/-- The floating point numbers in items. -/
def itemsFloats : List Json → List Binary64
  | [] => []
  | item :: rest => floats item ++ itemsFloats rest

/-- The floating point numbers in the values of members. -/
def membersFloats : List (String × Json) → List Binary64
  | [] => []
  | (_, value) :: rest => floats value ++ membersFloats rest

end

mutual

/-- A document is received as it was sent if each floating point number in it is. -/
theorem received_eq_self : (document : Json) → (∀ x ∈ document.floats, x.received = x) →
    document.received = document
  | .float value, exact_ => by rw [received, exact_ value (List.mem_singleton_self value)]
  | .arr items, exact_ => by rw [received, itemsReceived_eq_self items exact_]
  | .obj members, exact_ => by rw [received, membersReceived_eq_self members exact_]
  | .null, _ | .bool _, _ | .int _, _ | .str _, _ | .unreadable, _ => rfl

theorem itemsReceived_eq_self : (items : List Json) → (∀ x ∈ itemsFloats items, x.received = x) →
    itemsReceived items = items
  | [], _ => rfl
  | item :: rest, exact_ => by
      obtain ⟨first, later⟩ := List.forall_mem_append.mp exact_
      rw [itemsReceived, received_eq_self item first, itemsReceived_eq_self rest later]

theorem membersReceived_eq_self : (members : List (String × Json)) →
    (∀ x ∈ membersFloats members, x.received = x) → membersReceived members = members
  | [], _ => rfl
  | (key, value) :: rest, exact_ => by
      obtain ⟨first, later⟩ := List.forall_mem_append.mp exact_
      rw [membersReceived, received_eq_self value first, membersReceived_eq_self rest later]

end

/-!
### Reading what was written

A reader of a member that may be missing sees the values given for its key, and a written field gives
at most one. Each pair of a reader and its writer has a lemma that reads a written field back, so a
record is read back by rewriting.
-/

section Written

variable {α : Type} {read : Json → Option α} {write : α → Json} {value : Option α}

/-- What a member that may be missing is read as, from the values given for its key. -/
def readLast (read : Json → Option α) (documents : List Json) : Option (Option α) :=
  (readAll (readNullable read) documents).map fun values => values.getLast?.join

theorem optional_eq_readLast (read : Json → Option α) (key : String)
    (members : List (String × Json)) :
    optional read key members = readLast read (occurrences key members) := rfl

theorem readLast_written (reads : ∀ x ∈ value, readNullable read (write x) = some (some x)) :
    readLast read (value.map write).toList = some value := by
  cases value with
  | none => rfl
  | some x => simp [readLast, readAll, reads x rfl]

theorem readLast_single {document : Json} {x : α}
    (reads : readNullable read document = some (some x)) :
    readLast read [document] = some (some x) := by
  simp [readLast, readAll, reads]

theorem readNullable_of_present {document : Json} {x : α} (present : document ≠ .null)
    (reading : read document = some x) : readNullable read document = some (some x) := by
  cases document with
  | null => exact absurd rfl present
  | _ => simp [readNullable, reading]

@[simp] theorem readAll_single (document : Json) :
    readAll read [document] = (read document).map fun x => [x] := by
  cases reading : read document <;> simp [readAll, reading]

@[simp] theorem readLast_text (value : Option String) :
    readLast readText (value.map .str).toList = some value :=
  readLast_written fun _ _ => rfl

@[simp] theorem readLast_str (text : String) :
    readLast readText [.str text] = some (some text) := rfl

@[simp] theorem readLast_flag (value : Option Bool) :
    readLast readFlag (value.map .bool).toList = some value :=
  readLast_written fun _ _ => rfl

@[simp] theorem readLast_int32 (value : Option Int32) :
    readLast readInt32 (value.map ofInt32).toList = some value :=
  readLast_written fun _ _ => readNullable_of_some rfl (readInt32_ofInt32 _)

@[simp] theorem readLast_ofInt32 (n : Int32) :
    readLast readInt32 [ofInt32 n] = some (some n) :=
  readLast_single (readNullable_of_some rfl (readInt32_ofInt32 n))

@[simp] theorem readLast_int64 (value : Option Int64) :
    readLast readInt64 (value.map ofInt64).toList = some value :=
  readLast_written fun _ _ => readNullable_of_some rfl (readInt64_ofInt64 _)

@[simp] theorem readLast_textMap (value : Option (KeyMap String)) :
    readLast (readMap readText) (value.map ofTextMap).toList = some value :=
  readLast_written fun _ _ => readNullable_of_some rfl (readMap_ofTextMap _)

@[simp] theorem readLast_texts (value : Option (List String)) :
    readLast (readList readText) (value.map (ofList .str)).toList = some value :=
  readLast_written fun _ _ => readNullable_of_some rfl (readList_ofList fun _ _ => rfl)

/-- A list of records is read back, if each of them is. -/
theorem readLast_list {value : Option (List α)}
    (reads : ∀ items ∈ value, ∀ item ∈ items, read (write item) = some item) :
    readLast (readList read) (value.map (ofList write)).toList = some value :=
  readLast_written fun items found =>
    readNullable_of_some rfl (readList_ofList (reads items found))

/-- A record is read back where it is written, if it is when it stands alone. -/
theorem readLast_record (null : read .null = none)
    (reads : ∀ x ∈ value, read (write x) = some x) :
    readLast read (value.map write).toList = some value :=
  readLast_written fun x found => readNullable_of_some null (reads x found)

end Written

theorem optional_withKey_self {α : Type} {read : Json → Option α} {value : Json} {x : α}
    (reads : readNullable read value = some (some x)) (key : String)
    (members : List (String × Json)) :
    optional read key (withKey key value members) = some (some x) := by
  rw [optional_eq_readLast, occurrences_withKey, if_pos rfl]
  exact readLast_single reads

theorem optional_withKey_of_ne {α : Type} (read : Json → Option α) {key other : String}
    (different : other ≠ key) (value : Json) (members : List (String × Json)) :
    optional read other (withKey key value members) = optional read other members := by
  rw [optional_eq_readLast, occurrences_withKey, if_neg different, ← optional_eq_readLast]

theorem orElse_withKey_self {α : Type} {read : Json → Option α} {default x : α} {value : Json}
    (reads : readNullable read value = some (some x)) (key : String)
    (members : List (String × Json)) :
    orElse read default key (withKey key value members) = some x := by
  simp [orElse, optional_withKey_self reads]

theorem strictMembers_obj {names : List String} {members : List (String × Json)} (least : Nat)
    (once : ∀ name ∈ names, (occurrences name members).length ≤ 1) :
    strictMembers names least (.obj members) = some members := by
  unfold strictMembers
  have all : (names.all fun name => decide ((occurrences name members).length ≤ 1)) = true := by
    simpa using once
  exact if_pos all

theorem identified_eq_some_iff {apiVersion kind : String} {members known : List (String × Json)} :
    identified apiVersion kind (.obj members) = some known ↔
      known = members ∧ (∀ value ∈ occurrences "apiVersion" members, value = .str apiVersion) ∧
        ∀ value ∈ occurrences "kind" members, value = .str kind := by
  unfold identified
  simp only [openMembers, Option.bind_eq_bind, Option.bind_some]
  constructor
  · intro identity
    split at identity
    · rename_i fits
      cases identity
      simpa using fits
    · cases identity
  · rintro ⟨rfl, versions, kinds⟩
    rw [if_pos]
    simpa using ⟨versions, kinds⟩

/-- What an object is does not change when another member is set. -/
theorem identified_withKey {apiVersion kind : String} {members known : List (String × Json)}
    {key : String} (version : key ≠ "apiVersion") (sort : key ≠ "kind") (value : Json)
    (identity : identified apiVersion kind (.obj members) = some known) :
    identified apiVersion kind (.obj (withKey key value members)) =
      some (withKey key value members) := by
  obtain ⟨-, versions, kinds⟩ := identified_eq_some_iff.mp identity
  refine identified_eq_some_iff.mpr ⟨rfl, ?_, ?_⟩
  · rw [occurrences_withKey, if_neg version.symm]
    exact versions
  · rw [occurrences_withKey, if_neg sort.symm]
    exact kinds

/-!
### Reading one value

What a reader found, for a key that is given once and not as null.
-/

section Single

variable {α : Type} {read : Json → Option α} {key : String} {members : List (String × Json)}
  {document : Json}

theorem required_single (single : occurrences key members = [document]) :
    required read key members = read document := by
  unfold required
  rw [single]
  cases reading : read document <;> simp [readAll, reading]

theorem optional_absent (absent : occurrences key members = []) :
    optional read key members = some none := by
  simp [optional, absent, readAll]

end Single

/-!
### The last value counts
-/

section Last

variable {α β : Type}

theorem getLast?_readAll {read : β → Option α} {items : List β} {values : List α}
    (reading : readAll read items = some values) :
    items.getLast?.map read = values.getLast?.map some := by
  induction items generalizing values with
  | nil =>
      cases reading
      rfl
  | cons item rest ih =>
      simp only [readAll] at reading
      split at reading
      · rename_i first others head tail
        cases reading
        have last := ih tail
        cases rest with
        | nil =>
            cases tail
            simp [head]
        | cons next later =>
            cases others with
            | nil =>
                simp only [readAll] at tail
                split at tail <;> cases tail
            | cons second remaining => simpa using last
      · cases reading

/-- A member that may be missing is read as its last value is, if there is one. -/
theorem last_of_optional {read : Json → Option α} {key : String}
    {members : List (String × Json)} {value : Option α} {document : Json}
    (reading : optional read key members = some value)
    (last : (occurrences key members).getLast? = some document) :
    readNullable read document = some value := by
  obtain ⟨values, all, rfl⟩ := Option.map_eq_some_iff.mp reading
  have agree := getLast?_readAll all
  rw [last] at agree
  cases found : values.getLast? with
  | none => simp [found] at agree
  | some x => simpa [found] using agree

theorem optional_of_last_none {read : Json → Option α} {key : String}
    {members : List (String × Json)} {value : Option α}
    (reading : optional read key members = some value)
    (last : (occurrences key members).getLast? = none) : value = none := by
  obtain ⟨values, all, rfl⟩ := Option.map_eq_some_iff.mp reading
  have agree := getLast?_readAll all
  rw [last] at agree
  cases found : values.getLast? with
  | none => rfl
  | some x => simp [found] at agree

/-- A member that must be there is read as its last value is. -/
theorem last_of_required {read : Json → Option α} {key : String}
    {members : List (String × Json)} {value : α}
    (reading : required read key members = some value) :
    ∃ document, (occurrences key members).getLast? = some document ∧
      read document = some value := by
  obtain ⟨values, all, found⟩ := Option.bind_eq_some_iff.mp reading
  have agree := getLast?_readAll all
  rw [found] at agree
  obtain ⟨document, last, reads⟩ := Option.map_eq_some_iff.mp agree
  exact ⟨document, last, reads⟩

end Last

/-!
### What holds of all that is read
-/

section Range

variable {α β : Type}

theorem mem_of_readAll {read : β → Option α} {items : List β} {values : List α}
    (reading : readAll read items = some values) {value : α} (among : value ∈ values) :
    ∃ item ∈ items, read item = some value := by
  induction items generalizing values with
  | nil =>
      cases reading
      cases among
  | cons item rest ih =>
      simp only [readAll] at reading
      split at reading
      · rename_i first others head tail
        cases reading
        rcases List.mem_cons.mp among with rfl | later
        · exact ⟨item, List.mem_cons_self, head⟩
        · obtain ⟨source, found, read⟩ := ih tail later
          exact ⟨source, List.mem_cons_of_mem _ found, read⟩
      · cases reading

theorem of_readAll {read : β → Option α} {P : α → Prop} (holds : ∀ x y, read x = some y → P y)
    {items : List β} {values : List α} (reading : readAll read items = some values) :
    ∀ value ∈ values, P value := by
  intro value among
  obtain ⟨item, -, read⟩ := mem_of_readAll reading among
  exact holds item value read

theorem readAll_isSome {read : β → Option α} {items : List β}
    (readable : ∀ item ∈ items, (read item).isSome) : (readAll read items).isSome := by
  induction items with
  | nil => rfl
  | cons item rest ih =>
      obtain ⟨value, head⟩ := Option.isSome_iff_exists.mp (readable item List.mem_cons_self)
      obtain ⟨values, tail⟩ := Option.isSome_iff_exists.mp
        (ih fun later found => readable later (List.mem_cons_of_mem _ found))
      simp [readAll, head, tail]

theorem mem_of_mem_occurrences {key : String} {members : List (String × Json)} {value : Json}
    (among : value ∈ occurrences key members) : (key, value) ∈ members := by
  obtain ⟨⟨name, given⟩, inside, found⟩ := List.mem_filterMap.mp among
  split at found
  · rename_i same
    cases found
    exact same ▸ inside
  · cases found

/-- A member that is set is read in a value that is given for its key and is not null. -/
theorem mem_of_optional {read : Json → Option α} {key : String} {members : List (String × Json)}
    {x : α} (reading : optional read key members = some (some x)) :
    ∃ document ∈ occurrences key members, document ≠ .null ∧ read document = some x := by
  cases last : (occurrences key members).getLast? with
  | none => cases optional_of_last_none reading last
  | some document =>
      have nullable := last_of_optional reading last
      refine ⟨document, List.mem_of_getLast? last, ?_⟩
      cases document with
      | null => cases nullable
      | _ =>
          obtain ⟨y, plain, same⟩ := Option.map_eq_some_iff.mp nullable
          cases same
          exact ⟨by simp, plain⟩

theorem of_optional {read : Json → Option α} {P : α → Prop}
    (holds : ∀ document x, document ≠ .null → read document = some x → P x) {key : String}
    {members : List (String × Json)} {value : Option α}
    (reading : optional read key members = some value) : ∀ x ∈ value, P x := by
  intro x given
  cases given
  obtain ⟨document, -, present, read⟩ := mem_of_optional reading
  exact holds document x present read

theorem of_orElse {read : Json → Option α} {P : α → Prop}
    (holds : ∀ document x, document ≠ .null → read document = some x → P x) {default : α}
    (fallback : P default) {key : String} {members : List (String × Json)} {value : α}
    (reading : orElse read default key members = some value) : P value := by
  obtain ⟨found, optional, rfl⟩ := Option.map_eq_some_iff.mp reading
  cases found with
  | none => exact fallback
  | some x => exact of_optional holds optional x rfl

theorem of_readList {read : Json → Option α} {P : α → Prop}
    (holds : ∀ document x, read document = some x → P x) {document : Json} {values : List α}
    (reading : readList read document = some values) : ∀ value ∈ values, P value := by
  cases document with
  | arr items => exact of_readAll holds reading
  | _ => cases reading

end Range

end NginxFleet.Json
