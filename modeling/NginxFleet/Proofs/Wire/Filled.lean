/-
Module: NginxFleet.Proofs.Wire.Filled
Layer: Proofs
Purpose: Documents in which a server filled in what was left unset. What is set stays: texts, numbers
  and flags as they are, lists in their length, objects in their members. What stays can be read off
  the filled document field by field, however much was filled in beside it.
Main exports: Json.field, Json.FilledBy, Json.FilledBy.received, Json.FilledBy.optional,
  Json.FilledBy.readList, Json.FilledBy.textMap
-/
import NginxFleet.Proofs.Wire.Record

namespace NginxFleet.Json

/-- The value of a key, null if there is none. -/
def field (key : String) (members : List (String × Json)) : Json :=
  ((occurrences key members).getLast?).getD .null

/-- A document is another one with values filled in where it is unset, that is null or missing. -/
inductive FilledBy : Json → Json → Prop where
  | unset (document : Json) : FilledBy .null document
  | same (document : Json) : FilledBy document document
  | items {items filled : List Json} (length : filled.length = items.length)
      (each : ∀ index : Nat, FilledBy (items[index]?.getD .null) (filled[index]?.getD .null)) :
      FilledBy (.arr items) (.arr filled)
  | members {members filled : List (String × Json)}
      (each : ∀ key, FilledBy (field key members) (field key filled)) :
      FilledBy (.obj members) (.obj filled)

/-- The value that a record gives for a key, null if it is not set. -/
def given (key : String) (known : List (String × Option Json)) : Json :=
  ((known.lookup key).getD none).getD .null

/-- A record that names each key once has the values that it gives. -/
theorem field_setMembers {known : List (String × Option Json)}
    (distinct : (known.map Prod.fst).Nodup) (key : String) :
    field key (setMembers known) = given key known := by
  unfold field given
  induction known with
  | nil => rfl
  | cons entry rest ih =>
      obtain ⟨name, value⟩ := entry
      obtain ⟨absent, later⟩ := List.nodup_cons.mp distinct
      rw [occurrences_setMembers_cons, KeyMap.lookup_entry_cons]
      by_cases same : name = key
      · have none : occurrences key (setMembers rest) = [] := by
          apply occurrences_eq_nil
          intro found
          exact absent (same ▸ mem_keys_setMembers found)
        cases value <;> simp [same, none]
      · rw [if_neg same, if_neg (Ne.symm same), List.nil_append]
        exact ih later

theorem field_membersReceived (key : String) (members : List (String × Json)) :
    field key (membersReceived members) = (field key members).received := by
  unfold field
  rw [occurrences_membersReceived, List.getLast?_map]
  cases (occurrences key members).getLast? <;> rfl

namespace FilledBy

/-- What was filled in stays filled in on the way over the wire. -/
theorem received {body document : Json} (filled : FilledBy body document) :
    FilledBy body.received document.received := by
  induction filled with
  | unset document => exact .unset _
  | same document => exact .same _
  | items length each ih =>
      simp only [Json.received, itemsReceived_eq_map]
      refine .items (by simpa using length) ?_
      intro index
      have item : ∀ items : List Json,
          (items.map Json.received)[index]?.getD .null = (items[index]?.getD .null).received := by
        intro items
        rw [List.getElem?_map]
        cases items[index]? <;> rfl
      rw [item, item]
      exact ih index
  | members each ih =>
      simp only [Json.received]
      refine .members ?_
      intro key
      rw [field_membersReceived, field_membersReceived]
      exact ih key

/-!
### What stays
-/

variable {document : Json}

theorem eq_of_str {text : String} (filled : FilledBy (.str text) document) :
    document = .str text := by
  cases filled
  rfl

theorem eq_of_int {value : Int} (filled : FilledBy (.int value) document) :
    document = .int value := by
  cases filled
  rfl

theorem eq_of_bool {flag : Bool} (filled : FilledBy (.bool flag) document) :
    document = .bool flag := by
  cases filled
  rfl

theorem ne_null {body : Json} (filled : FilledBy body document) (present : body ≠ .null) :
    document ≠ .null := by
  cases filled with
  | unset => exact absurd rfl present
  | same => exact present
  | items => simp
  | members => simp

theorem of_obj {members : List (String × Json)} (filled : FilledBy (.obj members) document) :
    ∃ fields, document = .obj fields ∧ ∀ key, FilledBy (field key members) (field key fields) := by
  cases filled with
  | same => exact ⟨members, rfl, fun _ => .same _⟩
  | members each => exact ⟨_, rfl, each⟩

theorem of_record {known : List (String × Option Json)} (distinct : (known.map Prod.fst).Nodup)
    (filled : FilledBy (record known) document) :
    ∃ fields, document = .obj fields ∧ ∀ key, FilledBy (given key known) (field key fields) := by
  obtain ⟨fields, same, each⟩ := filled.of_obj
  refine ⟨fields, same, ?_⟩
  intro key
  rw [← field_setMembers distinct key]
  exact each key

theorem of_arr_nil (filled : FilledBy (.arr []) document) : document = .arr [] := by
  cases filled with
  | same => rfl
  | items length each => simpa using length

theorem of_arr_cons {item : Json} {items : List Json}
    (filled : FilledBy (.arr (item :: items)) document) :
    ∃ first rest, document = .arr (first :: rest) ∧ FilledBy item first ∧
      FilledBy (.arr items) (.arr rest) := by
  cases filled with
  | same => exact ⟨item, items, rfl, .same _, .same _⟩
  | @items _ filled length each =>
      cases filled with
      | nil => simp at length
      | cons first rest =>
          refine ⟨first, rest, rfl, each 0, .items (by simpa using length) ?_⟩
          intro index
          exact each (index + 1)

end FilledBy

/-!
### Reading a filled document

A reader finds what was set. What it makes of a value may show in a part of it only, so lists are
compared by what is seen of their items.
-/

section Reading

variable {α β : Type} {read : Json → Option α} {key : String}
  {members fields : List (String × Json)}

/-- What is read of a member that may be missing is read in its value. -/
theorem readNullable_field {value : Option α} (reading : optional read key members = some value) :
    readNullable read (field key members) = some value := by
  unfold field
  cases last : (occurrences key members).getLast? with
  | none => rw [optional_of_last_none reading last]; rfl
  | some document => exact last_of_optional reading last

namespace FilledBy

/-- A member that was set is read in the value that it has now. -/
theorem optional {written : Json} {value : Option α}
    (filled : FilledBy written (field key fields)) (present : written ≠ .null)
    (reading : Json.optional read key fields = some value) :
    ∃ found, value = some found ∧ read (field key fields) = some found := by
  have nullable := readNullable_field reading
  have there := filled.ne_null present
  cases document : field key fields with
  | null => exact absurd document there
  | _ =>
      rw [document] at nullable
      obtain ⟨found, read, rfl⟩ := Option.map_eq_some_iff.mp nullable
      exact ⟨found, rfl, read⟩

theorem orElse {written : Json} {default value : α}
    (filled : FilledBy written (field key fields)) (present : written ≠ .null)
    (reading : Json.orElse read default key fields = some value) :
    read (field key fields) = some value := by
  obtain ⟨optional, found, rfl⟩ := Option.map_eq_some_iff.mp reading
  obtain ⟨value, rfl, read⟩ := filled.optional present found
  exact read

theorem text {text : String} {value : Option String}
    (filled : FilledBy (.str text) (field key fields))
    (reading : Json.optional readText key fields = some value) : value = some text := by
  obtain ⟨found, rfl, read⟩ := filled.optional (by simp) reading
  rw [filled.eq_of_str] at read
  exact read.symm

theorem textOrElse {text default value : String}
    (filled : FilledBy (.str text) (field key fields))
    (reading : Json.orElse readText default key fields = some value) : value = text := by
  have read := filled.orElse (by simp) reading
  rw [filled.eq_of_str] at read
  exact (Option.some.inj read).symm

theorem flag {flag : Bool} {value : Option Bool}
    (filled : FilledBy (.bool flag) (field key fields))
    (reading : Json.optional readFlag key fields = some value) : value = some flag := by
  obtain ⟨found, rfl, read⟩ := filled.optional (by simp) reading
  rw [filled.eq_of_bool] at read
  exact read.symm

theorem int32 {number : Int32} {value : Option Int32}
    (filled : FilledBy (ofInt32 number) (field key fields))
    (reading : Json.optional readInt32 key fields = some value) : value = some number := by
  obtain ⟨found, rfl, read⟩ := filled.optional (by simp [ofInt32]) reading
  have same : field key fields = ofInt32 number := filled.eq_of_int
  rw [same, readInt32_ofInt32] at read
  exact read.symm

theorem int32OrElse {number default value : Int32}
    (filled : FilledBy (ofInt32 number) (field key fields))
    (reading : Json.orElse readInt32 default key fields = some value) : value = number := by
  have read := filled.orElse (by simp [ofInt32]) reading
  have same : field key fields = ofInt32 number := filled.eq_of_int
  rw [same, readInt32_ofInt32] at read
  exact (Option.some.inj read).symm

/-- What is seen of the items of a list stays, if what is seen of each item of the same shape does. -/
theorem readList {γ : Type} {write : α → Json} {shape : α → γ} {see : α → β}
    {items values : List α} {document : Json}
    (filled : FilledBy (ofList write items) document)
    (reading : Json.readList read document = some values)
    (shapes : values.map shape = items.map shape)
    (each : ∀ item ∈ items, ∀ document value, FilledBy (write item) document →
      read document = some value → shape value = shape item → see value = see item) :
    values.map see = items.map see := by
  induction items generalizing values document with
  | nil =>
      rw [filled.of_arr_nil] at reading
      cases reading
      rfl
  | cons item items ih =>
      obtain ⟨first, rest, rfl, head, tail⟩ := filled.of_arr_cons
      simp only [Json.readList, readAll] at reading
      split at reading
      · rename_i value others found later
        cases reading
        obtain ⟨sameShape, sameShapes⟩ := List.cons_eq_cons.mp shapes
        have seen := each item List.mem_cons_self first value head found sameShape
        have others := ih tail later sameShapes fun item member =>
          each item (List.mem_cons_of_mem _ member)
        rw [List.map_cons, List.map_cons, seen, others]
      · cases reading

end FilledBy

end Reading

/-!
### Maps of texts

Of several values for a key the last one counts. A map is as it was if no key was added to it.
-/

theorem get?_foldl_insert {α : Type} {read : Json → Option α} (key : String)
    {members : List (String × Json)} {entries : List (String × α)} (map : KeyMap α)
    (reading : readAll (readEntry read) members = some entries) :
    (entries.foldl (fun map entry => map.insert entry.1 entry.2) map).get? key =
      match (occurrences key members).getLast? with
      | some document => read document
      | none => map.get? key := by
  induction members generalizing entries map with
  | nil =>
      cases reading
      rfl
  | cons member rest ih =>
      simp only [readAll] at reading
      split at reading
      · rename_i entry others found later
        cases reading
        obtain ⟨value, given, rfl⟩ := Option.map_eq_some_iff.mp found
        rw [List.foldl_cons, ih _ later]
        by_cases same : member.1 = key
        · have all : occurrences key (member :: rest) = member.2 :: occurrences key rest := by
            simp [occurrences, same]
          rw [all, List.getLast?_cons]
          cases last : (occurrences key rest).getLast? with
          | none => simp [KeyMap.get?_insert, same, given]
          | some document => rfl
        · have all : occurrences key (member :: rest) = occurrences key rest := by
            simp [occurrences, same]
          rw [all]
          cases last : (occurrences key rest).getLast? with
          | none => simp [KeyMap.get?_insert, Ne.symm same]
          | some document => rfl
      · cases reading

theorem readMap_get? {α : Type} {read : Json → Option α} {members : List (String × Json)}
    {map : KeyMap α} (reading : readMap read (.obj members) = some map) (key : String) :
    map.get? key = (occurrences key members).getLast?.bind read := by
  obtain ⟨entries, all, rfl⟩ := Option.map_eq_some_iff.mp reading
  have found := get?_foldl_insert key KeyMap.empty all
  rw [KeyMap.ofList, found]
  cases (occurrences key members).getLast? <;> rfl

theorem field_ofTextMap (map : KeyMap String) {key text : String} (found : map.get? key = some text) :
    field key (map.entries.map (writeEntry .str)) = .str text := by
  have reading : readMap readText (.obj (map.entries.map (writeEntry .str))) = some map :=
    readMap_ofTextMap map
  have last := readMap_get? reading key
  rw [found] at last
  obtain ⟨document, given, read⟩ := Option.bind_eq_some_iff.mp last.symm
  unfold field
  rw [given]
  cases document with
  | str value =>
      cases read
      rfl
  | _ => cases read

/-- A map of texts to which no key was added is the map that was written. -/
theorem FilledBy.textMap {map kept : KeyMap String} {document : Json}
    (filled : FilledBy (ofTextMap map) document) (reading : readMap readText document = some kept)
    (keys : kept.entries.map Prod.fst = map.entries.map Prod.fst) : kept = map := by
  obtain ⟨fields, rfl, each⟩ := filled.of_obj
  apply KeyMap.ext_get?
  intro key
  cases found : map.get? key with
  | none =>
      have absent := KeyMap.lookup_eq_none_iff.mp found
      rw [← keys] at absent
      exact KeyMap.lookup_eq_none_iff.mpr absent
  | some text =>
      have stays := each key
      rw [field_ofTextMap map found] at stays
      have given := stays.eq_of_str
      rw [readMap_get? reading key]
      unfold field at given
      cases last : (occurrences key fields).getLast? with
      | none => simp [last] at given
      | some value =>
          rw [last] at given
          cases given
          rfl

end NginxFleet.Json
