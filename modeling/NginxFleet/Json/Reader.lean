/-
Module: NginxFleet.Json.Reader
Layer: Json
Purpose: Reading typed values out of documents, and writing them. There are two kinds of records. An
  open record is an object whose unknown members are ignored; a member that is null counts as not
  set, one that is given several times must be readable each time and counts with its last value. A
  strict record refuses a known member that is given twice, and may also be written as the list of
  its fields in order.
Main exports: readText, readInt32, readList, readMap, optional, orElse, required, openMembers,
  strictMembers, identified
-/
import NginxFleet.Json.Basic

namespace NginxFleet.Json

/-!
### Values
-/

/-- A string. -/
def readText : Json → Option String
  | .str s => some s
  | _ => none

/-- A truth value. -/
def readFlag : Json → Option Bool
  | .bool b => some b
  | _ => none

/-- A whole number that fits 32 bits with a sign. -/
def readInt32 : Json → Option Int32
  | .int i => if -2147483648 ≤ i ∧ i < 2147483648 then some (Int32.ofInt i) else none
  | _ => none

/-- A whole number that fits 64 bits with a sign. -/
def readInt64 : Json → Option Int64
  | .int i =>
    if -9223372036854775808 ≤ i ∧ i < 9223372036854775808 then some (Int64.ofInt i) else none
  | _ => none

/-- The readings of all elements of a list, if each can be read. -/
def readAll {α β : Type} (read : α → Option β) : List α → Option (List β)
  | [] => some []
  | x :: xs =>
    match read x, readAll read xs with
    | some y, some ys => some (y :: ys)
    | _, _ => none

/-- A list whose items can all be read. -/
def readList {α : Type} (read : Json → Option α) : Json → Option (List α)
  | .arr items => readAll read items
  | _ => none

/-- An entry of a map, if its value can be read. -/
def readEntry {α : Type} (read : Json → Option α) (member : String × Json) :
    Option (String × α) :=
  (read member.2).map fun value => (member.1, value)

/-- A map whose values can all be read. -/
def readMap {α : Type} (read : Json → Option α) : Json → Option (KeyMap α)
  | .obj members => (readAll (readEntry read) members).map KeyMap.ofList
  | _ => none

/-- A value that may be null. -/
def readNullable {α : Type} (read : Json → Option α) : Json → Option (Option α)
  | .null => some none
  | document => (read document).map some

/-- The member for an entry of a map. -/
def writeEntry {α : Type} (write : α → Json) (entry : String × α) : String × Json :=
  (entry.1, write entry.2)

/-- The document of a map. -/
def ofMap {α : Type} (write : α → Json) (map : KeyMap α) : Json :=
  .obj (map.entries.map (writeEntry write))

/-- The document of a list. -/
def ofList {α : Type} (write : α → Json) (items : List α) : Json :=
  .arr (items.map write)

/-- The document of a number of 32 bits. -/
def ofInt32 (n : Int32) : Json := .int n.toInt

/-- The document of a number of 64 bits. -/
def ofInt64 (n : Int64) : Json := .int n.toInt

/-- The document of a map from names to texts. -/
def ofTextMap (map : KeyMap String) : Json := ofMap .str map

/-!
### Records
-/

/-- The members of an open record. -/
def openMembers : Json → Option (List (String × Json))
  | .obj members => some members
  | _ => none

/-- The members of a strict record with the given fields, of which the first `least` cannot be left
    out of a list. -/
def strictMembers (names : List String) (least : Nat) : Json → Option (List (String × Json))
  | .obj members =>
    if names.all fun name => (occurrences name members).length ≤ 1 then some members else none
  | .arr items =>
    if least ≤ items.length ∧ items.length ≤ names.length then some (names.zip items) else none
  | _ => none

/-- A member that may be missing or null. -/
def optional {α : Type} (read : Json → Option α) (key : String)
    (members : List (String × Json)) : Option (Option α) :=
  (readAll (readNullable read) (occurrences key members)).map fun values => values.getLast?.join

/-- A member of an open record that has a default when it is missing or null. -/
def orElse {α : Type} (read : Json → Option α) (default : α) (key : String)
    (members : List (String × Json)) : Option α :=
  (optional read key members).map fun value => value.getD default

/-- A member that must be there, and must be readable each time it is given. -/
def required {α : Type} (read : Json → Option α) (key : String)
    (members : List (String × Json)) : Option α :=
  (readAll read (occurrences key members)).bind List.getLast?

/-- A member that has a default when it is missing, but not when it is null. -/
def orMissing {α : Type} (read : Json → Option α) (default : α) (key : String)
    (members : List (String × Json)) : Option α :=
  match (occurrences key members).getLast? with
  | none => some default
  | some value => read value

/-- The members of an open record that, where it says what it is, is of the given version and kind. -/
def identified (apiVersion kind : String) (document : Json) : Option (List (String × Json)) := do
  let members ← openMembers document
  if (occurrences "apiVersion" members).all (· = .str apiVersion) ∧
      (occurrences "kind" members).all (· = .str kind) then
    some members
  else none

/-!
### What is written can be read
-/

@[simp] theorem readText_str (s : String) : readText (.str s) = some s := rfl

@[simp] theorem readFlag_bool (b : Bool) : readFlag (.bool b) = some b := rfl

@[simp] theorem readInt32_ofInt32 (n : Int32) : readInt32 (ofInt32 n) = some n := by
  have hl := Int32.le_toInt n
  have hu := Int32.toInt_lt n
  simp only [readInt32, ofInt32]
  rw [if_pos ⟨by simpa using hl, by simpa using hu⟩, Int32.ofInt_toInt]

@[simp] theorem readInt64_ofInt64 (n : Int64) : readInt64 (ofInt64 n) = some n := by
  have hl := Int64.le_toInt n
  have hu := Int64.toInt_lt n
  simp only [readInt64, ofInt64]
  rw [if_pos ⟨by simpa using hl, by simpa using hu⟩, Int64.ofInt_toInt]

/-- A list of written elements is read back if each element is. -/
theorem readAll_map {α β : Type} {read : β → Option α} {write : α → β} {items : List α}
    (h : ∀ item ∈ items, read (write item) = some item) :
    readAll read (items.map write) = some items := by
  induction items with
  | nil => rfl
  | cons item rest ih =>
    simp [readAll, h item List.mem_cons_self, ih fun x hx => h x (List.mem_cons_of_mem _ hx)]

theorem readList_ofList {α : Type} {read : Json → Option α} {write : α → Json} {items : List α}
    (h : ∀ item ∈ items, read (write item) = some item) :
    readList read (ofList write items) = some items :=
  readAll_map h

theorem readMap_ofMap {α : Type} {read : Json → Option α} {write : α → Json} {map : KeyMap α}
    (h : ∀ entry ∈ map.entries, read (write entry.2) = some entry.2) :
    readMap read (ofMap write map) = some map := by
  have hall : readAll (readEntry read) (map.entries.map (writeEntry write)) = some map.entries :=
    readAll_map fun entry he => by simp [readEntry, writeEntry, h entry he]
  simp [readMap, ofMap, hall]

@[simp] theorem readMap_ofTextMap (map : KeyMap String) :
    readMap readText (ofTextMap map) = some map :=
  readMap_ofMap fun _ _ => rfl

/-- A value that is not null is read as itself where null is allowed. -/
theorem readNullable_of_some {α : Type} {read : Json → Option α} {document : Json} {value : α}
    (hnull : read .null = none) (h : read document = some value) :
    readNullable read document = some (some value) := by
  cases document with
  | null => rw [hnull] at h; cases h
  | _ => simp [readNullable, h]

end NginxFleet.Json
