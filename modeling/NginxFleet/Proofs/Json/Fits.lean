/-
Module: NginxFleet.Proofs.Json.Fits
Layer: Proofs
Purpose: Documents that can be written and read: they are not nested too deeply, and their numbers are
  in range. The canonical form of such a document is one, and a record needs one level of room more
  than its members.
Main exports: Json.Fits, Json.Fits.canonical, Json.Printable, Json.printable_record,
  Json.printable_ofList, Json.printable_ofTextMap
-/
import NginxFleet.Json.Reader
import NginxFleet.Proofs.Number.Rounding

namespace NginxFleet.Json

mutual

/-- A document is nested at most so deep, and each number in it is in range. -/
def Fits : Nat → Json → Prop
  | _, .null | _, .bool _ | _, .str _ | _, .unreadable => True
  | _, .int value => -(twoTo 63 : Int) ≤ value ∧ value < twoTo 64
  | _, .float value => value.Valid
  | room, .arr items => 0 < room ∧ ItemsFit (room - 1) items
  | room, .obj members => 0 < room ∧ MembersFit (room - 1) members

/-- Each item fits. -/
def ItemsFit : Nat → List Json → Prop
  | _, [] => True
  | room, item :: rest => Fits room item ∧ ItemsFit room rest

/-- The value of each member fits. -/
def MembersFit : Nat → List (String × Json) → Prop
  | _, [] => True
  | room, (_, value) :: rest => Fits room value ∧ MembersFit room rest

end

variable {room : Nat}

theorem itemsFit_iff {items : List Json} :
    ItemsFit room items ↔ ∀ item ∈ items, Fits room item := by
  induction items with
  | nil => simp [ItemsFit]
  | cons item rest ih => simp [ItemsFit, ih]

theorem membersFit_iff {members : List (String × Json)} :
    MembersFit room members ↔ ∀ member ∈ members, Fits room member.2 := by
  induction members with
  | nil => simp [MembersFit]
  | cons member rest ih => simp [MembersFit, ih]

theorem fits_arr_iff {items : List Json} :
    Fits room (.arr items) ↔ 0 < room ∧ ∀ item ∈ items, Fits (room - 1) item := by
  rw [Fits, itemsFit_iff]

theorem fits_obj_iff {members : List (String × Json)} :
    Fits room (.obj members) ↔ 0 < room ∧ ∀ member ∈ members, Fits (room - 1) member.2 := by
  rw [Fits, membersFit_iff]

/-- What needs no room fits anywhere. -/
theorem Fits.of_atom {document : Json} (fits : Fits 0 document) : Fits room document := by
  cases document with
  | arr items => exact absurd fits.1 (Nat.lt_irrefl 0)
  | obj members => exact absurd fits.1 (Nat.lt_irrefl 0)
  | _ => exact fits

theorem Fits.of_mem_arr {items : List Json} {item : Json} (fits : Fits (room + 1) (.arr items))
    (among : item ∈ items) : Fits room item :=
  (fits_arr_iff.mp fits).2 item among

theorem Fits.of_mem_obj {members : List (String × Json)} {member : String × Json}
    (fits : Fits (room + 1) (.obj members)) (among : member ∈ members) : Fits room member.2 :=
  (fits_obj_iff.mp fits).2 member among

/-!
### The canonical form
-/

mutual

theorem Fits.canonical : {room : Nat} → {document : Json} → Fits room document →
    Fits room document.canonical
  | _, .arr items, fits => by
      obtain ⟨some_, each⟩ := fits
      exact ⟨some_, ItemsFit.canonical each⟩
  | _, .obj members, fits => by
      obtain ⟨some_, each⟩ := fits
      exact ⟨some_, MembersFit.canonical each⟩
  | _, .null, _ | _, .bool _, _ | _, .str _, _ | _, .unreadable, _ => trivial
  | _, .int _, fits | _, .float _, fits => fits

theorem ItemsFit.canonical : {room : Nat} → {items : List Json} → ItemsFit room items →
    ItemsFit room (canonicalItems items)
  | _, [], _ => trivial
  | _, _ :: _, fits => ⟨Fits.canonical fits.1, ItemsFit.canonical fits.2⟩

theorem MembersFit.canonical : {room : Nat} → {members : List (String × Json)} →
    MembersFit room members → MembersFit room (canonicalMembers members)
  | _, [], _ => trivial
  | _, (key, value) :: rest, fits => by
      have later := MembersFit.canonical fits.2
      simp only [canonicalMembers]
      split
      · exact later
      · refine membersFit_iff.mpr fun member found => ?_
        rcases mem_insertEntry found with rfl | found
        · exact Fits.canonical fits.1
        · exact membersFit_iff.mp later member found

end

/-!
### Documents that are written
-/

/-- A document that fits and of which every part stands for a value. -/
structure Printable (room : Nat) (document : Json) : Prop where
  fits : Fits room document
  readable : document.isReadable

theorem itemsReadable_iff {items : List Json} :
    itemsReadable items ↔ ∀ item ∈ items, item.isReadable := by
  induction items with
  | nil => simp [itemsReadable]
  | cons item rest ih => simp [itemsReadable, ih]

theorem membersReadable_iff {members : List (String × Json)} :
    membersReadable members ↔ ∀ member ∈ members, member.2.isReadable := by
  induction members with
  | nil => simp [membersReadable]
  | cons member rest ih => simp [membersReadable, ih]

theorem printable_arr_iff {items : List Json} :
    Printable (room + 1) (.arr items) ↔ ∀ item ∈ items, Printable room item := by
  constructor
  · rintro ⟨fits, readable⟩ item among
    exact ⟨fits.of_mem_arr among, itemsReadable_iff.mp readable item among⟩
  · intro each
    exact ⟨fits_arr_iff.mpr ⟨Nat.succ_pos room, fun item among => (each item among).fits⟩,
      itemsReadable_iff.mpr fun item among => (each item among).readable⟩

theorem printable_obj_iff {members : List (String × Json)} :
    Printable (room + 1) (.obj members) ↔ ∀ member ∈ members, Printable room member.2 := by
  constructor
  · rintro ⟨fits, readable⟩ member among
    exact ⟨fits.of_mem_obj among, membersReadable_iff.mp readable member among⟩
  · intro each
    exact ⟨fits_obj_iff.mpr ⟨Nat.succ_pos room, fun member among => (each member among).fits⟩,
      membersReadable_iff.mpr fun member among => (each member among).readable⟩

@[simp] theorem printable_str (text : String) : Printable room (.str text) := ⟨trivial, rfl⟩

@[simp] theorem printable_bool (flag : Bool) : Printable room (.bool flag) := ⟨trivial, rfl⟩

/-- A number that a signed word of 64 bits holds can be printed and read again. -/
theorem printable_int {n : Int} (low : -(2 ^ 63) ≤ n) (high : n < 2 ^ 63) :
    Printable room (.int n) := by
  have least : 2 ^ 63 ≤ twoTo 63 := by decide +kernel
  have greatest : 2 ^ 63 ≤ twoTo 64 := by decide +kernel
  refine ⟨⟨?_, ?_⟩, rfl⟩
  · omega
  · omega

@[simp] theorem printable_ofInt32 (n : Int32) : Printable room (ofInt32 n) := by
  have low := Int32.le_toInt n
  have high := Int32.toInt_lt n
  exact printable_int (by omega) (by omega)

@[simp] theorem printable_ofInt64 (n : Int64) : Printable room (ofInt64 n) :=
  printable_int (Int64.le_toInt n) (Int64.toInt_lt n)

theorem printable_ofList {α : Type} {write : α → Json} {items : List α}
    (each : ∀ item ∈ items, Printable room (write item)) :
    Printable (room + 1) (ofList write items) := by
  refine printable_arr_iff.mpr fun document among => ?_
  obtain ⟨item, member, rfl⟩ := List.mem_map.mp among
  exact each item member

@[simp] theorem printable_ofTextMap (map : KeyMap String) : Printable (room + 1) (ofTextMap map) := by
  refine printable_obj_iff.mpr fun member among => ?_
  obtain ⟨entry, -, rfl⟩ := List.mem_map.mp among
  exact printable_str _

theorem mem_setMembers {fields : List (String × Option Json)} {key : String} {value : Json}
    (found : (key, value) ∈ setMembers fields) : (key, some value) ∈ fields := by
  induction fields with
  | nil => cases found
  | cons field rest ih =>
      obtain ⟨name, given⟩ := field
      cases given with
      | none => exact List.mem_cons_of_mem _ (ih found)
      | some document =>
          rcases List.mem_cons.mp found with same | later
          · cases same
            exact List.mem_cons_self
          · exact List.mem_cons_of_mem _ (ih later)

/-- A value can be written if it is set. -/
def PrintableIfSet (room : Nat) (value : Option Json) : Prop :=
  ∀ document ∈ value, Printable room document

@[simp] theorem printableIfSet_none : PrintableIfSet room none := fun _ given => nomatch given

@[simp] theorem printableIfSet_some {document : Json} :
    PrintableIfSet room (some document) ↔ Printable room document := by
  simp [PrintableIfSet]

@[simp] theorem printableIfSet_map {α : Type} {write : α → Json} {value : Option α} :
    PrintableIfSet room (value.map write) ↔ ∀ x ∈ value, Printable room (write x) :=
  Option.forall_mem_map

/-- A record can be written if each value that is set can. -/
theorem printable_record {fields : List (String × Option Json)}
    (each : ∀ field ∈ fields, PrintableIfSet room field.2) :
    Printable (room + 1) (record fields) := by
  refine printable_obj_iff.mpr fun member among => ?_
  exact each _ (mem_setMembers among) member.2 rfl

end NginxFleet.Json
