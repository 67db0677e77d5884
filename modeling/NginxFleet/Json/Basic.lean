/-
Module: NginxFleet.Json.Basic
Layer: Json
Purpose: JSON documents as trees. An object keeps its members in the order and number in which the
  text gives them, since some records refuse a member that is given twice; the canonical form has
  each key once, the last value given for it, in ascending order. Whole numbers and floating point
  numbers are different documents. A text can be well-formed and still hold parts that stand for no
  value; such a part has a place in the tree, so that it does no harm where it is not looked at.
Main exports: Json, Json.isReadable, Json.canonical, Json.occurrences, Json.member?, Json.record
-/
import NginxFleet.KeyMap
import NginxFleet.Number.Binary64

namespace NginxFleet

/-- A JSON document. -/
inductive Json where
  | null
  | bool (value : Bool)
  | int (value : Int)
  | float (value : Binary64)
  | str (value : String)
  | arr (items : List Json)
  | obj (members : List (String × Json))
  /-- A well-formed part of a text that stands for no value. -/
  | unreadable
deriving Repr, Inhabited

namespace Json

mutual

/-- Equality of documents is decided member by member. -/
def decEq : (a b : Json) → Decidable (a = b)
  | .null, b => by
    cases b <;> first | exact isTrue rfl | exact isFalse (by intro h; cases h)
  | .bool x, b => by
    cases b with
    | bool y =>
      exact if h : x = y then isTrue (by rw [h]) else isFalse (by intro e; cases e; exact h rfl)
    | _ => exact isFalse (by intro h; cases h)
  | .int x, b => by
    cases b with
    | int y =>
      exact if h : x = y then isTrue (by rw [h]) else isFalse (by intro e; cases e; exact h rfl)
    | _ => exact isFalse (by intro h; cases h)
  | .float x, b => by
    cases b with
    | float y =>
      exact if h : x = y then isTrue (by rw [h]) else isFalse (by intro e; cases e; exact h rfl)
    | _ => exact isFalse (by intro h; cases h)
  | .str x, b => by
    cases b with
    | str y =>
      exact if h : x = y then isTrue (by rw [h]) else isFalse (by intro e; cases e; exact h rfl)
    | _ => exact isFalse (by intro h; cases h)
  | .arr xs, .arr ys =>
    match decEqItems xs ys with
    | isTrue h => isTrue (by rw [h])
    | isFalse h => isFalse (by intro e; cases e; exact h rfl)
  | .arr _, .null | .arr _, .bool _ | .arr _, .int _ | .arr _, .float _ | .arr _, .str _
  | .arr _, .obj _ | .arr _, .unreadable => isFalse (by intro h; cases h)
  | .obj xs, .obj ys =>
    match decEqMembers xs ys with
    | isTrue h => isTrue (by rw [h])
    | isFalse h => isFalse (by intro e; cases e; exact h rfl)
  | .obj _, .null | .obj _, .bool _ | .obj _, .int _ | .obj _, .float _ | .obj _, .str _
  | .obj _, .arr _ | .obj _, .unreadable => isFalse (by intro h; cases h)
  | .unreadable, b => by
    cases b <;> first | exact isTrue rfl | exact isFalse (by intro h; cases h)

/-- Equality of lists of documents. -/
def decEqItems : (a b : List Json) → Decidable (a = b)
  | [], [] => isTrue rfl
  | [], _ :: _ | _ :: _, [] => isFalse (by intro h; cases h)
  | x :: xs, y :: ys =>
    match decEq x y, decEqItems xs ys with
    | isTrue h, isTrue h' => isTrue (by rw [h, h'])
    | isFalse h, _ => isFalse (by intro e; cases e; exact h rfl)
    | _, isFalse h => isFalse (by intro e; cases e; exact h rfl)

/-- Equality of lists of members. -/
def decEqMembers : (a b : List (String × Json)) → Decidable (a = b)
  | [], [] => isTrue rfl
  | [], _ :: _ | _ :: _, [] => isFalse (by intro h; cases h)
  | (k, x) :: xs, (l, y) :: ys =>
    if hk : k = l then
      match decEq x y, decEqMembers xs ys with
      | isTrue h, isTrue h' => isTrue (by rw [hk, h, h'])
      | isFalse h, _ => isFalse (by intro e; cases e; exact h rfl)
      | _, isFalse h => isFalse (by intro e; cases e; exact h rfl)
    else isFalse (by intro e; cases e; exact hk rfl)

end

instance : DecidableEq Json := decEq

mutual

/-- Whether every part of a document stands for a value. -/
def isReadable : Json → Bool
  | .unreadable => false
  | .arr items => itemsReadable items
  | .obj members => membersReadable members
  | _ => true

/-- Whether every part of every item stands for a value. -/
def itemsReadable : List Json → Bool
  | [] => true
  | item :: rest => isReadable item && itemsReadable rest

/-- Whether every part of every member stands for a value. -/
def membersReadable : List (String × Json) → Bool
  | [] => true
  | (_, value) :: rest => isReadable value && membersReadable rest

end

mutual

/-- The document with each key of an object once, with its last value, in ascending order. -/
def canonical : Json → Json
  | .arr items => .arr (canonicalItems items)
  | .obj members => .obj (canonicalMembers members)
  | other => other

/-- The canonical forms of items. -/
def canonicalItems : List Json → List Json
  | [] => []
  | item :: rest => canonical item :: canonicalItems rest

/-- Members by ascending key, with the last value given for each key. -/
def canonicalMembers : List (String × Json) → List (String × Json)
  | [] => []
  | (key, value) :: rest =>
    let later := canonicalMembers rest
    match later.lookup key with
    | some _ => later
    | none => insertEntry key (canonical value) later

end

/-- The values given for a key, in the order of the text. -/
def occurrences (key : String) (members : List (String × Json)) : List Json :=
  members.filterMap fun member => if member.1 = key then some member.2 else none

/-- The value of a member of an object: the last one given for the key. -/
def member? (key : String) : Json → Option Json
  | .obj members => (occurrences key members).getLast?
  | _ => none

/-- The members that are set, of a list of keys with optional values. -/
def setMembers : List (String × Option Json) → List (String × Json)
  | [] => []
  | (key, some value) :: rest => (key, value) :: setMembers rest
  | (_, none) :: rest => setMembers rest

/-- The object with the members that are set. -/
def record (members : List (String × Option Json)) : Json :=
  .obj (setMembers members)

/-- A key has the occurrences that the members set for it. -/
theorem occurrences_setMembers_cons (key name : String) (value : Option Json)
    (rest : List (String × Option Json)) :
    occurrences key (setMembers ((name, value) :: rest)) =
      (if name = key then value.toList else []) ++ occurrences key (setMembers rest) := by
  cases value with
  | none => by_cases h : name = key <;> simp [setMembers, h]
  | some v => by_cases h : name = key <;> simp [setMembers, occurrences, h]

@[simp] theorem occurrences_setMembers_nil (key : String) :
    occurrences key (setMembers []) = [] := rfl

/-- The canonical members ascend. -/
theorem ascending_canonicalMembers (members : List (String × Json)) :
    Ascending (canonicalMembers members) := by
  induction members with
  | nil => exact List.Pairwise.nil
  | cons head rest ih =>
    obtain ⟨key, value⟩ := head
    simp only [canonicalMembers]
    split
    · exact ih
    · exact ascending_insertEntry ih

end Json

end NginxFleet
