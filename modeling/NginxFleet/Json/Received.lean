/-
Module: NginxFleet.Json.Received
Layer: Json
Purpose: Documents that went from one program to another as text. Everything arrives as it was sent
  but floating point numbers: their text identifies them, but a reader of the text rounds in steps,
  so that a number may arrive as a neighbour of itself.
Main exports: Binary64.received, Json.received, Json.isReadable_received
-/
import NginxFleet.Json.Printer
import NginxFleet.Json.Token

namespace NginxFleet

/-- The number that is read in the text of a number. -/
def Binary64.received (x : Binary64) : Binary64 :=
  match Json.ofNumber? x.text.toList with
  | some (.float y) => y
  | _ => x

namespace Json

mutual

/-- The document that is read in the text of a document. -/
def received : Json → Json
  | .float value => .float value.received
  | .arr items => .arr (itemsReceived items)
  | .obj members => .obj (membersReceived members)
  | other => other

/-- The items that are read in the text of items. -/
def itemsReceived : List Json → List Json
  | [] => []
  | item :: rest => received item :: itemsReceived rest

/-- The members that are read in the text of members. -/
def membersReceived : List (String × Json) → List (String × Json)
  | [] => []
  | (key, value) :: rest => (key, received value) :: membersReceived rest

end

mutual

/-- A document is received in a readable form exactly if it was sent in one. -/
theorem isReadable_received : (document : Json) →
    document.received.isReadable = document.isReadable
  | .arr items => itemsReadable_itemsReceived items
  | .obj members => membersReadable_membersReceived members
  | .null | .bool _ | .int _ | .float _ | .str _ | .unreadable => rfl

/-- Items are received in a readable form exactly if they were sent in one. -/
theorem itemsReadable_itemsReceived : (items : List Json) →
    itemsReadable (itemsReceived items) = itemsReadable items
  | [] => rfl
  | item :: rest => by
    simp only [itemsReceived, itemsReadable]
    rw [isReadable_received item, itemsReadable_itemsReceived rest]

/-- Members are received in a readable form exactly if they were sent in one. -/
theorem membersReadable_membersReceived : (members : List (String × Json)) →
    membersReadable (membersReceived members) = membersReadable members
  | [] => rfl
  | (_, value) :: rest => by
    simp only [membersReceived, membersReadable]
    rw [isReadable_received value, membersReadable_membersReceived rest]

end

end Json

end NginxFleet
