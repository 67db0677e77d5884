/-
Module: NginxFleet.Http.Target
Layer: Http
Purpose: The target of a request: the path and the query that are sent, taken from a text into which
  names went as they are. A number sign ends the text, the first question mark starts the query,
  and a text that is too long or holds a character that a target may not hold is refused.
Main exports: Target, TargetFault, Target.ofText
-/

namespace NginxFleet

/-- Where a request goes. -/
structure Target where
  path : String
  query : String
deriving DecidableEq, Repr, Inhabited

/-- Why a text is no target. -/
inductive TargetFault where
  | invalidCharacter
  | tooLong
deriving DecidableEq, Repr, Inhabited

/-- The words for a fault. -/
def TargetFault.message : TargetFault → String
  | .invalidCharacter => "invalid uri character"
  | .tooLong => "uri too long"

namespace Target

/-- The greatest number of octets of a target. -/
def longest : Nat := 65534

/-- Whether a character may not stand in a path. -/
def refusedInPath (c : Char) : Bool :=
  c.toNat ≤ 0x20 || c == '<' || c == '>' || c.toNat == 0x60 || c.toNat == 0x7F

/-- Whether a character may not stand in a query. -/
def refusedInQuery (c : Char) : Bool :=
  c.toNat ≤ 0x20 || c == '"' || c == '<' || c == '>' || c.toNat == 0x7F

/-- The target that a text gives. -/
def ofText (text : String) : Except TargetFault Target :=
  if longest < text.utf8ByteSize then .error .tooLong
  else
    let sent := text.toList.takeWhile (· != '#')
    let path := sent.takeWhile (· != '?')
    let query := (sent.dropWhile (· != '?')).drop 1
    if path.any refusedInPath || query.any refusedInQuery then .error .invalidCharacter
    else .ok ⟨String.ofList path, String.ofList query⟩

end Target

end NginxFleet
