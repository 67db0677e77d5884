/-
Module: NginxFleet.Discovery.Version
Layer: Discovery
Purpose: The order in which a server's versions of a group are preferred: stable versions before
  betas, betas before alphas, higher numbers first, and any other name after all of these, by
  the alphabet.
Main exports: ApiVersion, ApiVersion.ofText, ApiVersion.before
-/
import NginxFleet.Number.Unsigned

namespace NginxFleet

/-- What the name of a version says. -/
inductive ApiVersion where
  | stable (major : Nat)
  | beta (major : Nat) (minor : Option Nat)
  | alpha (major : Nat) (minor : Option Nat)
  | other (name : String)
deriving DecidableEq, Repr, Inhabited

namespace ApiVersion

/-- A number of 32 bits. -/
def number? (chars : List Char) : Option Nat :=
  (readUnsigned 32 chars).toOption

/-- The rest of characters that start with given ones. -/
def after? (start chars : List Char) : Option (List Char) :=
  if start.isPrefixOf chars then some (chars.drop start.length) else none

/-- The number of an alpha or a beta, of which there may be none. -/
def minor? : List Char → Option (Option Nat)
  | [] => some none
  | chars => (number? chars).map some

/-- What a name of the form that Kubernetes recommends says. -/
def ofChars? (chars : List Char) : Option ApiVersion := do
  let body ← after? ['v'] chars
  let major ← number? (body.takeWhile Char.isDigit)
  let rest := body.dropWhile Char.isDigit
  if rest = [] then return .stable major
  match after? "alpha".toList rest, after? "beta".toList rest with
  | some minor, _ => return .alpha major (← minor? minor)
  | none, some minor => return .beta major (← minor? minor)
  | none, none => none

/-- What the name of a version says. -/
def ofText (name : String) : ApiVersion :=
  (ofChars? name.toList).getD (.other name)

/-- How stable the versions of a form are. -/
def stability : ApiVersion → Nat
  | .stable _ => 3
  | .beta _ _ => 2
  | .alpha _ _ => 1
  | .other _ => 0

/-- The first number of a version. -/
def major : ApiVersion → Nat
  | .stable major | .beta major _ | .alpha major _ => major
  | .other _ => 0

/-- The second number of a version, from one on; zero if there is none. -/
def minor : ApiVersion → Nat
  | .beta _ minor | .alpha _ minor => minor.elim 0 (· + 1)
  | .stable _ | .other _ => 0

/-- Whether a version may stand before another: by stability, then by its numbers. -/
def before : ApiVersion → ApiVersion → Bool
  | .other a, .other b => decide (a ≤ b)
  | a, b =>
    if a.stability ≠ b.stability then decide (b.stability < a.stability)
    else if a.major ≠ b.major then decide (b.major < a.major)
    else decide (b.minor ≤ a.minor)

end ApiVersion

end NginxFleet
