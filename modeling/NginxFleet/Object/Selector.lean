/-
Module: NginxFleet.Object.Selector
Layer: Object
Purpose: Selectors of objects by their labels: requirements that a label is there and has a given
  value, written with an equals sign each and commas between them. What stands between commas
  without an equals sign requires nothing.
Main exports: Requirement, Selector.ofText, Selector.selects
-/
import NginxFleet.Text.Split

namespace NginxFleet

/-- The requirement that the label of a key has a value. -/
structure Requirement where
  key : String
  value : String
deriving DecidableEq, Repr, Inhabited

/-- The requirement that a text spells, if it has an equals sign; the first one counts. -/
def Requirement.ofText? (text : String) : Option Requirement :=
  (Text.cutAt? '=' text).map fun (key, value) => { key, value }

/-- Requirements that an object must all meet. -/
abbrev Selector := List Requirement

namespace Selector

/-- The selector that a text spells; an empty text selects everything. -/
def ofText (text : String) : Selector :=
  (Text.split ',' text).filterMap Requirement.ofText?

/-- Whether labels, given as a look-up, meet all requirements. -/
def selects (selector : Selector) (label? : String → Option String) : Bool :=
  selector.all fun requirement => label? requirement.key == some requirement.value

end Selector

end NginxFleet
