/-
Module: NginxFleet.Config.Environment
Layer: Config
Purpose: The variables that a program is started with. A value is text, or octets that need not be
  text; a variable whose octets are no text counts as unset.
Main exports: EnvValue, Environment, Environment.text?
-/
import NginxFleet.Text.Utf8

namespace NginxFleet

/-- The value of a variable. -/
inductive EnvValue where
  | text (value : String)
  | octets (value : List UInt8)
deriving DecidableEq, Repr, Inhabited

/-- The text of a value, if it is text. -/
def EnvValue.text? : EnvValue → Option String
  | .text value => some value
  | .octets value => (Text.decodeUtf8 value).toOption

/-- Variables with their values. -/
abbrev Environment := List (String × EnvValue)

/-- The text of a variable that is set to text. -/
def Environment.text? (environment : Environment) (key : String) : Option String :=
  (environment.lookup key).bind EnvValue.text?

end NginxFleet
