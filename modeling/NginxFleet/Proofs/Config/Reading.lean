/-
Module: NginxFleet.Proofs.Config.Reading
Layer: Proofs
Purpose: What the settings are made of. A variable is unset, or holds a text, or holds octets that are
  none; what the settings are is said of these three alone, one function after the other, so that a
  statement about a whole environment needs no look into any of them.
Main exports: Environment.Unset, Environment.Holds, Environment.Illegible, SpellsSeconds, SecondsFault,
  secondsOr_eq_ok_iff, secondsOr_eq_error_iff, Config.ofLookup_eq_ok_iff, Config.ofLookup_eq_error_iff
-/
import NginxFleet.Config.Basic
import NginxFleet.Proofs.Number.Unsigned
import NginxFleet.Proofs.Text.Blank
import NginxFleet.Proofs.Text.Utf8

namespace NginxFleet

/-!
### Variables
-/

/-- The octets of a value. -/
def EnvValue.toOctets : EnvValue → List UInt8
  | .text value => value.toList.flatMap String.utf8EncodeChar
  | .octets value => value

/-- A value is text exactly if its octets are those of the text. -/
theorem EnvValue.text?_eq_some_iff {value : EnvValue} {text : String} :
    value.text? = some text ↔ value.toOctets = text.toList.flatMap String.utf8EncodeChar := by
  cases value with
  | text own =>
      rw [toOctets, ← Text.decodeUtf8_eq_ok_iff, Text.decodeUtf8_encoded, Except.ok.injEq]
      exact Option.some_inj
  | octets own =>
      rw [toOctets, ← Text.decodeUtf8_eq_ok_iff]
      show (Text.decodeUtf8 own).toOption = some text ↔ _
      cases Text.decodeUtf8 own with
      | error fault => simp [Except.toOption]
      | ok read => simp [Except.toOption]

namespace Environment

variable {environment : Environment} {key text : String}

/-- A variable is not set. -/
def Unset (environment : Environment) (key : String) : Prop :=
  environment.lookup key = none

/-- A variable is set to a text. -/
def Holds (environment : Environment) (key text : String) : Prop :=
  ∃ value, environment.lookup key = some value ∧
    value.toOctets = text.toList.flatMap String.utf8EncodeChar

/-- A variable is set to octets that are no text. -/
def Illegible (environment : Environment) (key : String) : Prop :=
  ∃ value, environment.lookup key = some value ∧
    ∀ text : String, value.toOctets ≠ text.toList.flatMap String.utf8EncodeChar

theorem text?_eq_some_iff : environment.text? key = some text ↔ environment.Holds key text := by
  unfold text? Holds
  rw [Option.bind_eq_some_iff]
  simp only [EnvValue.text?_eq_some_iff]

theorem text?_eq_none_iff :
    environment.text? key = none ↔ environment.Unset key ∨ environment.Illegible key := by
  unfold text? Unset Illegible
  cases environment.lookup key with
  | none => simp
  | some value => simp [Option.eq_none_iff_forall_not_mem, EnvValue.text?_eq_some_iff]

end Environment

/-!
### Seconds
-/

/-- A text spells so many seconds: between blanks stands their number, and 64 bits hold it. -/
def SpellsSeconds (text : String) (seconds : Nat) : Prop :=
  ∃ core, Text.TrimmedTo text.toList core ∧ SpellsNumber core seconds ∧ seconds < 2 ^ 64

/-- What is wrong with a text that spells no number of seconds: there is nothing between the blanks, or
    the digits there are already too many, or else something is no digit. -/
def SecondsFault (text : String) : UnsignedFault → Prop
  | .empty => Text.TrimmedTo text.toList []
  | .tooLarge => ∃ core, Text.TrimmedTo text.toList core ∧ ExceedsBits 64 core
  | .invalidDigit => ¬ Text.TrimmedTo text.toList [] ∧
      ¬ ∃ core, Text.TrimmedTo text.toList core ∧ ExceedsBits 64 core

section Seconds

variable {text key : String} {default seconds : UInt64} {text? : Option String}

theorem exists_unsignedReading (text : String) :
    ∃ result, UnsignedReading 64 (Text.trim text.toList) result ∧
      readSeconds text = result.map UInt64.ofNat :=
  ⟨_, unsignedReading_readUnsigned 64 _, rfl⟩

theorem readSeconds_eq_ok_iff :
    readSeconds text = .ok seconds ↔ SpellsSeconds text seconds.toNat := by
  constructor
  · intro read
    obtain ⟨result, reading, same⟩ := exists_unsignedReading text
    rw [same] at read
    cases reading with
    | empty | tooLarge | invalidDigit => cases read
    | number spelt fits =>
        cases read
        rw [UInt64.toNat_ofNat_of_lt' fits]
        exact ⟨_, Text.trimmedTo_trim _, spelt, fits⟩
  · rintro ⟨core, trimmed, spelt, fits⟩
    rw [readSeconds, trimmed.trim_eq, readUnsigned_eq_iff.mpr (.number spelt fits)]
    exact congrArg Except.ok UInt64.ofNat_toNat

theorem SecondsFault.unique {fault other : UnsignedFault} (one : SecondsFault text fault)
    (another : SecondsFault text other) : fault = other := by
  have apart : Text.TrimmedTo text.toList [] →
      ¬ ∃ core, Text.TrimmedTo text.toList core ∧ ExceedsBits 64 core := by
    rintro nothing ⟨core, trimmed, exceeds⟩
    rw [← trimmed.trim_eq, nothing.trim_eq] at exceeds
    exact not_exceedsBits_nil exceeds
  cases fault <;> cases other
  case empty.empty | tooLarge.tooLarge | invalidDigit.invalidDigit => rfl
  case empty.tooLarge => exact absurd another (apart one)
  case tooLarge.empty => exact absurd one (apart another)
  case empty.invalidDigit => exact absurd one another.1
  case invalidDigit.empty => exact absurd another one.1
  case tooLarge.invalidDigit => exact absurd one another.2
  case invalidDigit.tooLarge => exact absurd another one.2

theorem secondsFault_of_readSeconds {fault : UnsignedFault} (read : readSeconds text = .error fault) :
    SecondsFault text fault := by
  obtain ⟨result, reading, same⟩ := exists_unsignedReading text
  have trimmed := Text.trimmedTo_trim text.toList
  rw [same] at read
  cases reading with
  | empty nothing =>
      cases read
      rw [nothing] at trimmed
      exact trimmed
  | tooLarge exceeds =>
      cases read
      exact ⟨_, trimmed, exceeds⟩
  | number => cases read
  | invalidDigit something within misspelt =>
      cases read
      refine ⟨fun nothing => something nothing.trim_eq, ?_⟩
      rintro ⟨core, again, exceeds⟩
      rw [again.trim_eq] at within
      exact within exceeds

theorem secondsOr_eq_ok_iff :
    secondsOr default key text? = .ok seconds ↔
      (text? = none ∧ seconds = default) ∨
        ∃ text, text? = some text ∧ SpellsSeconds text seconds.toNat := by
  cases text? with
  | none => simp [secondsOr, eq_comm]
  | some text =>
      simp only [secondsOr, reduceCtorEq, false_and, false_or, Option.some.injEq,
        exists_eq_left', ← readSeconds_eq_ok_iff]
      cases readSeconds text with
      | error fault => simp [Except.mapError]
      | ok read => simp [Except.mapError]

theorem secondsOr_eq_error_iff {error : ConfigError} :
    secondsOr default key text? = .error error ↔
      ∃ text fault, text? = some text ∧ readSeconds text = .error fault ∧
        error = ⟨key, text, fault⟩ := by
  cases text? with
  | none => simp [secondsOr]
  | some text =>
      simp only [secondsOr, Option.some.injEq, exists_and_left, exists_eq_left']
      cases readSeconds text with
      | error fault => simp [Except.mapError, eq_comm]
      | ok read => simp [Except.mapError]

end Seconds

/-!
### Namespaces
-/

section Namespaces

variable {name : String} {text? : Option String}

theorem namespaceOf_eq_some_iff :
    namespaceOf text? = some name ↔ text? = some name ∧ ¬ Text.AllBlank name.toList := by
  cases text? with
  | none => simp [namespaceOf]
  | some text =>
      simp only [namespaceOf, Text.trim_eq_nil_iff, Option.some.injEq]
      split
      case isTrue blank =>
        refine iff_of_false nofun ?_
        rintro ⟨rfl, marked⟩
        exact marked blank
      case isFalse marked =>
        rw [Option.some.injEq]
        refine ⟨?_, And.left⟩
        rintro rfl
        exact ⟨rfl, marked⟩

theorem namespaceOf_eq_none_iff :
    namespaceOf text? = none ↔
      text? = none ∨ ∃ text, text? = some text ∧ Text.AllBlank text.toList := by
  cases text? with
  | none => simp [namespaceOf]
  | some text => simp [namespaceOf, Text.trim_eq_nil_iff, Text.AllBlank]

end Namespaces

/-!
### Settings
-/

namespace Config

variable {text? : String → Option String}

theorem ofLookup_eq_ok_iff {config : Config} :
    ofLookup text? = .ok config ↔
      secondsOr defaultResyncPeriod resyncPeriodKey (text? resyncPeriodKey) =
          .ok config.resyncPeriod ∧
        secondsOr defaultErrorRequeue errorRequeueKey (text? errorRequeueKey) =
          .ok config.errorRequeue ∧
        namespaceOf (text? watchNamespaceKey) = config.watchNamespace := by
  obtain ⟨watchNamespace, resyncPeriod, errorRequeue⟩ := config
  unfold ofLookup
  cases secondsOr defaultResyncPeriod resyncPeriodKey (text? resyncPeriodKey) with
  | error error => simp
  | ok first =>
      cases secondsOr defaultErrorRequeue errorRequeueKey (text? errorRequeueKey) with
      | error error => simp
      | ok second =>
          simp only [Except.ok.injEq, Config.mk.injEq]
          constructor
          · rintro ⟨watched, resync, requeue⟩
            exact ⟨resync, requeue, watched⟩
          · rintro ⟨resync, requeue, watched⟩
            exact ⟨watched, resync, requeue⟩

theorem ofLookup_eq_error_iff {error : ConfigError} :
    ofLookup text? = .error error ↔
      secondsOr defaultResyncPeriod resyncPeriodKey (text? resyncPeriodKey) = .error error ∨
        (∃ seconds, secondsOr defaultResyncPeriod resyncPeriodKey (text? resyncPeriodKey) =
          .ok seconds) ∧
        secondsOr defaultErrorRequeue errorRequeueKey (text? errorRequeueKey) = .error error := by
  unfold ofLookup
  cases secondsOr defaultResyncPeriod resyncPeriodKey (text? resyncPeriodKey) with
  | error error => simp
  | ok first =>
      cases secondsOr defaultErrorRequeue errorRequeueKey (text? errorRequeueKey) with
      | error error => simp
      | ok second => simp

end Config

end NginxFleet
