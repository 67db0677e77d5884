/-
Module: NginxFleet.Proofs.Config.Settings
Layer: Proofs
Purpose: The settings that an environment gives, and the environments that give none. Where each
  variable is unset or a text, a period is what its variable spells, the namespace is what its variable
  holds, and the first variable that spells no number is the error. Octets that are no text are dropped
  without an error, as if the variable were unset: that is the one way in which a setting falls back
  although its variable is set.
Main exports: Environment.Legible, Environment.GivesPeriod, Environment.GivesNamespace,
  Environment.FirstMisspelt, settings_are_what_is_spelt, settings_fall_back_only_without_text
-/
import NginxFleet.Proofs.Config.Reading

namespace NginxFleet

namespace Environment

variable {environment : Environment} {key text : String}

/-- Each variable that is read is unset or a text. -/
def Legible (environment : Environment) : Prop :=
  ∀ key ∈ [watchNamespaceKey, resyncPeriodKey, errorRequeueKey],
    environment.Unset key ∨ ∃ text, environment.Holds key text

/-- A variable gives a period: the seconds that its text spells, or a default if it is unset. -/
def GivesPeriod (environment : Environment) (key : String) (default seconds : Nat) : Prop :=
  (environment.Unset key ∧ seconds = default) ∨
    ∃ text, environment.Holds key text ∧ SpellsSeconds text seconds

/-- A variable gives a namespace: the whole text that it holds, or none if it is unset or blank. -/
def GivesNamespace (environment : Environment) (key : String) : Option String → Prop
  | none => environment.Unset key ∨ ∃ text, environment.Holds key text ∧ Text.AllBlank text.toList
  | some name => environment.Holds key name ∧ ¬ Text.AllBlank name.toList

/-- A variable holds a text that spells no seconds, and it is the first of the two periods or the first
    one is given. -/
def FirstMisspelt (environment : Environment) (key text : String) : Prop :=
  environment.Holds key text ∧ (∀ seconds, ¬ SpellsSeconds text seconds) ∧
    (key = resyncPeriodKey ∨
      key = errorRequeueKey ∧ ∃ seconds, environment.GivesPeriod resyncPeriodKey 300 seconds)

/-!
### Octets that are no text
-/

theorem Illegible.not_unset (illegible : environment.Illegible key) : ¬ environment.Unset key := by
  obtain ⟨value, found, -⟩ := illegible
  intro unset
  rw [unset] at found
  cases found

theorem Illegible.not_holds (illegible : environment.Illegible key) : ¬ environment.Holds key text := by
  obtain ⟨value, found, foreign⟩ := illegible
  rintro ⟨same, again, octets⟩
  rw [found] at again
  cases again
  exact foreign text octets

theorem Legible.not_illegible (legible : environment.Legible)
    (isRead : key ∈ [watchNamespaceKey, resyncPeriodKey, errorRequeueKey]) :
    ¬ environment.Illegible key := by
  intro illegible
  rcases legible key isRead with unset | ⟨text, holds⟩
  · exact illegible.not_unset unset
  · exact illegible.not_holds holds

/-!
### One variable
-/

section Variable

variable {default seconds : UInt64}

theorem secondsOr_text?_eq_ok_iff :
    secondsOr default key (environment.text? key) = .ok seconds ↔
      ((environment.Unset key ∨ environment.Illegible key) ∧ seconds = default) ∨
        ∃ text, environment.Holds key text ∧ SpellsSeconds text seconds.toNat := by
  rw [secondsOr_eq_ok_iff, text?_eq_none_iff]
  simp only [text?_eq_some_iff]

theorem secondsOr_text?_eq_ok_iff_givesPeriod (given : ¬ environment.Illegible key) :
    secondsOr default key (environment.text? key) = .ok seconds ↔
      environment.GivesPeriod key default.toNat seconds.toNat := by
  rw [secondsOr_text?_eq_ok_iff, or_iff_left given, GivesPeriod, UInt64.toNat_inj]

theorem GivesPeriod.lt {default n : Nat} (gives : environment.GivesPeriod key default n)
    (small : default < 2 ^ 64) : n < 2 ^ 64 := by
  rcases gives with ⟨-, rfl⟩ | ⟨text, -, core, -, -, fits⟩
  · exact small
  · exact fits

theorem misspelt_of_secondsOr {error : ConfigError}
    (read : secondsOr default key (environment.text? key) = .error error) :
    error.key = key ∧ environment.Holds key error.value ∧
      (∀ seconds, ¬ SpellsSeconds error.value seconds) ∧ SecondsFault error.value error.fault := by
  obtain ⟨text, fault, given, misread, rfl⟩ := secondsOr_eq_error_iff.mp read
  refine ⟨rfl, text?_eq_some_iff.mp given, ?_, secondsFault_of_readSeconds misread⟩
  rintro n ⟨core, trimmed, digits, fits⟩
  have spelt : SpellsSeconds text (UInt64.ofNat n).toNat := by
    rw [UInt64.toNat_ofNat_of_lt' fits]
    exact ⟨core, trimmed, digits, fits⟩
  rw [readSeconds_eq_ok_iff.mpr spelt] at misread
  cases misread

theorem namespaceOf_text?_eq_none_iff :
    namespaceOf (environment.text? key) = none ↔
      (environment.Unset key ∨ environment.Illegible key) ∨
        ∃ text, environment.Holds key text ∧ Text.AllBlank text.toList := by
  rw [namespaceOf_eq_none_iff, text?_eq_none_iff]
  simp only [text?_eq_some_iff]

theorem namespaceOf_text?_eq_some_iff :
    namespaceOf (environment.text? key) = some text ↔
      environment.Holds key text ∧ ¬ Text.AllBlank text.toList := by
  rw [namespaceOf_eq_some_iff, text?_eq_some_iff]

theorem namespaceOf_text?_iff_givesNamespace (given : ¬ environment.Illegible key)
    (name? : Option String) :
    namespaceOf (environment.text? key) = name? ↔ environment.GivesNamespace key name? := by
  cases name? with
  | none => rw [namespaceOf_text?_eq_none_iff, or_iff_left given, GivesNamespace]
  | some name => exact namespaceOf_text?_eq_some_iff

end Variable

end Environment

/-!
### All settings
-/

open Environment

theorem Config.ofEnvironment_eq_ok_iff {environment : Environment} (legible : environment.Legible)
    {config : Config} :
    Config.ofEnvironment environment = .ok config ↔
      environment.GivesPeriod resyncPeriodKey 300 config.resyncPeriod.toNat ∧
        environment.GivesPeriod errorRequeueKey 60 config.errorRequeue.toNat ∧
        environment.GivesNamespace watchNamespaceKey config.watchNamespace := by
  rw [Config.ofEnvironment, Config.ofLookup_eq_ok_iff,
    secondsOr_text?_eq_ok_iff_givesPeriod (legible.not_illegible (by decide)),
    secondsOr_text?_eq_ok_iff_givesPeriod (legible.not_illegible (by decide)),
    namespaceOf_text?_iff_givesNamespace (legible.not_illegible (by decide))]
  rfl

theorem misspelt_of_ofEnvironment {environment : Environment} (legible : environment.Legible)
    {error : ConfigError} (read : Config.ofEnvironment environment = .error error) :
    environment.FirstMisspelt error.key error.value ∧ SecondsFault error.value error.fault := by
  rcases Config.ofLookup_eq_error_iff.mp read with resync | ⟨⟨seconds, resync⟩, requeue⟩
  · obtain ⟨key, holds, misspelt, fault⟩ := misspelt_of_secondsOr resync
    rw [← key] at holds
    exact ⟨⟨holds, misspelt, .inl key⟩, fault⟩
  · obtain ⟨key, holds, misspelt, fault⟩ := misspelt_of_secondsOr requeue
    rw [← key] at holds
    refine ⟨⟨holds, misspelt, .inr ⟨key, seconds.toNat, ?_⟩⟩, fault⟩
    exact (secondsOr_text?_eq_ok_iff_givesPeriod (legible.not_illegible (by decide))).mp resync

/-- Wherever each variable is unset or a text, there are settings exactly if both periods are given,
    they are those that the variables give, and otherwise the error names the first variable that is
    misspelt, with its text and with what is wrong there. -/
theorem settings_are_what_is_spelt (environment : Environment) (legible : environment.Legible) :
    ((∃ config, Config.ofEnvironment environment = .ok config) ↔
      (∃ seconds, environment.GivesPeriod resyncPeriodKey 300 seconds) ∧
        ∃ seconds, environment.GivesPeriod errorRequeueKey 60 seconds) ∧
    (∀ config, Config.ofEnvironment environment = .ok config ↔
      environment.GivesPeriod resyncPeriodKey 300 config.resyncPeriod.toNat ∧
        environment.GivesPeriod errorRequeueKey 60 config.errorRequeue.toNat ∧
        environment.GivesNamespace watchNamespaceKey config.watchNamespace) ∧
    ∀ error, Config.ofEnvironment environment = .error error →
      environment.FirstMisspelt error.key error.value ∧
        error.message = error.key ++ " must be a number of seconds, got '" ++ error.value ++ "'" ∧
        ∀ fault, error.fault = fault ↔ SecondsFault error.value fault := by
  refine ⟨⟨?_, ?_⟩, fun config => Config.ofEnvironment_eq_ok_iff legible, ?_⟩
  · rintro ⟨config, read⟩
    obtain ⟨resync, requeue, -⟩ := (Config.ofEnvironment_eq_ok_iff legible).mp read
    exact ⟨⟨_, resync⟩, ⟨_, requeue⟩⟩
  · rintro ⟨⟨first, resync⟩, ⟨second, requeue⟩⟩
    refine ⟨⟨namespaceOf (environment.text? watchNamespaceKey), UInt64.ofNat first,
      UInt64.ofNat second⟩, (Config.ofEnvironment_eq_ok_iff legible).mpr ⟨?_, ?_, ?_⟩⟩
    · rw [UInt64.toNat_ofNat_of_lt' (resync.lt (by decide))]
      exact resync
    · rw [UInt64.toNat_ofNat_of_lt' (requeue.lt (by decide))]
      exact requeue
    · exact (namespaceOf_text?_iff_givesNamespace (legible.not_illegible (by decide)) _).mp rfl
  · intro error read
    obtain ⟨misspelt, fault⟩ := misspelt_of_ofEnvironment legible read
    refine ⟨misspelt, rfl, fun other => ⟨?_, fault.unique⟩⟩
    rintro rfl
    exact fault

/-- The greatest period that 64 bits hold, behind a blank, a sign and zeros, and the next number, in
    front of a letter. -/
def overlongEnvironment : Environment := [
  (watchNamespaceKey, .text " web "),
  (resyncPeriodKey, .text "\u3000+0018446744073709551615\n"),
  (errorRequeueKey, .text "18446744073709551616s")]

theorem legible_overlongEnvironment : overlongEnvironment.Legible := by
  intro key isRead
  apply Or.inr
  simp only [List.mem_cons, List.not_mem_nil, or_false] at isRead
  rcases isRead with rfl | rfl | rfl
  · exact ⟨" web ", text?_eq_some_iff.mp rfl⟩
  · exact ⟨"\u3000+0018446744073709551615\n", text?_eq_some_iff.mp rfl⟩
  · exact ⟨"18446744073709551616s", text?_eq_some_iff.mp rfl⟩

/-- The second of two periods is the error, and its leading digits are what is wrong with it. -/
theorem settings_are_what_is_spelt_overlong :
    overlongEnvironment.Legible ∧
      overlongEnvironment.FirstMisspelt errorRequeueKey "18446744073709551616s" ∧
      SecondsFault "18446744073709551616s" .tooLarge := by
  have read : Config.ofEnvironment overlongEnvironment =
      .error ⟨errorRequeueKey, "18446744073709551616s", .tooLarge⟩ := by decide
  obtain ⟨-, -, failed⟩ := settings_are_what_is_spelt _ legible_overlongEnvironment
  obtain ⟨misspelt, -, fault⟩ := failed _ read
  exact ⟨legible_overlongEnvironment, misspelt, (fault _).mp rfl⟩

/-!
### Fallbacks
-/

/-- Settings fall back to nothing or to a default exactly where a variable is unset, is blank in the
    case of the namespace, or holds octets that are no text; any other variable is what its setting is. -/
theorem settings_fall_back_only_without_text (environment : Environment) (config : Config)
    (read : Config.ofEnvironment environment = .ok config) :
    (config.watchNamespace = none ↔
      (environment.Unset watchNamespaceKey ∨ environment.Illegible watchNamespaceKey) ∨
        ∃ text, environment.Holds watchNamespaceKey text ∧ Text.AllBlank text.toList) ∧
    (∀ name, config.watchNamespace = some name ↔
      environment.Holds watchNamespaceKey name ∧ ¬ Text.AllBlank name.toList) ∧
    (((environment.Unset resyncPeriodKey ∨ environment.Illegible resyncPeriodKey) ∧
        config.resyncPeriod = 300) ∨
      ∃ text, environment.Holds resyncPeriodKey text ∧
        SpellsSeconds text config.resyncPeriod.toNat) ∧
    (((environment.Unset errorRequeueKey ∨ environment.Illegible errorRequeueKey) ∧
        config.errorRequeue = 60) ∨
      ∃ text, environment.Holds errorRequeueKey text ∧
        SpellsSeconds text config.errorRequeue.toNat) := by
  obtain ⟨resync, requeue, watched⟩ := Config.ofLookup_eq_ok_iff.mp read
  rw [← watched]
  refine ⟨namespaceOf_text?_eq_none_iff, fun name => namespaceOf_text?_eq_some_iff, ?_, ?_⟩
  · exact secondsOr_text?_eq_ok_iff.mp resync
  · exact secondsOr_text?_eq_ok_iff.mp requeue

/-- A namespace and a period that end in an octet which no text has, and a period that is spelt. -/
def illegibleEnvironment : Environment := [
  (watchNamespaceKey, .octets [0x77, 0x65, 0x62, 0xFF]),
  (resyncPeriodKey, .octets [0x33, 0xFF]),
  (errorRequeueKey, .text " +05 ")]

theorem ofEnvironment_illegibleEnvironment :
    Config.ofEnvironment illegibleEnvironment = .ok ⟨none, 300, 5⟩ := by
  decide

theorem illegible_watchNamespace : illegibleEnvironment.Illegible watchNamespaceKey :=
  (text?_eq_none_iff.mp rfl).resolve_left nofun

theorem illegible_resyncPeriod : illegibleEnvironment.Illegible resyncPeriodKey :=
  (text?_eq_none_iff.mp rfl).resolve_left nofun

/-- The period that is spelt is the one that does not fall back. -/
theorem settings_fall_back_only_without_text_illegible :
    Config.ofEnvironment illegibleEnvironment = .ok ⟨none, 300, 5⟩ ∧
      ∃ text, illegibleEnvironment.Holds errorRequeueKey text ∧ SpellsSeconds text 5 := by
  obtain ⟨-, -, -, requeue⟩ :=
    settings_fall_back_only_without_text _ _ ofEnvironment_illegibleEnvironment
  refine ⟨ofEnvironment_illegibleEnvironment, requeue.resolve_left ?_⟩
  rintro ⟨-, fallen⟩
  exact absurd fallen (by decide)

/-- Variables that are set, and set to no blank, may all the same leave the namespace open and a period
    at its default. -/
theorem illegible_settings_are_dropped :
    Config.ofEnvironment illegibleEnvironment = .ok ⟨none, 300, 5⟩ ∧
      ¬ (illegibleEnvironment.Unset watchNamespaceKey ∨ ∃ text,
        illegibleEnvironment.Holds watchNamespaceKey text ∧ Text.AllBlank text.toList) ∧
      ¬ (illegibleEnvironment.Unset resyncPeriodKey ∨ ∃ text,
        illegibleEnvironment.Holds resyncPeriodKey text ∧ SpellsSeconds text 300) := by
  refine ⟨ofEnvironment_illegibleEnvironment, ?_, ?_⟩
  · rintro (unset | ⟨text, holds, -⟩)
    · exact illegible_watchNamespace.not_unset unset
    · exact illegible_watchNamespace.not_holds holds
  · rintro (unset | ⟨text, holds, -⟩)
    · exact illegible_resyncPeriod.not_unset unset
    · exact illegible_resyncPeriod.not_holds holds

end NginxFleet
