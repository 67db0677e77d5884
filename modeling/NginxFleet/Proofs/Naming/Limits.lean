/-
Module: NginxFleet.Proofs.Naming.Limits
Layer: Proofs
Purpose: Which instances get objects that a Kubernetes server accepts by their names and labels. The
  name of an instance is a subdomain, and it ends up in places with rules of their own: with one ending
  in the name of the deployment, which is a subdomain again, with another in the name of the service,
  which is a label that begins with a letter, and as it stands in the values of labels. Nothing is cut
  or checked on the way, so these rules bound the names of the instances that can be served.
Main exports: Dns.IsEnding, Dns.IsServiceLabel, Dns.IsLabelValue, Dns.IsSubdomain.append_iff,
  Dns.IsSubdomain.isServiceLabel_append_iff, Dns.IsSubdomain.isLabelValue_iff, built_names_fit_iff
-/
import Mathlib.Data.List.Basic
import NginxFleet.Proofs.Coherence.Built

namespace NginxFleet

/-!
### The last part
-/

namespace Text

/-- A mark keeps what stands before it apart from what stands behind it. -/
theorem splitChars_append_mark (mark : Char) (before rest : List Char) :
    splitChars mark (before ++ mark :: rest) = splitChars mark before ++ splitChars mark rest := by
  induction before with
  | nil => exact splitChars_append mark [] rest List.not_mem_nil
  | cons c before ih =>
      simp only [List.cons_append, splitChars, ih]
      cases parts : splitChars mark before with
      | nil => exact absurd parts (splitChars_ne_nil mark before)
      | cons part others =>
          by_cases isMark : c = mark
          · simp [isMark]
          · simp [isMark]

/-- A text ends with its last part, and what is put behind it without a mark makes only that part
    longer. -/
theorem exists_last_part (mark : Char) (chars : List Char) :
    ∃ front last before, splitChars mark chars = front ++ [last] ∧ chars = before ++ last ∧
      ∀ suffix, mark ∉ suffix → splitChars mark (chars ++ suffix) = front ++ [last ++ suffix] := by
  by_cases marked : mark ∈ chars
  · obtain ⟨behind, front, reversed, free⟩ :=
      List.eq_append_cons_of_mem (List.mem_reverse.mpr marked)
    have cut : chars = front.reverse ++ mark :: behind.reverse := by
      rw [← List.reverse_reverse chars, reversed]
      simp
    have free : mark ∉ behind.reverse := fun found => free (List.mem_reverse.mp found)
    refine ⟨splitChars mark front.reverse, behind.reverse, front.reverse ++ [mark], ?_, ?_, ?_⟩
    · rw [cut, splitChars_append_mark, splitChars_of_not_mem mark _ free]
    · rw [cut, List.append_assoc, List.singleton_append]
    · intro suffix whole
      rw [cut, List.append_assoc, List.cons_append, splitChars_append_mark]
      rw [splitChars_of_not_mem mark (behind.reverse ++ suffix)]
      rw [List.mem_append]
      exact not_or_intro free whole
  · refine ⟨[], chars, [], splitChars_of_not_mem mark chars marked, rfl, ?_⟩
    intro suffix whole
    apply splitChars_of_not_mem
    rw [List.mem_append]
    exact not_or_intro marked whole

/-- A text begins with its first part. -/
theorem exists_first_part (mark : Char) (chars : List Char) :
    ∃ first ∈ splitChars mark chars, first <+: chars := by
  by_cases marked : mark ∈ chars
  · obtain ⟨first, rest, rfl, free⟩ := List.eq_append_cons_of_mem marked
    rw [splitChars_append mark first rest free]
    exact ⟨first, List.mem_cons_self, List.prefix_append _ _⟩
  · rw [splitChars_of_not_mem mark chars marked]
    exact ⟨chars, List.mem_cons_self, List.prefix_rfl⟩

end Text

namespace Dns

/-!
### Rules for names and values
-/

/-- What makes a part longer and leaves it a part: letters, digits and dashes, with a letter or digit at
    the end. -/
structure IsEnding (suffix : List Char) : Prop where
  chars : ∀ c ∈ suffix, isPartChar c
  last : suffix.getLast?.any isAlnum

instance (suffix : List Char) : Decidable (IsEnding suffix) :=
  decidable_of_iff (suffix.all isPartChar ∧ suffix.getLast?.any isAlnum)
    ⟨fun h => ⟨List.all_eq_true.mp h.1, h.2⟩, fun h => ⟨List.all_eq_true.mpr h.chars, h.last⟩⟩

/-- The name of a service: one part that begins with a letter. -/
structure IsServiceLabel (name : String) : Prop extends IsLabel name where
  letter : name.toList.head?.any Char.isLower

/-- A character that may stand in the value of a label. -/
def isValueChar (c : Char) : Bool :=
  c.isAlphanum || c == '-' || c == '_' || c == '.'

/-- The value of a label: letters of either case, digits, dashes, underscores and dots, with a letter or
    digit at either end. -/
structure IsLabelValue (value : String) : Prop where
  chars : ∀ c ∈ value.toList, isValueChar c
  first : value.toList.head?.any Char.isAlphanum
  last : value.toList.getLast?.any Char.isAlphanum
  length : value.length ≤ 63

theorem isAlphanum_of_isAlnum {c : Char} (valid : isAlnum c) : c.isAlphanum := by
  show ((c.isUpper || c.isLower) || c.isDigit) = true
  rcases Bool.or_eq_true_iff.mp valid with letter | digit
  · have lower : c.isLower = true := letter
    rw [lower, Bool.or_true, Bool.true_or]
  · have digit : c.isDigit = true := digit
    rw [digit, Bool.or_true]

theorem isValueChar_of_isNameChar {c : Char} (valid : isNameChar c) : isValueChar c := by
  simp only [isNameChar, isPartChar, Bool.or_eq_true, beq_iff_eq] at valid
  rcases valid with (alnum | rfl) | rfl
  · simp [isValueChar, isAlphanum_of_isAlnum alnum]
  · rfl
  · rfl

theorem not_mem_of_isPartChar {chars : List Char} (valid : ∀ c ∈ chars, isPartChar c) :
    '.' ∉ chars := by
  intro found
  exact absurd (valid '.' found) (by decide)

theorem IsPart.append {part suffix : List Char} (valid : IsPart part) (ending : IsEnding suffix) :
    IsPart (part ++ suffix) where
  chars c found := by
    rcases List.mem_append.mp found with inside | behind
    · exact valid.chars c inside
    · exact ending.chars c behind
  first := by
    rw [List.head?_append_of_ne_nil _ valid.ne_nil]
    exact valid.first
  last := by
    have some_ : suffix ≠ [] := by
      rintro rfl
      exact absurd ending.last (by decide)
    rw [List.getLast?_append_of_ne_nil _ some_]
    exact ending.last

/-!
### Names with an ending
-/

namespace IsSubdomain

variable {name suffix : String}

theorem first (valid : IsSubdomain name) : name.toList.head?.any isAlnum := by
  obtain ⟨part, member, rest, whole⟩ := Text.exists_first_part '.' name.toList
  have isPart := valid.parts part member
  rw [← whole, List.head?_append_of_ne_nil _ isPart.ne_nil]
  exact isPart.first

theorem last (valid : IsSubdomain name) : name.toList.getLast?.any isAlnum := by
  obtain ⟨front, part, before, parts, whole, -⟩ := Text.exists_last_part '.' name.toList
  have isPart := valid.parts part (by simp [parts])
  rw [whole, List.getLast?_append_of_ne_nil _ isPart.ne_nil]
  exact isPart.last

theorem append_iff (valid : IsSubdomain name) (ending : IsEnding suffix.toList) :
    IsSubdomain (name ++ suffix) ↔ name.length + suffix.length ≤ 253 := by
  rw [← String.length_append]
  refine ⟨IsSubdomain.length, fun short => ⟨?_, short⟩⟩
  obtain ⟨front, last, before, parts, -, longer⟩ := Text.exists_last_part '.' name.toList
  have given := valid.parts
  rw [parts] at given
  rw [String.toList_append, longer _ (not_mem_of_isPartChar ending.chars)]
  intro part member
  rcases List.mem_append.mp member with inFront | isLast
  · exact given part (List.mem_append_left _ inFront)
  · rw [List.mem_singleton.mp isLast]
    exact (given last List.mem_concat_self).append ending

theorem isPart_append_iff (valid : IsSubdomain name) (ending : IsEnding suffix.toList) :
    IsPart (name ++ suffix).toList ↔ '.' ∉ name.toList := by
  rw [String.toList_append]
  constructor
  · intro whole found
    exact not_mem_of_isPartChar whole.chars (List.mem_append_left _ found)
  · intro whole
    have given := valid.parts
    rw [Text.splitChars_of_not_mem '.' _ whole] at given
    exact (given _ List.mem_cons_self).append ending

theorem isServiceLabel_append_iff (valid : IsSubdomain name) (ending : IsEnding suffix.toList) :
    IsServiceLabel (name ++ suffix) ↔
      '.' ∉ name.toList ∧ name.toList.head?.any Char.isLower ∧
        name.length + suffix.length ≤ 63 := by
  have some_ : name.toList ≠ [] := by
    intro nothing
    exact absurd valid.first (by simp [nothing])
  have begins : (name ++ suffix).toList.head? = name.toList.head? := by
    rw [String.toList_append, List.head?_append_of_ne_nil _ some_]
  rw [← isPart_append_iff valid ending, ← String.length_append, ← begins]
  constructor
  · intro label
    exact ⟨label.part, label.letter, label.length⟩
  · rintro ⟨part, letter, length⟩
    exact ⟨⟨part, length⟩, letter⟩

theorem isLabelValue_iff (valid : IsSubdomain name) : IsLabelValue name ↔ name.length ≤ 63 := by
  have alphanum : ∀ c? : Option Char, c?.any isAlnum → c?.any Char.isAlphanum := by
    rintro (_ | c) alnum
    · exact alnum
    · exact isAlphanum_of_isAlnum alnum
  refine ⟨IsLabelValue.length, fun short => ⟨?_, ?_, ?_, short⟩⟩
  · intro c found
    exact isValueChar_of_isNameChar (valid.isNameChar c found)
  · exact alphanum _ valid.first
  · exact alphanum _ valid.last

end IsSubdomain

/-- A name of two parts that begins with a digit. -/
def dottedName (n : Nat) : String :=
  String.ofList (['0'] ++ '.' :: List.replicate n 'a')

theorem length_dottedName (n : Nat) : (dottedName n).length = n + 2 := by
  simp only [dottedName, String.length_ofList, List.length_append, List.length_cons,
    List.length_nil, List.length_replicate]
  omega

theorem isPart_replicate {n : Nat} (some_ : n ≠ 0) : IsPart (List.replicate n 'a') where
  chars c found := by
    rw [List.eq_of_mem_replicate found]
    rfl
  first := by
    rw [List.head?_replicate, if_neg some_]
    rfl
  last := by
    rw [List.getLast?_replicate, if_neg some_]
    rfl

theorem isSubdomain_dottedName {n : Nat} (some_ : n ≠ 0) (short : n ≤ 251) :
    IsSubdomain (dottedName n) where
  parts := by
    have behind := isPart_replicate some_
    rw [dottedName, String.toList_ofList, Text.splitChars_append '.' ['0'] _ (by decide),
      Text.splitChars_of_not_mem '.' _ (not_mem_of_isPartChar behind.chars)]
    intro part member
    rcases List.mem_cons.mp member with rfl | last
    · decide
    · rw [List.mem_singleton.mp last]
      exact behind
  length := by
    rw [length_dottedName]
    omega

end Dns

/-!
### Built objects
-/

/-- The labels of a deployment: its own, those that it selects by and those of its pods. -/
def Deployment.labelPlaces (deployment : Deployment) : List (Option Labels) :=
  [deployment.metadata.labels, deployment.spec.bind fun spec => spec.selector.matchLabels,
    deployment.podLabels?]

/-- The labels of a service: its own and those that it selects by. -/
def Service.labelPlaces (service : Service) : List (Option Labels) :=
  [service.metadata.labels, service.spec.bind ServiceSpec.selector]

/-- Every label has a value that the server accepts. -/
def Labels.Valued (labels : Labels) : Prop :=
  ∀ entry ∈ labels.entries, Dns.IsLabelValue entry.2

theorem valued_labelsFor_iff {name : String} (valid : Dns.IsSubdomain name) :
    (labelsFor name).Valued ↔ name.length ≤ 63 := by
  have app : Dns.IsLabelValue appValue :=
    ⟨List.all_eq_true.mp (by decide), by decide, by decide, by decide⟩
  rw [Labels.Valued, entries_labelsFor, List.forall_mem_cons, List.forall_mem_singleton,
    valid.isLabelValue_iff]
  exact and_iff_right app

theorem isEnding_deployment : Dns.IsEnding "-deployment".toList := by decide

theorem isEnding_service : Dns.IsEnding "-service".toList := by decide

section Built

variable {nginx : Nginx} {name : String}

theorem Nginx.name_of_given (named : nginx.metadata.name = some name) : nginx.name = name := by
  rw [Nginx.name, ObjectMeta.displayName, named, Option.getD_some]

theorem labelPlaces_desired (named : nginx.metadata.name = some name) :
    ∀ labels? ∈ nginx.desiredDeployment.labelPlaces ++ nginx.desiredService.labelPlaces,
      labels? = some (labelsFor name) := by
  rw [← Nginx.name_of_given named]
  intro labels? place
  have all : nginx.desiredDeployment.labelPlaces ++ nginx.desiredService.labelPlaces =
      List.replicate 5 (some (labelsFor nginx.name)) := rfl
  rw [all] at place
  exact List.eq_of_mem_replicate place

theorem names_desired (named : nginx.metadata.name = some name) :
    nginx.desiredDeployment.metadata.name = some (name ++ "-deployment") ∧
      nginx.desiredService.metadata.name = some (name ++ "-service") := by
  rw [← Nginx.name_of_given named]
  exact ⟨rfl, rfl⟩

/-- Of an instance whose name is a subdomain, the deployment has a name that the server accepts exactly
    if the name is not longer than 242 characters, the service exactly if the name is one part of at most
    55 characters that begins with a letter, and the labels have values that it accepts exactly if the
    name is not longer than 63 characters. -/
theorem built_names_fit_iff (named : nginx.metadata.name = some name)
    (valid : Dns.IsSubdomain name) :
    ((∃ built, nginx.desiredDeployment.metadata.name = some built ∧ Dns.IsSubdomain built) ↔
      name.length ≤ 242) ∧
    ((∃ built, nginx.desiredService.metadata.name = some built ∧ Dns.IsServiceLabel built) ↔
      '.' ∉ name.toList ∧ name.toList.head?.any Char.isLower ∧ name.length ≤ 55) ∧
    ∀ labels? ∈ nginx.desiredDeployment.labelPlaces ++ nginx.desiredService.labelPlaces,
      ∃ labels, labels? = some labels ∧ (labels.Valued ↔ name.length ≤ 63) := by
  obtain ⟨deployment, service⟩ := names_desired named
  refine ⟨?_, ?_, ?_⟩
  · simp only [deployment, Option.some.injEq, exists_eq_left']
    have limit : name.length + "-deployment".length ≤ 253 ↔ name.length ≤ 242 :=
      Nat.add_le_add_iff_right
    rw [valid.append_iff isEnding_deployment, limit]
  · simp only [service, Option.some.injEq, exists_eq_left']
    have limit : name.length + "-service".length ≤ 63 ↔ name.length ≤ 55 :=
      Nat.add_le_add_iff_right
    rw [valid.isServiceLabel_append_iff isEnding_service, limit]
  · intro labels? place
    exact ⟨labelsFor name, labelPlaces_desired named _ place, valued_labelsFor_iff valid⟩

end Built

/-- An instance that has a name and nothing else. -/
def namedNginx (name : String) : Nginx where
  metadata := { name := some name }
  spec := {}

/-- The objects of a short name of one part are accepted. -/
theorem built_names_fit_iff_short :
    let nginx := namedNginx "web"
    nginx.metadata.name = some "web" ∧ Dns.IsSubdomain "web" ∧
      (∃ built, nginx.desiredDeployment.metadata.name = some built ∧ Dns.IsSubdomain built) ∧
      (∃ built, nginx.desiredService.metadata.name = some built ∧ Dns.IsServiceLabel built) ∧
      ∀ labels? ∈ nginx.desiredDeployment.labelPlaces ++ nginx.desiredService.labelPlaces,
        ∃ labels, labels? = some labels ∧ labels.Valued := by
  intro nginx
  have named : nginx.metadata.name = some "web" := rfl
  have valid : Dns.IsSubdomain "web" := ⟨by decide, by decide⟩
  obtain ⟨deployment, service, places⟩ := built_names_fit_iff named valid
  refine ⟨named, valid, deployment.mpr (by decide), service.mpr (by decide), ?_⟩
  intro labels? place
  obtain ⟨labels, there, fits⟩ := places labels? place
  exact ⟨labels, there, fits.mpr (by decide)⟩

/-- A name may be accepted for an instance while every name and every label that is built from it is
    refused. -/
theorem refused_objects_of_accepted_name :
    let name := Dns.dottedName 241
    let nginx := namedNginx name
    nginx.metadata.name = some name ∧ Dns.IsSubdomain name ∧
      (∀ built, nginx.desiredDeployment.metadata.name = some built → ¬ Dns.IsSubdomain built) ∧
      (∀ built, nginx.desiredService.metadata.name = some built → ¬ Dns.IsServiceLabel built) ∧
      ∀ labels? ∈ nginx.desiredDeployment.labelPlaces ++ nginx.desiredService.labelPlaces,
        ∃ labels, labels? = some labels ∧ ¬ labels.Valued := by
  intro name nginx
  have named : nginx.metadata.name = some name := rfl
  have valid : Dns.IsSubdomain name := Dns.isSubdomain_dottedName (by decide) (by decide)
  have length : name.length = 243 := Dns.length_dottedName 241
  obtain ⟨deployment, service⟩ := names_desired named
  refine ⟨named, valid, ?_, ?_, ?_⟩
  · intro built given accepted
    rw [deployment, Option.some.injEq] at given
    rw [← given, valid.append_iff isEnding_deployment, length] at accepted
    exact absurd accepted (by decide)
  · intro built given accepted
    rw [service, Option.some.injEq] at given
    rw [← given, valid.isServiceLabel_append_iff isEnding_service, length] at accepted
    exact absurd accepted.2.2 (by decide)
  · intro labels? place
    refine ⟨labelsFor name, labelPlaces_desired named _ place, ?_⟩
    rw [valued_labelsFor_iff valid, length]
    decide

end NginxFleet
