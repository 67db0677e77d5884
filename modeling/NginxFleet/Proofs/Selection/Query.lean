/-
Module: NginxFleet.Proofs.Selection.Query
Layer: Proofs
Purpose: A selector survives being written into a query. The query gives back the text that was encoded,
  the text is taken apart into the requirements of which it was joined, and these are met exactly by
  the labels that have every entry. Only a comma in a label could be taken for the end of a
  requirement, and an equals sign in a key for the end of the key.
Main exports: Text.queryText?, queryText?_listPods, Selector.ofLabels, Selector.ofText_selectorText,
  Selector.selects_ofLabels_iff, Selector.ofQuery_listPods
-/
import NginxFleet.Proofs.Coherence.Built
import NginxFleet.Proofs.Text.FormEncoded

namespace NginxFleet

namespace Text

/-- A text that was joined of parts without the mark is taken apart into them. -/
theorem splitChars_intercalate {mark : Char} {parts : List (List Char)} (some_ : parts ≠ [])
    (free : ∀ part ∈ parts, mark ∉ part) :
    splitChars mark ([mark].intercalate parts) = parts := by
  induction parts with
  | nil => exact absurd rfl some_
  | cons part rest ih =>
      have first := free part List.mem_cons_self
      cases rest with
      | nil =>
          rw [List.intercalate_singleton]
          exact splitChars_of_not_mem mark part first
      | cons next later =>
          have others := ih (List.cons_ne_nil _ _) fun part member =>
            free part (List.mem_cons_of_mem _ member)
          rw [List.intercalate_cons_cons, List.append_assoc, List.singleton_append,
            splitChars_append mark part _ first, others]

theorem cutAt?_equals {key : String} (free : '=' ∉ key.toList) (value : String) :
    cutAt? '=' (key ++ "=" ++ value) = some (key, value) := by
  have chars : (key ++ "=" ++ value).toList = key.toList ++ '=' :: value.toList := by simp
  rw [cutAt?, chars, cutCharsAt?_append free]
  simp

/-- The text that a query gives for a key. -/
def queryText? (key query : String) : Option String :=
  (((split '&' query).filterMap (cutAt? '=')).lookup key).bind formDecode

theorem queryText?_encoded {key : String} (ampersand : '&' ∉ key.toList)
    (equals : '=' ∉ key.toList) (text : String) :
    queryText? key ("&" ++ key ++ "=" ++ formEncode text) = some text := by
  have value := (separators_not_mem_formEncode text).1
  have parts : split '&' ("&" ++ key ++ "=" ++ formEncode text) =
      ["", key ++ "=" ++ formEncode text] := by
    have chars : ("&" ++ key ++ "=" ++ formEncode text).toList =
        [] ++ '&' :: (key ++ "=" ++ formEncode text).toList := by simp
    have whole : '&' ∉ (key ++ "=" ++ formEncode text).toList := by
      simp [ampersand, value]
    rw [split, chars, splitChars_append '&' [] _ List.not_mem_nil,
      splitChars_of_not_mem '&' _ whole]
    simp [String.append_assoc]
  have empty : cutAt? '=' "" = none := rfl
  rw [queryText?, parts]
  simp [empty, cutAt?_equals equals, formDecode_formEncode]

end Text

/-- The query with which pods are listed gives the selector of the instance. -/
theorem queryText?_listPods (nginx : Nginx) :
    Text.queryText? "labelSelector" (Call.listPods.query nginx) =
      some (labelSelector nginx.name) :=
  Text.queryText?_encoded (by decide) (by decide) _

namespace Selector

/-- The requirements that labels have the very entries of others. -/
def ofLabels (labels : Labels) : Selector :=
  labels.entries.map fun entry => { key := entry.1, value := entry.2 }

theorem filterMap_ofText? {entries : List (String × String)}
    (keys : ∀ entry ∈ entries, '=' ∉ entry.1.toList) :
    entries.filterMap (fun entry => Requirement.ofText? (entry.1 ++ "=" ++ entry.2)) =
      entries.map fun entry => { key := entry.1, value := entry.2 } := by
  induction entries with
  | nil => rfl
  | cons entry rest ih =>
      have first : Requirement.ofText? (entry.1 ++ "=" ++ entry.2) =
          some { key := entry.1, value := entry.2 } := by
        rw [Requirement.ofText?, Text.cutAt?_equals (keys entry List.mem_cons_self)]
        rfl
      have others := ih fun entry among => keys entry (List.mem_cons_of_mem _ among)
      simp only [List.filterMap_cons, first, others, List.map_cons]

/-- A selector that was put together from labels is taken apart into their entries. -/
theorem ofText_selectorText {labels : Labels}
    (keys : ∀ entry ∈ labels.entries, ',' ∉ entry.1.toList ∧ '=' ∉ entry.1.toList)
    (values : ∀ entry ∈ labels.entries, ',' ∉ entry.2.toList) :
    ofText (selectorText labels) = ofLabels labels := by
  unfold ofText selectorText ofLabels
  generalize labels.entries = entries at keys values ⊢
  by_cases none_ : entries = []
  · subst none_
    rfl
  · have free : ∀ part ∈ (entries.map fun entry => entry.1 ++ "=" ++ entry.2).map String.toList,
        ',' ∉ part := by
      intro part member
      obtain ⟨text, written, rfl⟩ := List.mem_map.mp member
      obtain ⟨entry, among, rfl⟩ := List.mem_map.mp written
      simp [(keys entry among).1, values entry among]
    rw [Text.split, String.toList_intercalate, show ",".toList = [','] from rfl,
      Text.splitChars_intercalate (by simpa using none_) free, List.map_map]
    simp only [Function.comp_def, String.ofList_toList, List.map_id', List.filterMap_map]
    exact filterMap_ofText? fun entry among => (keys entry among).2

/-- Labels meet the requirements of others exactly if they have all their entries. -/
theorem selects_ofLabels_iff {labels pod : Labels} :
    (ofLabels labels).selects pod.get? ↔ pod.Satisfy labels := by
  simp [selects, ofLabels, Labels.Satisfy]

/-- The pods that are listed for an instance are read as those with its labels, unless a comma in its
    name ends a requirement. -/
theorem ofQuery_listPods {nginx : Nginx} (free : ',' ∉ nginx.name.toList) :
    ofQuery (Call.listPods.query nginx) = ofLabels (labelsFor nginx.name) := by
  have text : ofQuery (Call.listPods.query nginx) = ofText (labelSelector nginx.name) := by
    have given := queryText?_listPods nginx
    unfold Text.queryText? at given
    simp only [ofQuery, given]
  rw [text, labelSelector]
  have keys : ∀ key ∈ [appKey, instanceKey], ',' ∉ key.toList ∧ '=' ∉ key.toList := by decide
  apply ofText_selectorText <;> rw [entries_labelsFor] <;>
    simp only [List.forall_mem_cons, List.not_mem_nil, false_implies, implies_true, and_true]
  · exact ⟨keys appKey (by simp), keys instanceKey (by simp)⟩
  · exact ⟨by decide, free⟩

end Selector

end NginxFleet
