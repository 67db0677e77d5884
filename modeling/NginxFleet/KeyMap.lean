/-
Module: NginxFleet.KeyMap
Layer: Data
Purpose: Finite maps from names to values, kept as entries in strictly ascending order of their
  keys. The order belongs to the type, so two maps with the same entries are equal, printing goes
  in key order, and labels can be compared as they stand.
Main exports: KeyMap, KeyMap.get?, KeyMap.insert, KeyMap.ofList, KeyMap.get?_insert, KeyMap.ext_get?
-/

namespace NginxFleet

/-- The keys of the entries ascend strictly, by code point. -/
def Ascending {α : Type} (entries : List (String × α)) : Prop :=
  entries.Pairwise fun a b => a.1 < b.1

instance {α : Type} (entries : List (String × α)) : Decidable (Ascending entries) :=
  inferInstanceAs (Decidable (List.Pairwise _ entries))

/-- A finite map whose entries stand in ascending order of their keys. -/
structure KeyMap (α : Type) where
  entries : List (String × α)
  ascending : Ascending entries
deriving DecidableEq, Repr

/-- The entries with one entry set: in its place by key, instead of an entry of the same key. -/
def insertEntry {α : Type} (key : String) (value : α) : List (String × α) → List (String × α)
  | [] => [(key, value)]
  | (k, v) :: rest =>
    if key < k then (key, value) :: (k, v) :: rest
    else if key = k then (key, value) :: rest
    else (k, v) :: insertEntry key value rest

/-- An entry after setting one is the one set or an earlier entry. -/
theorem mem_insertEntry {α : Type} {key : String} {value : α} {entries : List (String × α)}
    {entry : String × α} (h : entry ∈ insertEntry key value entries) :
    entry = (key, value) ∨ entry ∈ entries := by
  induction entries with
  | nil => simpa [insertEntry] using h
  | cons head rest ih =>
    obtain ⟨k, v⟩ := head
    simp only [insertEntry] at h
    split at h
    · simpa using h
    · split at h
      · rcases List.mem_cons.mp h with h | h
        · exact .inl h
        · exact .inr (List.mem_cons_of_mem _ h)
      · rcases List.mem_cons.mp h with h | h
        · exact .inr (by simp [h])
        · rcases ih h with h | h
          · exact .inl h
          · exact .inr (List.mem_cons_of_mem _ h)

/-- Two keys of which neither is smaller are equal. -/
theorem lt_of_not_lt_of_ne {a b : String} (h : ¬ a < b) (hne : a ≠ b) : b < a :=
  Decidable.byContradiction fun hba =>
    hne (String.le_antisymm (String.not_lt.mp hba) (String.not_lt.mp h))

/-- Setting an entry keeps the order of the keys. -/
theorem ascending_insertEntry {α : Type} {key : String} {value : α}
    {entries : List (String × α)} (h : Ascending entries) :
    Ascending (insertEntry key value entries) := by
  induction entries with
  | nil => simp [insertEntry, Ascending]
  | cons head rest ih =>
    obtain ⟨k, v⟩ := head
    have hrest := List.pairwise_cons.mp h
    simp only [insertEntry]
    split
    · rename_i hlt
      refine List.pairwise_cons.mpr ⟨?_, h⟩
      intro e he
      rcases List.mem_cons.mp he with rfl | he
      · exact hlt
      · exact String.lt_trans hlt (hrest.1 e he)
    · split
      · rename_i heq
        subst heq
        exact List.pairwise_cons.mpr ⟨hrest.1, hrest.2⟩
      · rename_i hlt hne
        refine List.pairwise_cons.mpr ⟨?_, ih hrest.2⟩
        intro e he
        rcases mem_insertEntry he with rfl | he
        · exact lt_of_not_lt_of_ne hlt hne
        · exact hrest.1 e he

namespace KeyMap

variable {α : Type}

/-- The map without entries. -/
def empty : KeyMap α := ⟨[], List.Pairwise.nil⟩

instance : Inhabited (KeyMap α) := ⟨empty⟩

/-- The map with one entry set. -/
def insert (map : KeyMap α) (key : String) (value : α) : KeyMap α :=
  ⟨insertEntry key value map.entries, ascending_insertEntry map.ascending⟩

/-- The map of a list of entries; of several with one key the last counts. -/
def ofList (entries : List (String × α)) : KeyMap α :=
  entries.foldl (fun map entry => map.insert entry.1 entry.2) empty

/-- The value under a key. -/
def get? (map : KeyMap α) (key : String) : Option α :=
  map.entries.lookup key

/-- The map without the entry under a key. -/
def erase (map : KeyMap α) (key : String) : KeyMap α :=
  ⟨map.entries.filter fun entry => entry.1 != key, List.Pairwise.filter _ map.ascending⟩

@[simp] theorem get?_empty (key : String) : (empty : KeyMap α).get? key = none := rfl

/-- The first entry of a list is found under its key only. -/
theorem lookup_entry_cons (entry : String × α) (rest : List (String × α)) (key : String) :
    (entry :: rest).lookup key = if key = entry.1 then some entry.2 else rest.lookup key := by
  obtain ⟨k, v⟩ := entry
  by_cases h : key = k
  · simp [h]
  · simp [List.lookup_cons, beq_eq_false_iff_ne.mpr h, h]

/-- Looking a key up after setting an entry finds the new value under its key and the old value
    under any other. -/
theorem lookup_insertEntry (entries : List (String × α)) (key other : String) (value : α) :
    (insertEntry key value entries).lookup other =
      if other = key then some value else entries.lookup other := by
  induction entries with
  | nil => simp only [insertEntry, lookup_entry_cons]
  | cons head rest ih =>
    obtain ⟨k, v⟩ := head
    simp only [insertEntry]
    split
    · simp only [lookup_entry_cons]
    · split
      · rename_i heq
        subst heq
        simp only [lookup_entry_cons]
        split <;> rfl
      · rename_i hlt hne
        simp only [lookup_entry_cons, ih]
        by_cases hk : other = k
        · subst hk
          simp [Ne.symm hne]
        · simp [hk]

theorem get?_insert (map : KeyMap α) (key other : String) (value : α) :
    (map.insert key value).get? other = if other = key then some value else map.get? other :=
  lookup_insertEntry map.entries key other value

/-- Looking a key up after removing one finds nothing under it and the old value under any other. -/
theorem lookup_filter_ne (entries : List (String × α)) (key other : String) :
    (entries.filter fun entry => entry.1 != key).lookup other =
      if other = key then none else entries.lookup other := by
  induction entries with
  | nil => simp
  | cons head rest ih =>
    by_cases hk : head.1 = key
    · simp only [List.filter_cons, hk, bne_self_eq_false, Bool.false_eq_true, if_false, ih,
        lookup_entry_cons]
      split <;> rfl
    · simp only [List.filter_cons, bne_iff_ne.mpr hk, if_true, lookup_entry_cons, ih]
      by_cases ho : other = head.1
      · simp [ho, hk]
      · simp [ho]

theorem get?_erase (map : KeyMap α) (key other : String) :
    (map.erase key).get? other = if other = key then none else map.get? other :=
  lookup_filter_ne map.entries key other

/-- A key below all keys of the entries is under none of them. -/
theorem lookup_eq_none_of_lt {entries : List (String × α)} {key : String}
    (h : ∀ entry ∈ entries, key < entry.1) : entries.lookup key = none := by
  induction entries with
  | nil => rfl
  | cons head rest ih =>
    have hlt := h head (List.mem_cons_self)
    have hne : key ≠ head.1 := fun heq => String.lt_irrefl key (by rwa [← heq] at hlt)
    rw [lookup_entry_cons, if_neg hne]
    exact ih fun e he => h e (List.mem_cons_of_mem _ he)

/-- The first keys of two ascending lists that agree under every key are not one below the other. -/
theorem not_lt_of_lookup {a b : String × α} {left right : List (String × α)}
    (hr : Ascending (b :: right))
    (h : ∀ key, (a :: left).lookup key = (b :: right).lookup key) : ¬ a.1 < b.1 := by
  intro hlt
  have hnone : (b :: right).lookup a.1 = none := lookup_eq_none_of_lt fun e he => by
    rcases List.mem_cons.mp he with rfl | he
    · exact hlt
    · exact String.lt_trans hlt ((List.pairwise_cons.mp hr).1 e he)
  have hsome := h a.1
  rw [hnone, lookup_entry_cons, if_pos rfl] at hsome
  cases hsome

/-- Entries in ascending order are determined by what is found under each key. -/
theorem entries_eq_of_lookup {left right : List (String × α)} (hl : Ascending left)
    (hr : Ascending right) (h : ∀ key, left.lookup key = right.lookup key) : left = right := by
  induction left generalizing right with
  | nil =>
    cases right with
    | nil => rfl
    | cons b right =>
      have := h b.1
      rw [lookup_entry_cons, if_pos rfl] at this
      cases this
  | cons a left ih =>
    cases right with
    | nil =>
      have := h a.1
      rw [lookup_entry_cons, if_pos rfl] at this
      cases this
    | cons b right =>
      have hla := List.pairwise_cons.mp hl
      have hrb := List.pairwise_cons.mp hr
      have hkey : a.1 = b.1 := by
        refine Decidable.byContradiction fun hne => ?_
        exact not_lt_of_lookup hl (fun key => (h key).symm)
          (lt_of_not_lt_of_ne (not_lt_of_lookup hr h) hne)
      have hvalue : a.2 = b.2 := by
        have hboth := h a.1
        rw [lookup_entry_cons, lookup_entry_cons, if_pos rfl, if_pos hkey] at hboth
        exact Option.some.inj hboth
      have hhead : a = b := Prod.ext hkey hvalue
      subst hhead
      refine congrArg (a :: ·) (ih hla.2 hrb.2 fun key => ?_)
      by_cases hk : key = a.1
      · subst hk
        rw [lookup_eq_none_of_lt hla.1, lookup_eq_none_of_lt hrb.1]
      · have hboth := h key
        rwa [lookup_entry_cons, lookup_entry_cons, if_neg hk, if_neg hk] at hboth

/-- Maps that hold the same value under every key are equal. -/
theorem ext_get? {left right : KeyMap α} (h : ∀ key, left.get? key = right.get? key) :
    left = right := by
  obtain ⟨le, la⟩ := left
  obtain ⟨re, ra⟩ := right
  have := entries_eq_of_lookup la ra h
  subst this
  rfl

/-- Each entry is found under its key. -/
theorem lookup_of_mem {entries : List (String × α)} (ascending : Ascending entries)
    {entry : String × α} (h : entry ∈ entries) : entries.lookup entry.1 = some entry.2 := by
  induction entries with
  | nil => cases h
  | cons head rest ih =>
    have hrest := List.pairwise_cons.mp ascending
    rw [lookup_entry_cons]
    rcases List.mem_cons.mp h with rfl | h
    · rw [if_pos rfl]
    · have hne : entry.1 ≠ head.1 := by
        intro heq
        exact String.lt_irrefl head.1 (heq ▸ hrest.1 entry h)
      rw [if_neg hne]
      exact ih hrest.2 h

theorem get?_of_mem {map : KeyMap α} {entry : String × α} (h : entry ∈ map.entries) :
    map.get? entry.1 = some entry.2 :=
  lookup_of_mem map.ascending h

theorem mem_of_get? {map : KeyMap α} {key : String} {value : α} (h : map.get? key = some value) :
    (key, value) ∈ map.entries := by
  obtain ⟨before, after, heq, -⟩ := List.lookup_eq_some_iff.mp h
  rw [heq]
  simp

theorem lookup_eq_none_iff {entries : List (String × α)} {key : String} :
    entries.lookup key = none ↔ key ∉ entries.map Prod.fst := by
  induction entries with
  | nil => simp
  | cons head rest ih =>
    rw [lookup_entry_cons, List.map_cons, List.mem_cons]
    by_cases h : key = head.1
    · simp [h]
    · simp [h, ih]

/-- Setting an entry whose key is above all others appends it. -/
theorem insertEntry_append {entries : List (String × α)} {key : String} {value : α}
    (h : ∀ entry ∈ entries, entry.1 < key) :
    insertEntry key value entries = entries ++ [(key, value)] := by
  induction entries with
  | nil => rfl
  | cons head rest ih =>
    have hlt := h head (by simp)
    have hnot : ¬ key < head.1 := String.lt_asymm hlt
    have hne : key ≠ head.1 := fun heq => String.lt_irrefl key (by rwa [← heq] at hlt)
    simp [insertEntry, hnot, hne, ih fun e he => h e (List.mem_cons_of_mem _ he)]

/-- Setting ascending entries one after another appends them. -/
theorem entries_foldl_insert (done rest : List (String × α)) (h : Ascending (done ++ rest))
    (map : KeyMap α) (hmap : map.entries = done) :
    (rest.foldl (fun map entry => map.insert entry.1 entry.2) map).entries = done ++ rest := by
  induction rest generalizing done map with
  | nil => simp [hmap]
  | cons head rest ih =>
    have hbelow : ∀ entry ∈ done, entry.1 < head.1 := by
      intro e he
      exact (List.pairwise_append.mp h).2.2 e he head (by simp)
    have hstep : (map.insert head.1 head.2).entries = done ++ [head] := by
      simp [insert, hmap, insertEntry_append hbelow]
    have := ih (done ++ [head]) (by simpa using h) (map.insert head.1 head.2) hstep
    simpa using this

/-- A map is the map of its own entries. -/
@[simp] theorem ofList_entries (map : KeyMap α) : ofList map.entries = map := by
  have h := entries_foldl_insert [] map.entries (by simpa using map.ascending) empty rfl
  obtain ⟨entries, ascending⟩ := map
  unfold ofList
  generalize entries.foldl (fun map entry => map.insert entry.1 entry.2) empty = built at h
  obtain ⟨es, as⟩ := built
  simp only [List.nil_append] at h
  subst h
  rfl

end KeyMap

end NginxFleet
