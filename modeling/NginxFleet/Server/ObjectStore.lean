/-
Module: NginxFleet.Server.ObjectStore
Layer: Server
Purpose: Objects kept as documents under their collection, namespace and name. What is under a key is
  the view of a store: setting and removing an object change it at their key only.
Main exports: ObjectStore, ObjectStore.get?, ObjectStore.put, ObjectStore.remove,
  ObjectStore.toList
-/
import NginxFleet.Json.Basic
import NginxFleet.Object.Place

namespace NginxFleet

/-- Objects by collection, namespace and name. -/
structure ObjectStore where
  collections : KeyMap (KeyMap (KeyMap Json)) := KeyMap.empty
deriving DecidableEq, Repr, Inhabited

namespace ObjectStore

/-- The namespaces of a collection with their objects. -/
def namespaces (store : ObjectStore) (collection : String) : KeyMap (KeyMap Json) :=
  (store.collections.get? collection).getD KeyMap.empty

/-- The objects of a collection in a namespace. -/
def objects (store : ObjectStore) (collection namespaceName : String) : KeyMap Json :=
  ((store.namespaces collection).get? namespaceName).getD KeyMap.empty

/-- The object under a key. -/
def get? (store : ObjectStore) (key : ObjectKey) : Option Json :=
  (store.objects key.collection key.namespaceName).get? key.name

/-- The store with other objects of a collection in a namespace. -/
def withObjects (store : ObjectStore) (collection namespaceName : String)
    (objects : KeyMap Json) : ObjectStore where
  collections := store.collections.insert collection
    ((store.namespaces collection).insert namespaceName objects)

/-- The store with an object under a key. -/
def put (store : ObjectStore) (key : ObjectKey) (object : Json) : ObjectStore :=
  store.withObjects key.collection key.namespaceName
    ((store.objects key.collection key.namespaceName).insert key.name object)

/-- The store without an object under a key. -/
def remove (store : ObjectStore) (key : ObjectKey) : ObjectStore :=
  store.withObjects key.collection key.namespaceName
    ((store.objects key.collection key.namespaceName).erase key.name)

/-- All keys with their objects, in order of collection, namespace and name. -/
def toList (store : ObjectStore) : List (ObjectKey × Json) :=
  store.collections.entries.flatMap fun (collection, namespaces) =>
    namespaces.entries.flatMap fun (namespaceName, objects) =>
      objects.entries.map fun (name, object) => (⟨collection, namespaceName, name⟩, object)

/-!
### What is under a key
-/

@[simp] theorem get?_empty (key : ObjectKey) : (⟨KeyMap.empty⟩ : ObjectStore).get? key = none := rfl

theorem mem_toList_of_get? {store : ObjectStore} {key : ObjectKey} {object : Json}
    (found : store.get? key = some object) : (key, object) ∈ store.toList := by
  unfold get? ObjectStore.objects ObjectStore.namespaces at found
  cases inCollection : store.collections.get? key.collection with
  | none =>
    rw [inCollection] at found
    cases found
  | some namespaces =>
    rw [inCollection, Option.getD_some] at found
    cases inNamespace : namespaces.get? key.namespaceName with
    | none =>
      rw [inNamespace] at found
      cases found
    | some objects =>
      rw [inNamespace, Option.getD_some] at found
      unfold toList
      refine List.mem_flatMap.mpr ⟨_, KeyMap.mem_of_get? inCollection, ?_⟩
      refine List.mem_flatMap.mpr ⟨_, KeyMap.mem_of_get? inNamespace, ?_⟩
      exact List.mem_map.mpr ⟨_, KeyMap.mem_of_get? found, rfl⟩

theorem objects_withObjects (store : ObjectStore) (collection namespaceName : String)
    (objects : KeyMap Json) (otherCollection otherNamespace : String) :
    (store.withObjects collection namespaceName objects).objects otherCollection otherNamespace =
      if otherCollection = collection ∧ otherNamespace = namespaceName then objects
      else store.objects otherCollection otherNamespace := by
  by_cases hc : otherCollection = collection
  · subst hc
    by_cases hn : otherNamespace = namespaceName
    · subst hn
      simp [ObjectStore.objects, ObjectStore.namespaces, withObjects, KeyMap.get?_insert]
    · simp [ObjectStore.objects, ObjectStore.namespaces, withObjects, KeyMap.get?_insert, hn]
  · simp [ObjectStore.objects, ObjectStore.namespaces, withObjects, KeyMap.get?_insert, hc]

/-- Objects of one place that are changed at one name only change what is under this key only. -/
theorem get?_withObjects {store : ObjectStore} {key other : ObjectKey} {changed : KeyMap Json}
    {value : Option Json}
    (alters : ∀ name, changed.get? name =
      if name = key.name then value
      else (store.objects key.collection key.namespaceName).get? name) :
    (store.withObjects key.collection key.namespaceName changed).get? other =
      if other = key then value else store.get? other := by
  obtain ⟨collection, namespaceName, name⟩ := key
  obtain ⟨otherCollection, otherNamespace, otherName⟩ := other
  simp only [get?, objects_withObjects, ObjectKey.mk.injEq]
  by_cases hc : otherCollection = collection
  · subst hc
    by_cases hn : otherNamespace = namespaceName
    · subst hn
      simp [alters]
    · simp [hn]
  · simp [hc]

/-- Setting an object changes what is under its key only. -/
theorem get?_put (store : ObjectStore) (key other : ObjectKey) (object : Json) :
    (store.put key object).get? other = if other = key then some object else store.get? other :=
  get?_withObjects fun name => KeyMap.get?_insert _ _ name _

/-- Removing an object changes what is under its key only. -/
theorem get?_remove (store : ObjectStore) (key other : ObjectKey) :
    (store.remove key).get? other = if other = key then none else store.get? other :=
  get?_withObjects fun name => KeyMap.get?_erase _ _ name

end ObjectStore

end NginxFleet
