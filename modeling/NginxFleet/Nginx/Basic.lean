/-
Module: NginxFleet.Nginx.Basic
Layer: Nginx
Purpose: The Nginx resource that users declare: how many servers to run, from which image and with
  which configuration, and, as its status, the pods last seen. Fields left out have defaults. The
  names of the objects built for an instance derive from its own.
Main exports: ConfigRef, NginxSpec, PodEntry, PodEntry.sorted, NginxStatus, Nginx
-/
import NginxFleet.Object.Meta

namespace NginxFleet

/-- A reference to the config map with the configuration files. -/
structure ConfigRef where
  name : String
deriving DecidableEq, Repr, Inhabited

/-- What the user asks for. -/
structure NginxSpec where
  replicas : Option Int32 := none
  image : Option String := none
  config : Option ConfigRef := none
deriving DecidableEq, Repr, Inhabited

/-- A live pod behind an instance. -/
structure PodEntry where
  name : String
  podIP : String
deriving DecidableEq, Repr, Inhabited

namespace PodEntry

/-- Whether an entry may stand before another: by name, and by address for equal names. -/
def le (a b : PodEntry) : Bool :=
  decide (a.name < b.name) || (decide (a.name = b.name) && decide (a.podIP ≤ b.podIP))

/-- Entries in ascending order. -/
def sorted (pods : List PodEntry) : List PodEntry :=
  pods.mergeSort le

/-- Any two entries can be put in order. -/
theorem le_total (a b : PodEntry) : (le a b || le b a) = true := by
  by_cases hab : a.name < b.name
  · simp [le, hab]
  · by_cases hba : b.name < a.name
    · simp [le, hba]
    · have heq : a.name = b.name :=
        String.le_antisymm (String.not_lt.mp hba) (String.not_lt.mp hab)
      rcases String.le_total a.podIP b.podIP with h | h <;> simp [le, heq, h]

/-- The order of entries is transitive. -/
theorem le_trans (a b c : PodEntry) (hab : le a b = true) (hbc : le b c = true) :
    le a c = true := by
  simp only [le, Bool.or_eq_true, Bool.and_eq_true, decide_eq_true_eq] at *
  rcases hab with hab | ⟨hab, hip⟩ <;> rcases hbc with hbc | ⟨hbc, hip'⟩
  · exact .inl (String.lt_trans hab hbc)
  · exact .inl (hbc ▸ hab)
  · exact .inl (hab ▸ hbc)
  · exact .inr ⟨hab.trans hbc, String.le_trans hip hip'⟩

/-- Entries that stand in either order are equal. -/
theorem le_antisymm (a b : PodEntry) (hab : le a b = true) (hba : le b a = true) : a = b := by
  obtain ⟨aname, aip⟩ := a
  obtain ⟨bname, bip⟩ := b
  simp only [le, Bool.or_eq_true, Bool.and_eq_true, decide_eq_true_eq] at hab hba
  rcases hab with hab | ⟨rfl, hip⟩
  · rcases hba with hba | ⟨rfl, _⟩
    · exact absurd hba (String.lt_asymm hab)
    · exact absurd hab (String.lt_irrefl _)
  · rcases hba with hba | ⟨_, hip'⟩
    · exact absurd hba (String.lt_irrefl _)
    · rw [String.le_antisymm hip hip']

/-- Sorting puts the entries in ascending order. -/
theorem pairwise_sorted (pods : List PodEntry) :
    (sorted pods).Pairwise fun a b => le a b = true :=
  List.pairwise_mergeSort le_trans le_total pods

/-- Sorting loses and adds nothing. -/
theorem sorted_perm (pods : List PodEntry) : (sorted pods).Perm pods :=
  List.mergeSort_perm pods le

end PodEntry

/-- The pods that were last recorded. -/
structure NginxStatus where
  pods : List PodEntry := []
deriving DecidableEq, Repr, Inhabited

/-- An Nginx instance. -/
structure Nginx where
  metadata : ObjectMeta
  spec : NginxSpec
  status : Option NginxStatus := none
deriving DecidableEq, Repr, Inhabited

namespace Nginx

/-- The group of interfaces to which the resource belongs. -/
def group : String := "nginx.tsuru.io"

/-- The version of the resource. -/
def version : String := "v1alpha1"

/-- The version of the resource with its group. -/
def apiVersion : String := group ++ "/" ++ version

/-- The kind of the resource. -/
def kind : String := "Nginx"

/-- The collection in which instances are kept. -/
def plural : String := "nginxes"

/-- The number of pods when none is asked for. -/
def defaultReplicas : Int32 := 1

/-- The image when none is asked for. -/
def defaultImage : String := "nginx:latest"

/-- The name of an instance. -/
def name (nginx : Nginx) : String := nginx.metadata.displayName

/-- The namespace of an instance, empty if it has none. -/
def namespaceName (nginx : Nginx) : String := nginx.metadata.namespaceName.getD ""

/-- The pods that were last recorded, none if there is no status. -/
def storedPods (nginx : Nginx) : List PodEntry :=
  match nginx.status with
  | some status => status.pods
  | none => []

/-- Whether the instance is being removed. -/
def isDeleted (nginx : Nginx) : Bool := nginx.metadata.deletionTimestamp.isSome

/-- The name of the deployment of an instance. -/
def deploymentName (nginx : Nginx) : String := nginx.name ++ "-deployment"

/-- The name of the service of an instance. -/
def serviceName (nginx : Nginx) : String := nginx.name ++ "-service"

/-- The number of pods to run. -/
def replicas (nginx : Nginx) : Int32 := nginx.spec.replicas.getD defaultReplicas

/-- The image to run; an empty one counts as none. -/
def image (nginx : Nginx) : String :=
  match nginx.spec.image with
  | some image => if image = "" then defaultImage else image
  | none => defaultImage

end Nginx

end NginxFleet
