/-
Module: NginxFleet.Discovery.Served
Layer: Discovery
Purpose: Whether a server serves Nginx resources. The operator asks for the groups and, for the group
  of the resource, for the kinds of objects in each version. Of these only the kinds in the version
  that the group prefers are looked at, or in the best version if it prefers none.
Main exports: ServedGroup, ServedGroup.recommended, ServedGroup.servesNginx, checkNginxServed
-/
import NginxFleet.Client.Call
import NginxFleet.Discovery.Group
import NginxFleet.Discovery.Version
import NginxFleet.Reconcile.Error
import NginxFleet.Text.Split

namespace NginxFleet

/-- A version of a group with its kinds of objects. -/
structure ServedVersion where
  version : String
  list : ResourceList
deriving DecidableEq, Repr, Inhabited

/-- A group with the kinds of objects in all its versions. -/
structure ServedGroup where
  versions : List ServedVersion
  preferred : Option String
deriving DecidableEq, Repr, Inhabited

namespace ServedGroup

/-- The versions, the best first. -/
def ranked (group : ServedGroup) : List ServedVersion :=
  group.versions.mergeSort fun a b =>
    ApiVersion.before (ApiVersion.ofText a.version) (ApiVersion.ofText b.version)

/-- The name of the version that counts. -/
def chosen? (group : ServedGroup) : Option String :=
  group.preferred.or (group.ranked.head?.map ServedVersion.version)

/-- The kinds of objects in the version that counts. -/
def recommended (group : ServedGroup) : Option ResourceList :=
  (group.ranked.find? fun served => some served.version = group.chosen?).map ServedVersion.list

end ServedGroup

namespace ResourceList

/-- The version of the kinds of a list that have none of their own. -/
def version (list : ResourceList) : String :=
  match Text.cutAt? '/' list.groupVersion with
  | some (_, version) => version
  | none => list.groupVersion

/-- Whether a kind in a list is that of Nginx resources, and no part of one. -/
def isNginx (list : ResourceList) (resource : ApiResource) : Bool :=
  !resource.name.toList.contains '/' && resource.kind == Nginx.kind &&
    resource.version.getD list.version == Nginx.version

/-- Whether a list has the kind of Nginx resources. -/
def hasNginx (list : ResourceList) : Bool :=
  list.resources.any list.isNginx

end ResourceList

/-- Whether a group serves Nginx resources. -/
def ServedGroup.servesNginx (group : ServedGroup) : Bool :=
  group.recommended.any ResourceList.hasNginx

/-!
### Asking the server
-/

/-- Asks for what is found under a path. -/
def inquire {α : Type} (path : String) (read : Json → Option α) :
    Session (Except ClientError α) :=
  match Target.ofText path with
  | .error fault => .done (.error (.badDiscoveryTarget fault))
  | .ok target => .send { method := .get, target } fun outcome => .done (readAnswer read outcome)

/-- The path of what a server says of its groups. -/
def groupsPath : String := "/apis"

/-- Asks for the kinds of objects in versions, one after another. -/
def inquireVersions : List GroupVersion → Session (Except ClientError (List ServedVersion))
  | [] => .done (.ok [])
  | version :: rest => do
    match ← inquire (groupsPath ++ "/" ++ version.groupVersion) ResourceList.ofJson? with
    | .error error => return .error error
    | .ok list =>
      match ← inquireVersions rest with
      | .error error => return .error error
      | .ok served => return .ok (⟨version.version, list⟩ :: served)

/-- Asks for the kinds of objects in all versions of a group, of which there must be one. -/
def inquireGroup (group : ApiGroup) : Session (Except ClientError ServedGroup) :=
  if group.versions = [] then return .error (.emptyGroup group.name)
  else do
    match ← inquireVersions group.versions with
    | .error error => return .error error
    | .ok versions => return .ok ⟨versions, group.preferred.map GroupVersion.version⟩

/-- Asks for each of some entries of one group; the last one counts. -/
def inquireEntries (found : Option ServedGroup) :
    List ApiGroup → Session (Except ClientError (Option ServedGroup))
  | [] => .done (.ok found)
  | group :: rest => do
    match ← inquireGroup group with
    | .error error => return .error error
    | .ok served => inquireEntries (some served) rest

/-- Asks for the group of Nginx resources, which may be missing. -/
def inquireNginxGroup : Session (Except ClientError (Option ServedGroup)) := do
  match ← inquire groupsPath ApiGroup.listOfJson? with
  | .error error => return .error error
  | .ok groups => inquireEntries none (groups.filter fun group => group.name = Nginx.group)

/-- Asks whether the server serves Nginx resources. -/
def checkNginxServed : Session (Except OperatorError Bool) := do
  match ← inquireNginxGroup with
  | .error cause => return .error (.client cause)
  | .ok group => return .ok (group.any ServedGroup.servesNginx)

end NginxFleet
