/-
Module: NginxFleet.Proofs.Discovery.Served
Layer: Proofs
Purpose: What the check at startup finds. If every question that it asks is answered, it asks for the
  groups and then for each version of the group of the resource, and it finds the resources exactly if
  the version of the operator is the one that counts and has their kind. That the group serves them in
  this version is not enough: a group that prefers another version is taken for one without them.
Main exports: Session.Yields, Replies, Describes, ResourceList.HasKind,
  ServedGroup.servesNginx_iff, checkNginxServed_listed, check_looks_at_one_version
-/
import NginxFleet.Proofs.Discovery.Ranking
import NginxFleet.Server.Script

namespace NginxFleet

/-!
### Asking
-/

section Asking

variable {α β σ : Type} {answer : σ → Request → Outcome × σ} {server middle final : σ}

/-- A run of a session has a result, and leaves the server in a state. -/
def Session.Yields (answer : σ → Request → Outcome × σ) (server : σ) (session : Session α)
    (result : α) (next : σ) : Prop :=
  (session.run answer server).result = result ∧ (session.run answer server).state = next

theorem Session.Yields.bind {session : Session α} {next : α → Session β} {result : α} {value : β}
    (first : session.Yields answer server result middle)
    (second : (next result).Yields answer middle value final) :
    (session.bind next).Yields answer server value final := by
  obtain ⟨rfl, rfl⟩ := first
  unfold Yields at second ⊢
  rw [Session.run_bind]
  exact second

/-- A server replies to the question under a path with a value that can be read. -/
def Replies (answer : σ → Request → Outcome × σ) (server : σ) (path : String)
    (read : Json → Option α) (value : α) (next : σ) : Prop :=
  ∃ target outcome, Target.ofText path = .ok target ∧
    answer server { method := .get, target } = (outcome, next) ∧
    readAnswer read outcome = .ok value

theorem Replies.yields {path : String} {read : Json → Option α} {value : α}
    (replies : Replies answer server path read value final) :
    (inquire path read).Yields answer server (.ok value) final := by
  obtain ⟨target, outcome, built, served, reading⟩ := replies
  simp [Session.Yields, inquire, built, Session.run, served, reading]

/-- A server replies to the questions for versions, one after another, with their kinds of objects. -/
inductive Describes (answer : σ → Request → Outcome × σ) :
    σ → List GroupVersion → List ServedVersion → σ → Prop where
  | nil (server : σ) : Describes answer server [] [] server
  | cons {server middle final : σ} {version : GroupVersion} {list : ResourceList}
      {versions : List GroupVersion} {served : List ServedVersion}
      (replies : Replies answer server (groupsPath ++ "/" ++ version.groupVersion)
        ResourceList.ofJson? list middle)
      (rest : Describes answer middle versions served final) :
      Describes answer server (version :: versions) (⟨version.version, list⟩ :: served) final

variable {versions : List GroupVersion} {served : List ServedVersion}

theorem Describes.yields (describes : Describes answer server versions served final) :
    (inquireVersions versions).Yields answer server (.ok served) final := by
  induction describes with
  | nil server => exact ⟨rfl, rfl⟩
  | cons replies rest ih => exact replies.yields.bind (ih.bind ⟨rfl, rfl⟩)

theorem Describes.names_eq (describes : Describes answer server versions served final) :
    served.map ServedVersion.version = versions.map GroupVersion.version := by
  induction describes with
  | nil server => rfl
  | cons replies rest ih => rw [List.map_cons, List.map_cons, ih]

end Asking

/-!
### The kinds of a version
-/

namespace ResourceList

/-- A list has objects of a kind, not only parts of them. -/
def HasKind (list : ResourceList) (kind : String) : Prop :=
  ∃ resource ∈ list.resources, '/' ∉ resource.name.toList ∧ resource.kind = kind

/-- A list says of which version of the group of the resource it is, and none of its entries says
    otherwise. -/
def Describing (list : ResourceList) (version : String) : Prop :=
  list.groupVersion = Nginx.group ++ "/" ++ version ∧
    ∀ resource ∈ list.resources, resource.version = none

variable {list : ResourceList} {version : String}

theorem Describing.version_eq (describing : list.Describing version) : list.version = version := by
  have chars : list.groupVersion.toList = Nginx.group.toList ++ '/' :: version.toList := by
    rw [describing.1]
    simp
  have free : '/' ∉ Nginx.group.toList := by decide
  rw [ResourceList.version, Text.cutAt?, chars, Text.cutCharsAt?_append free]
  simp

/-- The kind of the resources is found in a list exactly if it is the list of their version. -/
theorem hasNginx_iff (describing : list.Describing version) :
    list.hasNginx ↔ version = Nginx.version ∧ list.HasKind Nginx.kind := by
  unfold hasNginx HasKind
  rw [List.any_eq_true]
  constructor
  · rintro ⟨resource, among, found⟩
    simp only [isNginx, describing.2 resource among, describing.version_eq, Option.getD_none,
      Bool.and_eq_true, Bool.not_eq_true', beq_iff_eq, List.contains_eq_mem,
      decide_eq_false_iff_not] at found
    exact ⟨found.2, resource, among, found.1⟩
  · rintro ⟨same, resource, among, whole, kind⟩
    refine ⟨resource, among, ?_⟩
    simp [isNginx, describing.2 resource among, describing.version_eq, whole, kind, same]

end ResourceList

theorem ServedGroup.servesNginx_iff {group : ServedGroup}
    (distinct : (group.versions.map ServedVersion.version).Nodup)
    (describing : ∀ served ∈ group.versions, served.list.Describing served.version) :
    group.servesNginx ↔
      ApiVersion.Counts (group.versions.map ServedVersion.version) group.preferred Nginx.version ∧
        ∃ list, ⟨Nginx.version, list⟩ ∈ group.versions ∧ list.HasKind Nginx.kind := by
  unfold servesNginx
  rw [Option.any_eq_true]
  constructor
  · rintro ⟨list, recommended, found⟩
    obtain ⟨name, counts, among⟩ := (recommended_eq_some_iff distinct).mp recommended
    obtain ⟨rfl, kind⟩ := (ResourceList.hasNginx_iff (describing _ among)).mp found
    exact ⟨counts, list, among, kind⟩
  · rintro ⟨counts, list, among, kind⟩
    exact ⟨list, (recommended_eq_some_iff distinct).mpr ⟨_, counts, among⟩,
      (ResourceList.hasNginx_iff (describing _ among)).mpr ⟨rfl, kind⟩⟩

/-!
### The check
-/

section Check

variable {σ : Type} {answer : σ → Request → Outcome × σ} {server middle final : σ}
  {groups : List ApiGroup}

/-- The entries of a list of groups for the group of the resource. -/
def nginxEntries (groups : List ApiGroup) : List ApiGroup :=
  groups.filter fun group => group.name = Nginx.group

theorem checkNginxServed_unlisted
    (listed : Replies answer server groupsPath ApiGroup.listOfJson? groups final)
    (missing : nginxEntries groups = []) :
    checkNginxServed.Yields answer server (.ok false) final := by
  have entries : (inquireEntries none (nginxEntries groups)).Yields answer final (.ok none) final := by
    rw [missing]
    exact ⟨rfl, rfl⟩
  have asked : inquireNginxGroup.Yields answer server (.ok none) final :=
    listed.yields.bind entries
  exact asked.bind ⟨rfl, rfl⟩

theorem checkNginxServed_listed {entry : ApiGroup} {served : List ServedVersion}
    (listed : Replies answer server groupsPath ApiGroup.listOfJson? groups middle)
    (once : nginxEntries groups = [entry]) (some_ : entry.versions ≠ [])
    (described : Describes answer middle entry.versions served final) :
    checkNginxServed.Yields answer server
      (.ok (ServedGroup.servesNginx ⟨served, entry.preferred.map GroupVersion.version⟩)) final := by
  have group : (inquireGroup entry).Yields answer middle
      (.ok ⟨served, entry.preferred.map GroupVersion.version⟩) final := by
    rw [inquireGroup, if_neg some_]
    exact described.yields.bind ⟨rfl, rfl⟩
  have entries : (inquireEntries none (nginxEntries groups)).Yields answer middle
      (.ok (some ⟨served, entry.preferred.map GroupVersion.version⟩)) final := by
    rw [once]
    exact group.bind ⟨rfl, rfl⟩
  have asked : inquireNginxGroup.Yields answer server
      (.ok (some ⟨served, entry.preferred.map GroupVersion.version⟩)) final :=
    listed.yields.bind entries
  exact asked.bind ⟨rfl, rfl⟩

end Check

/-- If all questions are answered, the check finds nothing when the group of the resource is not
    listed. When it is listed once, with different versions of which each has its own list of kinds,
    the check finds the resources exactly if their version is the one that counts, which is the
    preferred one or else the best, and its list has their kind. -/
theorem check_looks_at_one_version {σ : Type} {answer : σ → Request → Outcome × σ}
    {server middle : σ} {groups : List ApiGroup}
    (listed : Replies answer server groupsPath ApiGroup.listOfJson? groups middle) :
    (nginxEntries groups = [] → (checkNginxServed.run answer server).result = .ok false) ∧
    ∀ entry served final, nginxEntries groups = [entry] → entry.versions ≠ [] →
      (entry.versions.map GroupVersion.version).Nodup →
      Describes answer middle entry.versions served final →
      (∀ version ∈ served, version.list.Describing version.version) →
      ∃ found, (checkNginxServed.run answer server).result = .ok found ∧
        (found ↔
          ApiVersion.Counts (entry.versions.map GroupVersion.version)
              (entry.preferred.map GroupVersion.version) Nginx.version ∧
            ∃ list, ⟨Nginx.version, list⟩ ∈ served ∧ list.HasKind Nginx.kind) := by
  refine ⟨fun missing => (checkNginxServed_unlisted listed missing).1, ?_⟩
  intro entry served final once some_ distinct described describing
  refine ⟨_, (checkNginxServed_listed listed once some_ described).1, ?_⟩
  rw [← described.names_eq] at distinct ⊢
  exact ServedGroup.servesNginx_iff distinct describing

/-- A server that gives the same outcome to a request whenever it is asked. -/
def steady (script : Script) (state : Unit) (request : Request) : Outcome × Unit :=
  ((script.answer request).1, state)

/-- A version of the group of the resource. -/
def groupVersionOf (version : String) : GroupVersion :=
  ⟨Nginx.group ++ "/" ++ version, version⟩

/-- The document of a version. -/
def groupVersionDocument (version : String) : Json :=
  .obj [("groupVersion", .str (Nginx.group ++ "/" ++ version)), ("version", .str version)]

/-- The group of the resource in two versions, the later of which is the operator's. -/
def sharedGroup (other : String) (preferred : Option String) : ApiGroup where
  name := Nginx.group
  versions := [groupVersionOf other, groupVersionOf Nginx.version]
  preferred := preferred.map groupVersionOf

/-- The list of kinds of a version in which the resource is served. -/
def servingList (version : String) : ResourceList where
  groupVersion := Nginx.group ++ "/" ++ version
  resources := [
    { name := Nginx.plural, kind := Nginx.kind, version := none },
    { name := Nginx.plural ++ "/status", kind := Nginx.kind, version := none }]

/-- The document of that list. -/
def servingDocument (version : String) : Json := .obj [
  ("groupVersion", .str (Nginx.group ++ "/" ++ version)),
  ("resources", .arr [
    .obj [("name", .str Nginx.plural), ("kind", .str Nginx.kind)],
    .obj [("name", .str (Nginx.plural ++ "/status")), ("kind", .str Nginx.kind)]])]

/-- A server that serves the resource in two versions. -/
def sharedScript (other : String) (preferred : Option String) : Script := [
  ⟨.get, "/apis", .answer 200 (.document (.obj [("groups", .arr [.obj ([
    ("name", .str Nginx.group),
    ("versions", .arr [groupVersionDocument other, groupVersionDocument Nginx.version])] ++
    (preferred.map fun version => ("preferredVersion", groupVersionDocument version)).toList)])]))⟩,
  ⟨.get, "/apis/nginx.tsuru.io/" ++ other, .answer 200 (.document (servingDocument other))⟩,
  ⟨.get, "/apis/nginx.tsuru.io/v1alpha1",
    .answer 200 (.document (servingDocument Nginx.version))⟩]

/-- Versions in which the resource is served. -/
def serving (versions : List String) : List ServedVersion :=
  versions.map fun version => ⟨version, servingList version⟩

theorem hasKind_servingList (version : String) : (servingList version).HasKind Nginx.kind :=
  ⟨_, List.mem_cons_self, by decide, rfl⟩

theorem describing_serving (versions : List String) :
    ∀ served ∈ serving versions, served.list.Describing served.version := by
  intro served among
  obtain ⟨version, -, rfl⟩ := List.mem_map.mp among
  exact ⟨rfl, by simp [servingList]⟩

/-- If the server prefers no version, that of the operator is better than one with a name of its own. -/
theorem check_looks_at_one_version_unranked :
    let answer := steady (sharedScript "preview" none)
    Replies answer () groupsPath ApiGroup.listOfJson? [sharedGroup "preview" none] () ∧
      Describes answer () (sharedGroup "preview" none).versions
        (serving ["preview", Nginx.version]) () ∧
      (checkNginxServed.run answer ()).result = .ok true := by
  intro answer
  have listed : Replies answer () groupsPath ApiGroup.listOfJson? [sharedGroup "preview" none] () :=
    ⟨⟨"/apis", ""⟩, _, by decide +kernel, rfl, by decide +kernel⟩
  have described : Describes answer () (sharedGroup "preview" none).versions
      (serving ["preview", Nginx.version]) () :=
    .cons ⟨⟨"/apis/nginx.tsuru.io/preview", ""⟩, _, by decide +kernel, rfl, by decide +kernel⟩ <|
      .cons ⟨⟨"/apis/nginx.tsuru.io/v1alpha1", ""⟩, _, by decide +kernel, rfl, by decide +kernel⟩
        (.nil ())
  obtain ⟨found, checked, exactly⟩ := (check_looks_at_one_version listed).2
    (sharedGroup "preview" none) _ () rfl (by simp [sharedGroup]) (by decide) described
    (describing_serving _)
  have best : ApiVersion.BestOf ["preview", Nginx.version] Nginx.version :=
    ⟨["preview"], [], rfl, by decide +kernel, by simp⟩
  rw [exactly.mpr ⟨best, servingList Nginx.version, by simp [serving], hasKind_servingList _⟩]
    at checked
  exact ⟨listed, described, checked⟩

/-- The check finds nothing although the resource is served in the version of the operator, if the
    server prefers another one. -/
theorem served_version_is_overlooked :
    let answer := steady (sharedScript "v1" (some "v1"))
    Replies answer () groupsPath ApiGroup.listOfJson? [sharedGroup "v1" (some "v1")] () ∧
      Describes answer () (sharedGroup "v1" (some "v1")).versions (serving ["v1", Nginx.version]) () ∧
      (∀ served ∈ serving ["v1", Nginx.version], served.list.Describing served.version) ∧
      ⟨Nginx.version, servingList Nginx.version⟩ ∈ serving ["v1", Nginx.version] ∧
      (servingList Nginx.version).HasKind Nginx.kind ∧
      (checkNginxServed.run answer ()).result = .ok false := by
  intro answer
  have listed : Replies answer () groupsPath ApiGroup.listOfJson? [sharedGroup "v1" (some "v1")] () :=
    ⟨⟨"/apis", ""⟩, _, by decide +kernel, rfl, by decide +kernel⟩
  have described : Describes answer () (sharedGroup "v1" (some "v1")).versions
      (serving ["v1", Nginx.version]) () :=
    .cons ⟨⟨"/apis/nginx.tsuru.io/v1", ""⟩, _, by decide +kernel, rfl, by decide +kernel⟩ <|
      .cons ⟨⟨"/apis/nginx.tsuru.io/v1alpha1", ""⟩, _, by decide +kernel, rfl, by decide +kernel⟩
        (.nil ())
  have overlooked : ServedGroup.servesNginx ⟨serving ["v1", Nginx.version], some "v1"⟩ = false := by
    refine Bool.eq_false_iff.mpr fun found => ?_
    obtain ⟨counts, -⟩ := (ServedGroup.servesNginx_iff (by decide) (describing_serving _)).mp found
    have other : ("v1" : String) = Nginx.version := counts
    exact absurd other (by decide)
  have checked := (checkNginxServed_listed listed rfl (by simp [sharedGroup]) described).1
  rw [← overlooked]
  exact ⟨listed, described, describing_serving _, by simp [serving], hasKind_servingList _, checked⟩

end NginxFleet
