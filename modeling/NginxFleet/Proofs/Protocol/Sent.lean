/-
Module: NginxFleet.Proofs.Protocol.Sent
Layer: Proofs
Purpose: For an instance with a name and a namespace that the server accepts, every call can be sent:
  its request is the one with the path and the query that the table of calls spells, and the path
  refers to the place that the call is about.
Main exports: Call.sent, Call.request_eq_sent, Call.place, Call.ofPath?_sent, Handles.requests_eq,
  Handles.sent_of_exchanges
-/
import NginxFleet.Object.Place
import NginxFleet.Proofs.Naming.Target
import NginxFleet.Proofs.Protocol.Call

namespace NginxFleet

namespace Call

/-- The parts of the path of a call. -/
def parts (nginx : Nginx) : Call → List String
  | .createDeployment => ["apis", "apps", "v1", "namespaces", nginx.namespaceName, "deployments"]
  | .fetchDeployment | .replaceDeployment _ =>
      ["apis", "apps", "v1", "namespaces", nginx.namespaceName, "deployments",
        nginx.deploymentName]
  | .createService => ["api", "v1", "namespaces", nginx.namespaceName, "services"]
  | .listPods => ["api", "v1", "namespaces", nginx.namespaceName, "pods"]
  | .recordPods _ =>
      ["apis", "nginx.tsuru.io", "v1alpha1", "namespaces", nginx.namespaceName, "nginxes",
        nginx.name, "status"]

/-- The query of a call. -/
def query (nginx : Nginx) : Call → String
  | .listPods => "&labelSelector=" ++ Text.formEncode (labelSelector nginx.name)
  | _ => ""

/-- The request of a call that can be sent. -/
def sent (nginx : Nginx) (call : Call) : Request where
  method := call.method
  target := {
    path := String.ofList (joined ((call.parts nginx).map String.toList))
    query := call.query nginx }
  body := (call.body nginx).map Json.received

/-- The place that a call is about. -/
def place (nginx : Nginx) : Call → Place
  | .createDeployment => .all "deployments" nginx.namespaceName
  | .fetchDeployment | .replaceDeployment _ =>
      .one ⟨"deployments", nginx.namespaceName, nginx.deploymentName⟩
  | .createService => .all "services" nginx.namespaceName
  | .listPods => .all "pods" nginx.namespaceName
  | .recordPods _ => .status ⟨"nginxes", nginx.namespaceName, nginx.name⟩

end Call

/-- The labels of an instance are two entries, in the order of their keys. -/
theorem entries_labelsFor (name : String) :
    (labelsFor name).entries = [(appKey, appValue), (instanceKey, name)] := by
  have behind : ¬ instanceKey < appKey := by decide
  have apart : instanceKey ≠ appKey := by decide
  simp [labelsFor, KeyMap.ofList, KeyMap.insert, KeyMap.empty, insertEntry, behind, apart]

theorem labelSelector_eq (name : String) :
    labelSelector name = "app=nginx,nginx.tsuru.io/resource-name=" ++ name := by
  rw [labelSelector, selectorText, entries_labelsFor]
  simp only [List.map_cons, List.map_nil, String.intercalate_cons_cons,
    String.intercalate_singleton, appKey, appValue, instanceKey, ← String.append_assoc,
    String.reduceAppend]

namespace Call

variable {nginx : Nginx}

theorem isNameChar_of_mem_parts (admissible : nginx.Admissible) (call : Call) :
    ∀ part ∈ call.parts nginx, ∀ c ∈ part.toList, Dns.isNameChar c := by
  have namespaceChars := admissible.isLabel_namespaceName.isNameChar
  have nameChars := admissible.isSubdomain_name.isNameChar
  have suffixChars : ∀ c ∈ "-deployment".toList, Dns.isNameChar c :=
    List.all_eq_true.mp (by decide)
  have deploymentChars : ∀ c ∈ nginx.deploymentName.toList, Dns.isNameChar c := by
    intro c found
    rw [Nginx.deploymentName, String.toList_append] at found
    rcases List.mem_append.mp found with inName | inSuffix
    · exact nameChars c inName
    · exact suffixChars c inSuffix
  have literal : ∀ part ∈ ["apis", "apps", "v1", "namespaces", "deployments", "api", "services",
      "pods", "nginx.tsuru.io", "v1alpha1", "nginxes", "status"],
      part.toList.all Dns.isNameChar := by decide
  have known : ∀ part ∈ call.parts nginx, part = nginx.namespaceName ∨ part = nginx.name ∨
      part = nginx.deploymentName ∨ part ∈ ["apis", "apps", "v1", "namespaces", "deployments",
        "api", "services", "pods", "nginx.tsuru.io", "v1alpha1", "nginxes", "status"] := by
    intro part found
    cases call <;> simp [parts] at found ⊢ <;> grind
  intro part found
  rcases known part found with rfl | rfl | rfl | among
  · exact namespaceChars
  · exact nameChars
  · exact deploymentChars
  · exact List.all_eq_true.mp (literal part among)

theorem objectName?_ne_empty (admissible : nginx.Admissible) (call : Call) :
    call.objectName? nginx ≠ some "" := by
  have named := admissible.isSubdomain_name.ne_empty
  cases call <;> simp [objectName?, named, Nginx.deploymentName]

theorem not_slash_of_mem_parts (admissible : nginx.Admissible) (call : Call) :
    ∀ part ∈ (call.parts nginx).map String.toList, '/' ∉ part := by
  intro part found
  obtain ⟨text, among, rfl⟩ := List.mem_map.mp found
  intro slash
  exact absurd (isNameChar_of_mem_parts admissible call text among '/' slash) (by decide)

/-- A path is plain if its parts are made of characters that may stand in a name. -/
theorem plain_joined {parts : List String}
    (nameChars : ∀ part ∈ parts, ∀ c ∈ part.toList, Dns.isNameChar c) :
    ∀ c ∈ joined (parts.map String.toList), Target.Plain c := by
  intro c found
  obtain ⟨part, among, inside⟩ := List.mem_flatMap.mp found
  obtain ⟨text, known, rfl⟩ := List.mem_map.mp among
  rcases List.mem_cons.mp inside with rfl | within
  · decide
  · exact Target.plain_of_isNameChar (nameChars text known c within)

theorem plain_path (admissible : nginx.Admissible) (call : Call) :
    ∀ c ∈ joined ((call.parts nginx).map String.toList), Target.Plain c :=
  plain_joined (isNameChar_of_mem_parts admissible call)

theorem plain_query (call : Call) : ∀ c ∈ (call.query nginx).toList, Target.Plain c := by
  cases call with
  | listPods =>
      intro c found
      simp only [query, String.toList_append, List.mem_append] at found
      have mark : "&labelSelector=".toList.all (Target.Plain ·) := by decide
      rcases found with front | encoded
      · exact of_decide_eq_true (List.all_eq_true.mp mark c front)
      · exact Text.plain_formEncode _ c encoded
  | _ => simp [query]

/-- What stands behind the path in the text of a call. -/
def tail (nginx : Nginx) (call : Call) : List Char :=
  match call with
  | .fetchDeployment => []
  | _ => '?' :: (call.query nginx).toList

theorem toList_targetText (call : Call) :
    (call.targetText nginx).toList =
      joined ((call.parts nginx).map String.toList) ++ call.tail nginx := by
  cases call with
  | createDeployment =>
      show ("/apis/apps/v1/namespaces/" ++ nginx.namespaceName ++ "/deployments?").toList = _
      simp [joined, parts, tail, query]
  | fetchDeployment =>
      show ("/apis/apps/v1/namespaces/" ++ nginx.namespaceName ++ "/deployments/" ++
        nginx.deploymentName).toList = _
      simp [joined, parts, tail]
  | replaceDeployment repaired =>
      show ("/apis/apps/v1/namespaces/" ++ nginx.namespaceName ++ "/deployments/" ++
        nginx.deploymentName ++ "?").toList = _
      simp [joined, parts, tail, query]
  | createService =>
      show ("/api/v1/namespaces/" ++ nginx.namespaceName ++ "/services?").toList = _
      simp [joined, parts, tail, query]
  | listPods =>
      show ("/api/v1/namespaces/" ++ nginx.namespaceName ++ "/pods?&labelSelector=" ++
        Text.formEncode (labelSelector nginx.name)).toList = _
      simp [joined, parts, tail, query]
  | recordPods pods =>
      show ("/apis/nginx.tsuru.io/v1alpha1/namespaces/" ++ nginx.namespaceName ++ "/nginxes/" ++
        nginx.name ++ "/status?").toList = _
      simp [joined, parts, tail, query]

/-- No call of an admissible instance has a target that is too long. -/
theorem utf8ByteSize_targetText (admissible : nginx.Admissible) (call : Call) :
    (call.targetText nginx).utf8ByteSize ≤ Target.longest := by
  have name := admissible.isSubdomain_name.length
  have namespaceName := admissible.isLabel_namespaceName.length
  have encoded := Text.length_formEncode (labelSelector nginx.name)
  rw [labelSelector_eq, String.toList_append, List.length_append] at encoded
  rw [← String.length_toList] at name namespaceName
  have length : (call.targetText nginx).toList.length ≤ 16000 := by
    rw [toList_targetText]
    cases call <;>
      simp [joined, parts, tail, query, Nginx.deploymentName, labelSelector_eq] at * <;> omega
  have size := Target.utf8ByteSize_ofList_le (call.targetText nginx).toList
  rw [String.ofList_toList] at size
  unfold Target.longest
  omega

/-- Every call of an admissible instance can be sent. -/
theorem request_eq_sent (admissible : nginx.Admissible) (call : Call) :
    call.request nginx = .ok (call.sent nginx) := by
  have target : Target.ofText (call.targetText nginx) =
      .ok ⟨String.ofList (joined ((call.parts nginx).map String.toList)),
        String.ofList (call.query nginx).toList⟩ := by
    refine Target.ofText_of_plain call.toList_targetText ?_ (plain_path admissible call)
      call.plain_query (utf8ByteSize_targetText admissible call)
    cases call <;> simp [tail, query]
  unfold request
  rw [if_neg (objectName?_ne_empty admissible call), target]
  simp [sent]

/-- The path of a call refers to the place that the call is about. -/
theorem ofPath?_sent (admissible : nginx.Admissible) (call : Call) :
    Place.ofPath? (call.sent nginx).target.path = some (call.place nginx) := by
  have taken : Text.split '/' (call.sent nginx).target.path = "" :: call.parts nginx := by
    unfold Text.split
    simp only [sent, String.toList_ofList]
    rw [splitChars_joined (not_slash_of_mem_parts admissible call)]
    simp
  unfold Place.ofPath? Place.namespacedParts
  rw [taken]
  cases call <;> rfl

end Call

/-- The requests of a walk are those of its calls. -/
theorem Handles.requests_eq {nginx : Nginx} {σ : Type} {serves : σ → Request → Outcome → σ → Prop}
    {scope : Call → Bool} {state final : σ} {call : Call} {records : List CallRecord}
    {result : Except OperatorError Unit} (admissible : nginx.Admissible)
    (walk : Handles serves nginx scope state call records result final) :
    (records.filterMap CallRecord.exchange?).map Prod.fst =
      records.map fun record => record.call.sent nginx := by
  have sent : ∀ {state next : σ} {record : CallRecord}, Performs serves nginx state record next →
      ∃ outcome, record.exchange? = some (record.call.sent nginx, outcome) := by
    intro state next record performed
    cases performed with
    | unbuilt unbuilt =>
        rw [Call.request_eq_sent admissible] at unbuilt
        cases unbuilt
    | sent built served =>
        rw [Call.request_eq_sent admissible] at built
        cases built
        exact ⟨_, rfl⟩
  induction walk with
  | failed performed failure =>
      obtain ⟨outcome, exchange⟩ := sent performed
      simp [exchange]
  | ended performed passed last =>
      obtain ⟨outcome, exchange⟩ := sent performed
      simp [exchange]
  | continued performed passed more rest ih =>
      obtain ⟨outcome, exchange⟩ := sent performed
      simp [exchange, ih]

/-- A run that is a walk sends the requests of its calls, in order. -/
theorem Handles.sent_of_exchanges {nginx : Nginx} {σ α τ : Type}
    {serves : σ → Request → Outcome → σ → Prop} {scope : Call → Bool} {state final : σ} {call : Call}
    {records : List CallRecord} {result : Except OperatorError Unit} {transcript : Transcript α τ}
    (admissible : nginx.Admissible)
    (walk : Handles serves nginx scope state call records result final)
    (exchanges : transcript.exchanges = records.filterMap CallRecord.exchange?) :
    transcript.requests = (records.map CallRecord.call).map (Call.sent nginx) := by
  rw [Transcript.requests, exchanges, walk.requests_eq admissible, List.map_map]
  rfl

end NginxFleet
