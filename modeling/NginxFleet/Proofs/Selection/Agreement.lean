/-
Module: NginxFleet.Proofs.Selection.Agreement
Layer: Proofs
Purpose: The search for the pods of an instance agrees with the pods that its deployment runs, whatever
  the name of the instance. Every way in which bringing the deployment in line may end well leaves one
  in force whose pods have the labels of the instance, and the query with which pods are listed gives
  back the selector of these very labels. As long as no name holds a comma, one instance never finds
  the pods of another.
Main exports: Transcript.inForce?, Handles.leaves_labels, Nginx.Lists, Nginx.query_of_lists,
  listing_agrees_with_template
-/
import NginxFleet.Proofs.Protocol.Walk
import NginxFleet.Proofs.Selection.Query
import NginxFleet.Server.Script

namespace NginxFleet

/-!
### The deployment in force
-/

/-- The deployment that is in force once a request has its outcome: the one that was found, or the one
    that was sent. -/
def Deployment.inForce? (exchange : Request × Outcome) : Option Deployment :=
  match exchange.1.method with
  | .get => (readAnswer ofJson? exchange.2).toOption
  | .post | .put => exchange.1.body.bind ofJson?

/-- The deployment that is in force after the last request of a run. -/
def Transcript.inForce? {α σ : Type} (transcript : Transcript α σ) : Option Deployment :=
  transcript.exchanges.getLast?.bind Deployment.inForce?

section Deployment

variable {σ : Type} {answer : σ → Request → Outcome × σ} {nginx : Nginx}

theorem Deployment.InLine.podLabels? {deployment : Deployment} (inLine : deployment.InLine nginx) :
    deployment.podLabels? = some (labelsFor nginx.name) := by
  obtain ⟨spec, found, -, template⟩ := inLine
  rw [Deployment.podLabels?, found, Option.bind_some, template]
  rfl

/-- A deployment that has not drifted puts the labels of the instance on its pods. -/
theorem Deployment.podLabels?_of_aligned {existing : Deployment}
    (aligned : existing.repair? nginx.desiredDeployment = none) :
    existing.podLabels? = some (labelsFor nginx.name) := by
  have same := congrArg OwnedFields.templateLabels (repair?_eq_none_iff.mp aligned)
  exact same

/-- What a call sends for a deployment can be read again and is in line. -/
def Call.SendsInLine (nginx : Nginx) (call : Call) : Prop :=
  ∀ repaired, call = .replaceDeployment repaired → repaired.Sendable ∧ repaired.InLine nginx

/-- The last call about a deployment, if it passed, leaves one in force with the labels of the
    instance. -/
theorem Performs.leaves_labels {state next : σ} {record : CallRecord}
    (performed : Performs (Answers answer) nginx state record next)
    (about : record.call.aboutDeployment) (sends : record.call.SendsInLine nginx)
    (passed : record.failure? = none) (last : record.next? Call.aboutDeployment nginx = none) :
    ∃ exchange deployment, record.exchange? = some exchange ∧
      Deployment.inForce? exchange = some deployment ∧
      deployment.podLabels? = some (labelsFor nginx.name) := by
  cases performed with
  | unbuilt unbuilt =>
      unfold CallRecord.failure? at passed
      rw [Call.failure?_of_unbuilt unbuilt] at passed
      cases passed
  | @sent _ call request outcome built served =>
      obtain ⟨method, body⟩ := Call.method_and_body_of_request built
      refine ⟨(request, outcome), ?_⟩
      cases call with
      | createDeployment =>
          refine ⟨nginx.desiredDeployment.received, rfl, ?_,
            (Deployment.inLine_desiredDeployment nginx).received.podLabels?⟩
          simp only [Deployment.inForce?, method, Call.method, body, Call.body, Option.map_some,
            Option.bind_some]
          exact Deployment.ofJson?_received nginx.sendable_desiredDeployment
      | fetchDeployment =>
          simp only [CallRecord.failure?, CallRecord.next?, Call.read] at passed last
          cases reading : readAnswer Deployment.ofJson? outcome with
          | error cause =>
              rw [reading] at passed
              cases passed
          | ok existing =>
              cases repair : existing.repair? nginx.desiredDeployment with
              | some repaired =>
                  simp only [reading, Except.map, Call.followUp?, repair] at last
                  cases last
              | none =>
                  refine ⟨existing, rfl, ?_, Deployment.podLabels?_of_aligned repair⟩
                  simp only [Deployment.inForce?, method, Call.method, reading]
                  rfl
      | replaceDeployment repaired =>
          obtain ⟨sendable, inLine⟩ := sends repaired rfl
          refine ⟨repaired.received, rfl, ?_, inLine.received.podLabels?⟩
          simp only [Deployment.inForce?, method, Call.method, body, Call.body, Option.map_some,
            Option.bind_some]
          exact Deployment.ofJson?_received sendable
      | createService | listPods | recordPods => cases about

/-- A replacement comes only after a deployment was found, and sends its repair. -/
theorem Call.found_of_followUp? {call : Call} {reply : Except ClientError Reply}
    {repaired : Deployment}
    (follows : call.followUp? nginx reply = some (.replaceDeployment repaired)) :
    ∃ existing, call = .fetchDeployment ∧ reply = .ok (.deployment existing) ∧
      existing.repair? nginx.desiredDeployment = some repaired := by
  unfold followUp? at follows
  split at follows
  case h_3 existing =>
    split at follows
    · rename_i found repair
      cases follows
      exact ⟨existing, rfl, rfl, repair⟩
    · cases follows
  case h_6 pods =>
    split at follows <;> cases follows
  all_goals cases follows

/-- The call about a deployment that comes next sends what can be read again and is in line. -/
theorem Performs.sendsInLine_next {state next : σ} {record : CallRecord} {call : Call}
    (performed : Performs (Answers answer) nginx state record next)
    (more : record.next? Call.aboutDeployment nginx = some call) :
    call.aboutDeployment ∧ call.SendsInLine nginx := by
  obtain ⟨follows, about⟩ := Option.filter_eq_some_iff.mp more
  refine ⟨about, ?_⟩
  rintro repaired rfl
  obtain ⟨existing, isFetch, found, repair⟩ := Call.found_of_followUp? follows
  cases performed with
  | unbuilt unbuilt => cases found
  | @sent _ call request outcome built served =>
      subst isFetch
      have reading : readAnswer Deployment.ofJson? outcome = .ok existing := by
        simp only [Call.read] at found
        cases read : readAnswer Deployment.ofJson? outcome with
        | error cause =>
            rw [read] at found
            cases found
        | ok value =>
            rw [read] at found
            cases found
            rfl
      obtain ⟨document, given⟩ := document_of_readAnswer reading
      exact ⟨Deployment.sendable_of_repair? given repair, Deployment.inLine_of_repair? repair⟩

/-- A walk that brings the deployment in line and ends well leaves one in force whose pods have the
    labels of the instance. -/
theorem Handles.leaves_labels {state final : σ} {call : Call} {records : List CallRecord}
    {result : Except OperatorError Unit}
    (walk : Handles (Answers answer) nginx Call.aboutDeployment state call records result final)
    (ended : result = .ok ()) (about : call.aboutDeployment) (sends : call.SendsInLine nginx) :
    ∃ deployment, ((records.filterMap CallRecord.exchange?).getLast?.bind Deployment.inForce?) =
        some deployment ∧ deployment.podLabels? = some (labelsFor nginx.name) := by
  induction walk with
  | failed performed failure => cases ended
  | ended performed passed last =>
      obtain ⟨exchange, deployment, sent, inForce, labels⟩ :=
        performed.leaves_labels about sends passed last
      refine ⟨deployment, ?_, labels⟩
      simp [sent, inForce]
  | @continued _ _ _ record _ later _ performed passed more rest ih =>
      obtain ⟨about, sends⟩ := performed.sendsInLine_next more
      obtain ⟨deployment, inForce, labels⟩ := ih ended about sends
      refine ⟨deployment, ?_, labels⟩
      have some_ : later.filterMap CallRecord.exchange? ≠ [] := by
        intro nothing
        rw [nothing] at inForce
        cases inForce
      cases sent : record.exchange? with
      | none => simpa only [List.filterMap_cons, sent] using inForce
      | some exchange =>
          simp only [List.filterMap_cons, sent]
          rw [List.getLast?_cons_of_ne_nil some_]
          exact inForce

end Deployment

/-!
### The listing
-/

/-- Pods of an instance are listed with a query, when the status is brought in line with whichever
    server. -/
def Nginx.Lists (nginx : Nginx) (query : String) : Prop :=
  ∃ (σ : Type) (answer : σ → Request → Outcome × σ) (state : σ) (deleted : Bool),
    ∃ request ∈ ((refreshStatus nginx deleted).run answer state).requests,
      request.method = .get ∧ request.target.query = query

/-- An instance is in a namespace that the server accepts. -/
def Nginx.Placed (nginx : Nginx) : Prop :=
  ∃ namespaceName, nginx.metadata.namespaceName = some namespaceName ∧ Dns.IsLabel namespaceName

section Listing

variable {nginx : Nginx}

/-- Whatever the name of an instance, its pods can be listed unless the target is too long. -/
theorem Call.request_listPods (placed : nginx.Placed) :
    Call.listPods.request nginx =
      if (Call.listPods.targetText nginx).utf8ByteSize ≤ Target.longest then
        .ok (Call.listPods.sent nginx)
      else .error (.badTarget .tooLong) := by
  obtain ⟨namespaceName, given, valid⟩ := placed
  have same : nginx.namespaceName = namespaceName := by simp [Nginx.namespaceName, given]
  have literal : ∀ part ∈ ["api", "v1", "namespaces", "pods"],
      part.toList.all Dns.isNameChar := by decide
  have nameChars : ∀ part ∈ Call.listPods.parts nginx, ∀ c ∈ part.toList, Dns.isNameChar c := by
    intro part found
    simp only [parts, same, List.mem_cons, List.not_mem_nil, or_false] at found
    rcases found with rfl | rfl | rfl | rfl | rfl
    · exact List.all_eq_true.mp (literal _ (by simp))
    · exact List.all_eq_true.mp (literal _ (by simp))
    · exact List.all_eq_true.mp (literal _ (by simp))
    · exact valid.isNameChar
    · exact List.all_eq_true.mp (literal _ (by simp))
  unfold request
  rw [if_neg (by simp [objectName?])]
  by_cases short : (Call.listPods.targetText nginx).utf8ByteSize ≤ Target.longest
  · have target : Target.ofText (Call.listPods.targetText nginx) =
        .ok ⟨String.ofList (joined ((Call.listPods.parts nginx).map String.toList)),
          String.ofList (Call.listPods.query nginx).toList⟩ :=
      Target.ofText_of_plain Call.listPods.toList_targetText (.inr rfl) (plain_joined nameChars)
        Call.listPods.plain_query short
    rw [target, if_pos short]
    simp [sent]
  · rw [Target.ofText, if_pos (Nat.not_le.mp short), if_neg short]

variable {σ : Type} {serves : σ → Request → Outcome → σ → Prop} {scope : Call → Bool}
  {state final : σ} {call : Call} {records : List CallRecord}
  {result : Except OperatorError Unit}

/-- The calls that bring the status in line. -/
def Call.aboutStatus : Call → Bool
  | .listPods | .recordPods _ => true
  | .createDeployment | .fetchDeployment | .replaceDeployment _ | .createService => false

theorem Call.aboutStatus_of_followUp? {next : Call} {reply : Except ClientError Reply}
    (about : call.aboutStatus) (follows : call.followUp? nginx reply = some next) :
    next.aboutStatus := by
  unfold followUp? at follows
  split at follows
  case h_6 pods =>
    split at follows
    · cases follows
      rfl
    · cases follows
  all_goals first | (cases about; done) | cases follows

theorem Handles.aboutStatus
    (walk : Handles serves nginx scope state call records result final)
    (about : call.aboutStatus) : ∀ record ∈ records, record.call.aboutStatus := by
  induction walk with
  | failed performed failure => simpa using about
  | ended performed passed last => simpa using about
  | continued performed passed more rest ih =>
      have follows := (Option.filter_eq_some_iff.mp more).1
      exact List.forall_mem_cons.mpr ⟨about, ih (Call.aboutStatus_of_followUp? about follows)⟩

/-- Where pods of an instance are listed, the query is that of its call. -/
theorem Nginx.query_of_lists {query : String} (placed : nginx.Placed)
    (lists : nginx.Lists query) : query = Call.listPods.query nginx := by
  obtain ⟨σ, answer, state, deleted, request, among, get, rfl⟩ := lists
  cases deleted with
  | true => cases among
  | false =>
      obtain ⟨records, walk, exchanges⟩ := refreshStatus_walks answer nginx state
      rw [Transcript.requests, exchanges] at among
      obtain ⟨exchange, sent, rfl⟩ := List.mem_map.mp among
      obtain ⟨record, member, exchanged⟩ := List.mem_filterMap.mp sent
      obtain ⟨before, after, performed⟩ := walk.performed_of_mem record member
      have about := walk.aboutStatus rfl record member
      have built := performed.built exchanged
      have method := (Call.method_and_body_of_request built).1
      rw [get] at method
      cases call : record.call with
      | listPods =>
          rw [call, Call.request_listPods placed] at built
          split at built
          · rw [← Except.ok.inj built]
            rfl
          · cases built
      | recordPods pods =>
          rw [call] at method
          cases method
      | createDeployment | fetchDeployment | replaceDeployment | createService =>
          rw [call] at about
          cases about

/-- Pods of an instance that was not deleted are listed first, unless the target is too long. -/
theorem refreshStatus_head? (placed : nginx.Placed) (answer : σ → Request → Outcome × σ)
    (state : σ) :
    ((refreshStatus nginx false).run answer state).requests.head? =
      if (Call.listPods.targetText nginx).utf8ByteSize ≤ Target.longest then
        some (Call.listPods.sent nginx)
      else none := by
  obtain ⟨records, walk, exchanges⟩ := refreshStatus_walks answer nginx state
  rw [Transcript.requests, exchanges, walk.head?_requests, Call.request_listPods placed]
  split <;> rfl

end Listing

/-!
### The agreement
-/

/-- For an instance in a namespace that the server accepts, whatever its name and whatever a server
    answers: its pods are listed unless the target is too long; a run that brings its deployment in
    line and ends well leaves one in force, and the selector of the labels of its pods is the one that
    the query of the listing gives; and if there is no comma in the name, the listing selects the pods
    that have all labels of the instance, and the pods of another instance only if it has the same
    name. -/
theorem listing_agrees_with_template {nginx : Nginx} (placed : nginx.Placed) :
    (∀ {σ : Type} (answer : σ → Request → Outcome × σ) (state : σ),
      ((refreshStatus nginx false).run answer state).requests.head? =
        if (Call.listPods.targetText nginx).utf8ByteSize ≤ Target.longest then
          some (Call.listPods.sent nginx)
        else none) ∧
    (∀ {σ : Type} (answer : σ → Request → Outcome × σ) (state : σ),
      let transcript := (reconcileDeployment nginx).run answer state
      transcript.result = .ok () →
        ∃ deployment labels, transcript.inForce? = some deployment ∧
          deployment.podLabels? = some labels ∧ ∀ query, nginx.Lists query →
            Text.queryText? "labelSelector" query = some (selectorText labels)) ∧
    (',' ∉ nginx.name.toList → ∀ query, nginx.Lists query →
      (∀ pod : Labels,
        (Selector.ofQuery query).selects pod.get? ↔ pod.Satisfy (labelsFor nginx.name)) ∧
      ∀ (other : Nginx) (labels : Labels), other.desiredTemplate.labels = some labels →
        ((Selector.ofQuery query).selects labels.get? ↔ nginx.name = other.name)) := by
  refine ⟨fun answer state => refreshStatus_head? placed answer state, ?_, ?_⟩
  · intro σ answer state transcript ended
    obtain ⟨records, walk, exchanges⟩ := reconcileDeployment_walks answer nginx state
    obtain ⟨deployment, inForce, labels⟩ := walk.leaves_labels ended rfl
      (fun _ replaced => by cases replaced)
    refine ⟨deployment, labelsFor nginx.name, ?_, labels, ?_⟩
    · rw [Transcript.inForce?, exchanges]
      exact inForce
    · intro query lists
      rw [Nginx.query_of_lists placed lists]
      exact queryText?_listPods nginx
  · intro free query lists
    rw [Nginx.query_of_lists placed lists, Selector.ofQuery_listPods free]
    refine ⟨fun pod => Selector.selects_ofLabels_iff, ?_⟩
    rintro other labels carries
    cases carries
    rw [Selector.selects_ofLabels_iff, labelsFor_satisfy_iff]
    exact eq_comm

/-- An instance without a name of its own, with a blank and letters outside of ASCII in the stem. -/
def stemmedNginx : Nginx where
  metadata := { generateName := some "café au lait-", namespaceName := some "default" }
  spec := {}

/-- A server that creates the deployments of a namespace. -/
def creatingScript : Script :=
  [⟨.post, "/apis/apps/v1/namespaces/default/deployments", .answer 201 (.document (.obj []))⟩]

/-- The deployment of the instance is created, and its pods are listed by their labels. -/
theorem listing_agrees_with_template_stemmed :
    stemmedNginx.Placed ∧ ',' ∉ stemmedNginx.name.toList ∧
      ((reconcileDeployment stemmedNginx).run Script.answer creatingScript).result = .ok () ∧
      ∃ query deployment labels, stemmedNginx.Lists query ∧
        ((reconcileDeployment stemmedNginx).run Script.answer creatingScript).inForce? =
          some deployment ∧
        deployment.podLabels? = some labels ∧
        Text.queryText? "labelSelector" query = some (selectorText labels) ∧
        (Selector.ofQuery query).selects (labelsFor stemmedNginx.name).get? := by
  have placed : stemmedNginx.Placed := ⟨"default", rfl, by decide, by decide⟩
  have free : ',' ∉ stemmedNginx.name.toList := by decide
  have ended : ((reconcileDeployment stemmedNginx).run Script.answer creatingScript).result =
      .ok () := by decide +kernel
  obtain ⟨first, agrees, selects⟩ := listing_agrees_with_template placed
  have short : (Call.listPods.targetText stemmedNginx).utf8ByteSize ≤ Target.longest := by
    decide +kernel
  have sent := first Script.answer []
  rw [if_pos short] at sent
  have lists : stemmedNginx.Lists (Call.listPods.query stemmedNginx) :=
    ⟨_, Script.answer, [], false, _, List.mem_of_head? sent, rfl, rfl⟩
  obtain ⟨deployment, labels, inForce, carries, gives⟩ := agrees Script.answer creatingScript ended
  exact ⟨placed, free, ended, _, deployment, labels, lists, inForce, carries, gives _ lists,
    ((selects free _ lists).2 stemmedNginx _ rfl).mpr rfl⟩

end NginxFleet
