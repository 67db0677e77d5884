/-
Module: NginxFleet.Proofs.Wire.Service
Layer: Proofs
Purpose: The services that are built for an instance survive the wire: they arrive as they were sent
  and are read back field by field, since nothing is carried along in them.
Main exports: Service.Plain, Service.ofJson?_toJson, Nginx.plain_desiredService,
  Nginx.received_desiredService
-/
import NginxFleet.Proofs.Wire.Deployment

namespace NginxFleet

open Json

theorem ServicePort.ofJson?_toJson {port : ServicePort} (plain : port.extra = []) :
    ofJson? port.toJson = some port := by
  have apart : ∀ name ∈ Shape.servicePortFields.map Prod.fst,
      name ∉ ["name", "port", "targetPort"] := by decide
  obtain ⟨name, number, targetPort, extra⟩ := port
  cases plain
  simp [ofJson?, toJson, recordWith, openMembers, orElse, optional_eq_readLast,
    occurrences_setMembers_cons, readLast_amount, normalMembers?_setMembers apart]

/-- A specification in which nothing is carried along, also not in its ports. -/
structure ServiceSpec.Plain (spec : ServiceSpec) : Prop where
  extra : spec.extra = []
  ports : ∀ ports ∈ spec.ports, ∀ port ∈ ports, port.extra = []

theorem ServiceSpec.ofJson?_toJson {spec : ServiceSpec} (plain : spec.Plain) :
    ofJson? spec.toJson = some spec := by
  have apart : ∀ name ∈ Shape.serviceSpecFields.map Prod.fst,
      name ∉ ["ports", "selector", "type"] := by decide
  have ports : readLast (readList ServicePort.ofJson?)
      (spec.ports.map (Json.ofList ServicePort.toJson)).toList = some spec.ports :=
    readLast_list fun ports found port member =>
      ServicePort.ofJson?_toJson (plain.ports ports found port member)
  obtain ⟨portList, selector, type, extra⟩ := spec
  cases plain.extra
  simp [ofJson?, toJson, recordWith, openMembers, optional_eq_readLast,
    occurrences_setMembers_cons, normalMembers?_setMembers apart, ports]

namespace Service

/-- A service with valid metadata, nothing carried along and no status. -/
structure Plain (service : Service) : Prop where
  metadata : service.metadata.Valid
  spec : ∀ spec ∈ service.spec, spec.Plain
  status : service.status = none

theorem ofJson?_toJson {service : Service} (plain : service.Plain) :
    ofJson? service.toJson = some service := by
  have metadata : readLast ObjectMeta.ofJson? [service.metadata.toJson] =
      some (some service.metadata) :=
    readLast_single (readNullable_of_some rfl (ObjectMeta.ofJson?_toJson plain.metadata))
  have spec : readLast ServiceSpec.ofJson? (service.spec.map ServiceSpec.toJson).toList =
      some service.spec :=
    readLast_record rfl fun spec found => ServiceSpec.ofJson?_toJson (plain.spec spec found)
  have status : readLast Shape.serviceStatus.normal? [] = some none := rfl
  obtain ⟨meta', spec', status'⟩ := service
  cases plain.status
  simp [ofJson?, toJson, identified, record, openMembers, orElse, optional_eq_readLast,
    occurrences_setMembers_cons, metadata, spec, status]

end Service

namespace Nginx

theorem plain_desiredService (nginx : Nginx) : nginx.desiredService.Plain where
  metadata := nginx.valid_dependentMetadata _
  spec := by
    intro spec found
    cases found
    exact ⟨rfl, by simp⟩
  status := rfl

theorem received_desiredService (nginx : Nginx) :
    nginx.desiredService.toJson.received = nginx.desiredService.toJson := by
  simp [desiredService, dependentMetadata, Service.toJson, ServiceSpec.toJson, ServicePort.toJson,
    IntOrText.toJson, ObjectMeta.toJson, OwnerReference.received_toJson, Json.ofList,
    Function.comp_def, received, itemsReceived, membersReceived]

end Nginx

end NginxFleet
