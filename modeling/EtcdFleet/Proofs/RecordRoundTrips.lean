import EtcdFleet.Cluster.Descriptor
import EtcdFleet.Proofs.WrittenFields

set_option autoImplicit false

/-!
# Records are read back as they were written

Every record is read back from its own document, whatever is absent in it, and the records nested in it with
it. So there is one written form for each value: a document that is read at all, with members missing or
unknown, with a null for nothing, or as the list of its fields, is settled by being written once more.
-/

namespace EtcdFleet

open Document

/-- Reading undoes writing, and a document that has been read and written again is read as before and
stays as it is. -/
structure ReadsBack {α : Type} (write : α → Document) (read : Document → Option α) : Prop where
  undone : ∀ value, read (write value) = some value
  settled : ∀ doc again, (read doc).map write = some again →
    read again = read doc ∧ (read again).map write = some again

theorem ReadsBack.of_undone {α : Type} {write : α → Document} {read : Document → Option α}
    (h : ∀ value, read (write value) = some value) : ReadsBack write read := by
  refine ⟨h, ?_⟩
  intro doc again hagain
  obtain ⟨value, hvalue, rfl⟩ := Option.map_eq_some_iff.1 hagain
  have hread : read (write value) = read doc := (h value).trans hvalue.symm
  exact ⟨hread, by rw [hread, hagain]⟩

/-! ## Descriptors -/

theorem ClusterMeta.ofDocument?_toDocument (metadata : ClusterMeta) :
    ClusterMeta.ofDocument? metadata.toDocument = some metadata := by
  let fields : List (String × Option Document) :=
    [("annotations", some (.ofStringMap metadata.annotations)),
      ("labels", some (.ofStringMap metadata.labels)), ("name", some (.text metadata.name)),
      ("namespace", some (.text metadata.namespace)), ("uid", metadata.uid.map .text)]
  let written := Fields.named (presentFields fields)
  have hdistinct : (fields.map (·.1)).Nodup := by simp [fields]
  have hwritten : Fields.strict? 5 metadata.toDocument = some written := rfl
  have hname : written.required 0 "name" text? = some metadata.name :=
    Fields.required_presentFields hdistinct rfl rfl
  have hnamespace : written.required 1 "namespace" text? = some metadata.namespace :=
    Fields.required_presentFields hdistinct rfl rfl
  have huid : written.optional 2 "uid" text? = some metadata.uid :=
    Fields.optional_presentFields_text hdistinct rfl
  have hlabels : written.orDefault 3 "labels" stringMap? .empty = some metadata.labels :=
    Fields.orDefault_presentFields hdistinct rfl (stringMap?_ofStringMap _)
  have hannotations : written.orDefault 4 "annotations" stringMap? .empty =
      some metadata.annotations :=
    Fields.orDefault_presentFields hdistinct rfl (stringMap?_ofStringMap _)
  simp [ClusterMeta.ofDocument?, hwritten, ClusterMeta.ofFields?, hname, hnamespace, huid, hlabels,
    hannotations]

theorem ClusterSpec.ofDocument?_toDocument (spec : ClusterSpec) :
    ClusterSpec.ofDocument? spec.toDocument = some spec := by
  let fields : List (String × Option Document) :=
    [("clusterType", some (.text spec.clusterType)),
      ("diskSize", some (.integer spec.diskSize.toNat)),
      ("env", some (.list (spec.env.map EnvVar.toDocument))),
      ("size", some (.integer spec.size.toNat)), ("totalCpu", some (.integer spec.totalCpu.toNat)),
      ("totalMem", some (.integer spec.totalMem.toNat)), ("version", some (.text spec.version))]
  let written := Fields.named (presentFields fields)
  have hdistinct : (fields.map (·.1)).Nodup := by simp [fields]
  have hwritten : Fields.strict? 7 spec.toDocument = some written := rfl
  have htype : written.required 0 "clusterType" text? = some spec.clusterType :=
    Fields.required_presentFields hdistinct rfl rfl
  have hsize : written.required 1 "size" word32? = some spec.size :=
    Fields.required_presentFields hdistinct rfl (word32?_integer _)
  have hversion : written.required 2 "version" text? = some spec.version :=
    Fields.required_presentFields hdistinct rfl rfl
  have hdisk : written.required 3 "diskSize" word32? = some spec.diskSize :=
    Fields.required_presentFields hdistinct rfl (word32?_integer _)
  have hcpu : written.required 4 "totalCpu" word32? = some spec.totalCpu :=
    Fields.required_presentFields hdistinct rfl (word32?_integer _)
  have hmem : written.required 5 "totalMem" word32? = some spec.totalMem :=
    Fields.required_presentFields hdistinct rfl (word32?_integer _)
  have henv : written.orDefault 6 "env" (listOf? EnvVar.ofDocument?) [] = some spec.env :=
    Fields.orDefault_presentFields hdistinct rfl (listOf?_list EnvVar.ofDocument?_toDocument _)
  simp [ClusterSpec.ofDocument?, hwritten, ClusterSpec.ofFields?, htype, hsize, hversion, hdisk,
    hcpu, hmem, henv]

theorem MemberStatus.ofDocument?_toDocument (member : MemberStatus) :
    MemberStatus.ofDocument? member.toDocument = some member := by
  let fields : List (String × Option Document) :=
    [("endpoint", some (.text member.endpoint)),
      ("extensionClientUrl", some (.text member.extensionClientUrl)),
      ("memberId", some (.text member.memberId)), ("name", some (.text member.name)),
      ("role", member.role.map fun role => .text role.label),
      ("status", some (.text member.phase.label)), ("version", some (.text member.version))]
  let written := Fields.named (presentFields fields)
  have hdistinct : (fields.map (·.1)).Nodup := by simp [fields]
  have hwritten : Fields.strict? 7 member.toDocument = some written := rfl
  have hname : written.required 0 "name" text? = some member.name :=
    Fields.required_presentFields hdistinct rfl rfl
  have hid : written.required 1 "memberId" text? = some member.memberId :=
    Fields.required_presentFields hdistinct rfl rfl
  have hendpoint : written.required 2 "endpoint" text? = some member.endpoint :=
    Fields.required_presentFields hdistinct rfl rfl
  have hextension : written.orDefault 3 "extensionClientUrl" text? "" =
      some member.extensionClientUrl :=
    Fields.orDefault_presentFields hdistinct rfl rfl
  have hversion : written.orDefault 4 "version" text? "" = some member.version :=
    Fields.orDefault_presentFields hdistinct rfl rfl
  have hphase : written.required 5 "status" MemberPhase.ofDocument? = some member.phase :=
    Fields.required_presentFields hdistinct rfl (MemberPhase.ofDocument?_label _)
  have hrole : written.optional 6 "role" MemberRole.ofDocument? = some member.role :=
    Fields.optional_presentFields hdistinct _ MemberRole.ofDocument?_label (fun _ => rfl) rfl
  simp [MemberStatus.ofDocument?, hwritten, MemberStatus.ofFields?, hname, hid, hendpoint,
    hextension, hversion, hphase, hrole]

theorem ClusterStatus.ofDocument?_toDocument (status : ClusterStatus) :
    ClusterStatus.ofDocument? status.toDocument = some status := by
  let fields : List (String × Option Document) :=
    [("members", some (.list (status.members.map MemberStatus.toDocument))),
      ("phase", status.phase.map fun phase => .text phase.label),
      ("serviceName", some (.text status.serviceName))]
  let written := Fields.named (presentFields fields)
  have hdistinct : (fields.map (·.1)).Nodup := by simp [fields]
  have hwritten : Fields.strict? 3 status.toDocument = some written := rfl
  have hphase : written.optional 0 "phase" ClusterPhase.ofDocument? = some status.phase :=
    Fields.optional_presentFields hdistinct _ ClusterPhase.ofDocument?_label (fun _ => rfl) rfl
  have hservice : written.orDefault 1 "serviceName" text? "" = some status.serviceName :=
    Fields.orDefault_presentFields hdistinct rfl rfl
  have hmembers : written.orDefault 2 "members" (listOf? MemberStatus.ofDocument?) [] =
      some status.members :=
    Fields.orDefault_presentFields hdistinct rfl
      (listOf?_list MemberStatus.ofDocument?_toDocument _)
  simp [ClusterStatus.ofDocument?, hwritten, ClusterStatus.ofFields?, hphase, hservice, hmembers]

theorem Cluster.ofDocument?_toDocument (cluster : Cluster) :
    Cluster.ofDocument? cluster.toDocument = some cluster := by
  let fields : List (String × Option Document) :=
    [("metadata", some cluster.metadata.toDocument), ("spec", some cluster.spec.toDocument),
      ("status", some cluster.status.toDocument)]
  let written := Fields.named (presentFields fields)
  have hdistinct : (fields.map (·.1)).Nodup := by simp [fields]
  have hwritten : Fields.strict? 3 cluster.toDocument = some written := rfl
  have hmetadata : written.required 0 "metadata" ClusterMeta.ofDocument? = some cluster.metadata :=
    Fields.required_presentFields hdistinct rfl (ClusterMeta.ofDocument?_toDocument _)
  have hspec : written.required 1 "spec" ClusterSpec.ofDocument? = some cluster.spec :=
    Fields.required_presentFields hdistinct rfl (ClusterSpec.ofDocument?_toDocument _)
  have hstatus : written.orDefault 2 "status" ClusterStatus.ofDocument? .initial =
      some cluster.status :=
    Fields.orDefault_presentFields hdistinct rfl (ClusterStatus.ofDocument?_toDocument _)
  simp [Cluster.ofDocument?, hwritten, Cluster.ofFields?, hmetadata, hspec, hstatus]

/-! ## Probes -/

theorem MemberHealth.ofDocument?_toDocument (member : MemberHealth) :
    MemberHealth.ofDocument? member.toDocument = some member := by
  let fields : List (String × Option Document) :=
    [("endpoint", some (.text member.endpoint)), ("error", member.error.map .text),
      ("extensionClientUrl", member.extensionClientUrl.map .text),
      ("memberId", some (.integer member.memberId.toNat)), ("name", some (.text member.name)),
      ("raftTerm", member.raftTerm.map fun term => .integer term.toNat),
      ("reachable", some (.bool member.reachable)),
      ("revision", member.revision.map fun revision => .integer revision.toInt),
      ("role", member.role.map fun role => .text role.label),
      ("version", member.version.map .text)]
  let written := Fields.named (presentFields fields)
  have hdistinct : (fields.map (·.1)).Nodup := by simp [fields]
  have hwritten : Fields.strict? 10 member.toDocument = some written := rfl
  have hname : written.required 0 "name" text? = some member.name :=
    Fields.required_presentFields hdistinct rfl rfl
  have hid : written.required 1 "memberId" word64? = some member.memberId :=
    Fields.required_presentFields hdistinct rfl (word64?_integer _)
  have hendpoint : written.required 2 "endpoint" text? = some member.endpoint :=
    Fields.required_presentFields hdistinct rfl rfl
  have hextension : written.optional 3 "extensionClientUrl" text? =
      some member.extensionClientUrl :=
    Fields.optional_presentFields_text hdistinct rfl
  have hversion : written.optional 4 "version" text? = some member.version :=
    Fields.optional_presentFields_text hdistinct rfl
  have hrole : written.optional 5 "role" MemberRole.ofDocument? = some member.role :=
    Fields.optional_presentFields hdistinct _ MemberRole.ofDocument?_label (fun _ => rfl) rfl
  have hreachable : written.required 6 "reachable" bool? = some member.reachable :=
    Fields.required_presentFields hdistinct rfl rfl
  have hrevision : written.optional 7 "revision" signed64? = some member.revision :=
    Fields.optional_presentFields hdistinct _ signed64?_integer (fun _ => rfl) rfl
  have hterm : written.optional 8 "raftTerm" word64? = some member.raftTerm :=
    Fields.optional_presentFields hdistinct _ word64?_integer (fun _ => rfl) rfl
  have herror : written.optional 9 "error" text? = some member.error :=
    Fields.optional_presentFields_text hdistinct rfl
  simp [MemberHealth.ofDocument?, hwritten, MemberHealth.ofFields?, hname, hid, hendpoint,
    hextension, hversion, hrole, hreachable, hrevision, hterm, herror]

/-- The files are settings of their own, where a list may end before the last of them, and a record by
themselves, where it may not. -/
theorem TlsFiles.fields_toDocument (files : TlsFiles) :
    ∃ written, Fields.strict? 3 files.toDocument = some written ∧
      TlsFiles.ofFields? written = some files ∧ Settings.probeFields? written = some files := by
  let fields : List (String × Option Document) :=
    [("ca_file", some (orNull files.caFile)), ("cert_file", some (orNull files.certFile)),
      ("key_file", some (orNull files.keyFile))]
  let written := Fields.named (presentFields fields)
  have hdistinct : (fields.map (·.1)).Nodup := by simp [fields]
  have hca : written.optional 0 "ca_file" text? = some files.caFile :=
    Fields.optional_presentFields_orNull hdistinct rfl
  have hcert : written.optional 1 "cert_file" text? = some files.certFile :=
    Fields.optional_presentFields_orNull hdistinct rfl
  have hkey : written.optional 2 "key_file" text? = some files.keyFile :=
    Fields.optional_presentFields_orNull hdistinct rfl
  have hprobe : Settings.probeFields? written = some files := by
    simp [Settings.probeFields?, hca, hcert, hkey]
  -- The two readers differ only where the fields are a list.
  exact ⟨written, rfl, hprobe, hprobe⟩

theorem TlsFiles.ofDocument?_toDocument (files : TlsFiles) :
    TlsFiles.ofDocument? files.toDocument = some files := by
  obtain ⟨written, hwritten, hfiles, _⟩ := files.fields_toDocument
  rw [TlsFiles.ofDocument?, hwritten, Option.bind_some, hfiles]

/-! ## Settings -/

theorem ResourceKind.ofDocument?_toDocument (kind : ResourceKind) :
    ResourceKind.ofDocument? Fields.strict? kind.toDocument = some kind := by
  let fields : List (String × Option Document) :=
    [("group", some (.text kind.group)), ("kind", some (.text kind.kind)),
      ("plural", some (.text kind.plural)), ("version", some (.text kind.version))]
  let written := Fields.named (presentFields fields)
  have hdistinct : (fields.map (·.1)).Nodup := by simp [fields]
  have hwritten : Fields.strict? 4 kind.toDocument = some written := rfl
  have hgroup : written.required 0 "group" text? = some kind.group :=
    Fields.required_presentFields hdistinct rfl rfl
  have hversion : written.required 1 "version" text? = some kind.version :=
    Fields.required_presentFields hdistinct rfl rfl
  have hkind : written.required 2 "kind" text? = some kind.kind :=
    Fields.required_presentFields hdistinct rfl rfl
  have hplural : written.required 3 "plural" text? = some kind.plural :=
    Fields.required_presentFields hdistinct rfl rfl
  simp [ResourceKind.ofDocument?, hwritten, ResourceKind.ofFields?, hgroup, hversion, hkind, hplural]

theorem EndpointSettings.ofDocument?_toDocument (endpoints : EndpointSettings) :
    EndpointSettings.ofDocument? .strict endpoints.toDocument = some endpoints := by
  let fields : List (String × Option Document) :=
    [("client_port", some (.integer endpoints.clientPort.toNat)),
      ("cluster_domain", some (.text endpoints.clusterDomain))]
  let written := Fields.named (presentFields fields)
  have hdistinct : (fields.map (·.1)).Nodup := by simp [fields]
  have hwritten : RecordStyle.strict.fields 2 endpoints.toDocument = some written := rfl
  have hport : written.orDefault 0 "client_port" word16? initial.clientPort =
      some endpoints.clientPort :=
    Fields.orDefault_presentFields hdistinct rfl (word16?_integer _)
  have hdomain : written.orDefault 1 "cluster_domain" text? initial.clusterDomain =
      some endpoints.clusterDomain :=
    Fields.orDefault_presentFields hdistinct rfl rfl
  simp [EndpointSettings.ofDocument?, hwritten, EndpointSettings.ofFields?, hport, hdomain]

theorem LogSettings.ofDocument?_toDocument (logging : LogSettings) :
    LogSettings.ofDocument? .strict logging.toDocument = some logging := by
  let fields : List (String × Option Document) :=
    [("file_path", some (TlsFiles.orNull logging.filePath)),
      ("json_format", some (.bool logging.jsonFormat)), ("level", some (.text logging.level)),
      ("rotation", some (.text logging.rotation.label))]
  let written := Fields.named (presentFields fields)
  have hdistinct : (fields.map (·.1)).Nodup := by simp [fields]
  have hwritten : RecordStyle.strict.fields 4 logging.toDocument = some written := rfl
  have hlevel : written.orDefault 0 "level" text? initial.level = some logging.level :=
    Fields.orDefault_presentFields hdistinct rfl rfl
  have hpath : written.optional 1 "file_path" text? = some logging.filePath :=
    Fields.optional_presentFields_orNull hdistinct rfl
  have hrotation : written.orDefault 2 "rotation" (rotation? .strict) initial.rotation =
      some logging.rotation :=
    Fields.orDefault_presentFields hdistinct rfl (rotation?_label _ _)
  have hjson : written.orDefault 3 "json_format" bool? initial.jsonFormat =
      some logging.jsonFormat :=
    Fields.orDefault_presentFields hdistinct rfl rfl
  simp [LogSettings.ofDocument?, hwritten, LogSettings.ofFields?, hlevel, hpath, hrotation, hjson]

theorem Settings.ofDocument?_toDocument (settings : Settings) :
    Settings.ofDocument? .strict settings.toDocument = some settings := by
  let fields : List (String × Option Document) :=
    [("endpoints", some settings.endpoints.toDocument),
      ("etcd_resource", some settings.clusterResource.toDocument),
      ("inspection_resource", some settings.inspectionResource.toDocument),
      ("logging", some settings.logging.toDocument), ("probe", some settings.probe.toDocument)]
  let written := Fields.named (presentFields fields)
  let resource := ResourceKind.ofDocument? RecordStyle.strict.fields
  let files := fun doc => (RecordStyle.strict.fields 3 doc).bind probeFields?
  have hdistinct : (fields.map (·.1)).Nodup := by simp [fields]
  have hwritten : RecordStyle.strict.fields 5 settings.toDocument = some written := rfl
  have hcluster : written.orDefault 0 "etcd_resource" resource initial.clusterResource =
      some settings.clusterResource :=
    Fields.orDefault_presentFields hdistinct rfl (ResourceKind.ofDocument?_toDocument _)
  have hinspection : written.orDefault 1 "inspection_resource" resource
      initial.inspectionResource = some settings.inspectionResource :=
    Fields.orDefault_presentFields hdistinct rfl (ResourceKind.ofDocument?_toDocument _)
  have hendpoints : written.orDefault 2 "endpoints" (EndpointSettings.ofDocument? .strict)
      initial.endpoints = some settings.endpoints :=
    Fields.orDefault_presentFields hdistinct rfl (EndpointSettings.ofDocument?_toDocument _)
  have hprobe : written.orDefault 3 "probe" files initial.probe = some settings.probe := by
    obtain ⟨inner, hinner, _, hfiles⟩ := settings.probe.fields_toDocument
    exact Fields.orDefault_presentFields hdistinct rfl (Option.bind_eq_some_iff.2 ⟨_, hinner, hfiles⟩)
  have hlogging : written.orDefault 4 "logging" (LogSettings.ofDocument? .strict)
      initial.logging = some settings.logging :=
    Fields.orDefault_presentFields hdistinct rfl (LogSettings.ofDocument?_toDocument _)
  simp [Settings.ofDocument?, hwritten, Settings.ofFields?, resource, files, hcluster, hinspection,
    hendpoints, hprobe, hlogging]

/-- Every record of descriptors, probes and settings is read back from what it is written as, and one
reading and writing brings any other document of it to that form. -/
theorem records_read_back :
    ReadsBack Cluster.toDocument Cluster.ofDocument? ∧
    ReadsBack ClusterMeta.toDocument ClusterMeta.ofDocument? ∧
    ReadsBack ClusterSpec.toDocument ClusterSpec.ofDocument? ∧
    ReadsBack ClusterStatus.toDocument ClusterStatus.ofDocument? ∧
    ReadsBack MemberStatus.toDocument MemberStatus.ofDocument? ∧
    ReadsBack MemberHealth.toDocument MemberHealth.ofDocument? ∧
    ReadsBack ResourceKind.toDocument (ResourceKind.ofDocument? Fields.strict?) ∧
    ReadsBack TlsFiles.toDocument TlsFiles.ofDocument? ∧
    ReadsBack Settings.toDocument (Settings.ofDocument? .strict) :=
  ⟨.of_undone Cluster.ofDocument?_toDocument, .of_undone ClusterMeta.ofDocument?_toDocument,
    .of_undone ClusterSpec.ofDocument?_toDocument, .of_undone ClusterStatus.ofDocument?_toDocument,
    .of_undone MemberStatus.ofDocument?_toDocument, .of_undone MemberHealth.ofDocument?_toDocument,
    .of_undone ResourceKind.ofDocument?_toDocument, .of_undone TlsFiles.ofDocument?_toDocument,
    .of_undone Settings.ofDocument?_toDocument⟩

/-- A list that ends early and an object with a null and an unknown member are read as one record. -/
example :
    ClusterMeta.ofDocument? (.list [.text "orders", .text "shop"]) =
      ClusterMeta.ofDocument? (.object [("kind", .bool true), ("name", .text "orders"),
        ("namespace", .text "shop"), ("uid", .null)]) :=
  rfl

end EtcdFleet
