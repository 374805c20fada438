import CustomerKeys.Document.Decode
import CustomerKeys.Scenario.Basic
import CustomerKeys.Settings.Basic

/-!
# Records as documents

Every record of the library has a document form. Writing gives all fields in the order of their
declaration, an absent option being null. Reading follows `RecordShape`. A verdict is a table whose
entry `result` names it; a failed one has its reason next to that.
-/

namespace CustomerKeys

namespace Encode

/-- An unsigned number of 32 bits, written as the integer that it is. -/
def word32 (value : UInt32) : Document := .integer value.toNat

/-- An unsigned number of 64 bits. JSON holds all of them; TOML has no integers for the upper half.
-/
def word64 (value : UInt64) : Document := .integer value.toNat

/-- A list of values, each written as it is written alone. -/
def list {α : Type} (item : α → Document) (values : List α) : Document := .list (values.map item)

/-- Values by name, written as a table in the order of the names. -/
def byName {α : Type} (item : α → Document) (values : ByName α) : Document :=
  .table (values.toList.map fun (name, value) => (name, item value))

/-- A value or null. Only values that are never written as null themselves can be told apart from a
missing one. -/
def option {α : Type} (item : α → Document) : Option α → Document
  | none => .null
  | some value => item value

end Encode

namespace StatusCode

/-- A status code is written by its upper-case name. -/
def encode (code : StatusCode) : Document := .text code.name

/-- A status code is read by its name, in the way in which the format writes variants. -/
def decode (format : Format) : Decoder StatusCode := Decode.variant format name all

end StatusCode

namespace EncryptionKind

/-- A kind of encryption is written by its upper-case name. -/
def encode (kind : EncryptionKind) : Document := .text kind.name

/-- A kind of encryption is read by that name; the label that messages use is not accepted. -/
def decode (format : Format) : Decoder EncryptionKind := Decode.variant format name all

end EncryptionKind

namespace StorageType

/-- A storage medium is written by its name in capitals. -/
def encode (storage : StorageType) : Document := .text storage.name

/-- A storage medium is read by its name. Settings may leave it out, records of clusters may not. -/
def decode (format : Format) : Decoder StorageType := Decode.variant format name all

end StorageType

namespace Scenario

/-- A scenario is written by the name under which it can also be selected. -/
def encode (scenario : Scenario) : Document := .text scenario.name

/-- A scenario is read by its name. There is no word for all of them here. -/
def decode (format : Format) : Decoder Scenario := Decode.variant format name all

end Scenario

namespace Status

/-- A status is written as its code and its text, also when the text is empty. -/
def encode (status : Status) : Document :=
  .table [("code", status.code.encode), ("message", .text status.message)]

/-- A status has two fields, its code and its text, and both have to be there. -/
def shape (format : Format) : RecordShape Status :=
  Status.mk <$> .required "code" (StatusCode.decode format) <*> .required "message" Decode.text

/-- A status is read by its shape, under the name that messages about it use. -/
def decode (format : Format) : Decoder Status := (shape format).decode "Status"

end Status

namespace Encryption

/-- Metadata is written as its kind, the version of the key and the status. A version that is not
known is an empty text. -/
def encode (encryption : Encryption) : Document :=
  .table [("encryption_type", encryption.kind.encode),
    ("kms_key_version", .text encryption.keyVersion), ("status", encryption.status.encode)]

/-- Metadata has three fields, and all of them have to be there. -/
def shape (format : Format) : RecordShape Encryption :=
  Encryption.mk <$> .required "encryption_type" (EncryptionKind.decode format)
    <*> .required "kms_key_version" Decode.text <*> .required "status" (Status.decode format)

/-- Metadata is read by its shape, under the name that messages about it use. -/
def decode (format : Format) : Decoder Encryption := (shape format).decode "EncryptionInfo"

end Encryption

namespace EncryptionReport

/-- A report is written as a table with the list of the entries of each cluster. Its names are ids
of clusters and not those of fields. -/
def encode (report : EncryptionReport) : Document :=
  Encode.byName (Encode.list Encryption.encode) report

/-- A report is read back from such a table, whatever the names are and however many entries a
cluster has. -/
def decode (format : Format) : Decoder EncryptionReport :=
  Decode.byName (Decode.list (Encryption.decode format))

end EncryptionReport

namespace ClusterSpec

/-- A specification is written with null in the place of a key when none is asked for. -/
def encode (spec : ClusterSpec) : Document :=
  .table [("id", .text spec.id), ("zone", .text spec.zone),
    ("serve_nodes", Encode.word32 spec.serveNodes), ("storage_type", spec.storage.encode),
    ("kms_key_name", Encode.option .text spec.key)]

/-- A specification has five fields, of which only the key may be missing. -/
def shape (format : Format) : RecordShape ClusterSpec :=
  ClusterSpec.mk <$> .required "id" Decode.text <*> .required "zone" Decode.text
    <*> .required "serve_nodes" Decode.word32
    <*> .required "storage_type" (StorageType.decode format)
    <*> .optional "kms_key_name" Decode.text

/-- A specification is read by its shape, under the name that messages about it use. -/
def decode (format : Format) : Decoder ClusterSpec := (shape format).decode "ClusterSpec"

end ClusterSpec

namespace Cluster

/-- A cluster is written like a specification, with its instance behind its id. -/
def encode (cluster : Cluster) : Document :=
  .table [("id", .text cluster.id), ("instance_id", .text cluster.instanceId),
    ("zone", .text cluster.zone), ("serve_nodes", Encode.word32 cluster.serveNodes),
    ("storage_type", cluster.storage.encode), ("kms_key_name", Encode.option .text cluster.key)]

/-- A cluster has six fields, of which only the key may be missing. -/
def shape (format : Format) : RecordShape Cluster :=
  Cluster.mk <$> .required "id" Decode.text <*> .required "instance_id" Decode.text
    <*> .required "zone" Decode.text <*> .required "serve_nodes" Decode.word32
    <*> .required "storage_type" (StorageType.decode format)
    <*> .optional "kms_key_name" Decode.text

/-- A cluster is read by its shape, under the name that messages about it use. -/
def decode (format : Format) : Decoder Cluster := (shape format).decode "Cluster"

end Cluster

namespace Instance

/-- An instance is written with the ids of its clusters in the order in which they were asked for.
-/
def encode (inst : Instance) : Document :=
  .table [("id", .text inst.id), ("clusters", Encode.list .text inst.clusters),
    ("created_at", Encode.word64 inst.createdAt)]

/-- An instance has three fields, and all of them have to be there. -/
def shape : RecordShape Instance :=
  Instance.mk <$> .required "id" Decode.text <*> .required "clusters" (Decode.list Decode.text)
    <*> .required "created_at" Decode.word64

/-- An instance is read by its shape. It holds no variants, so the format makes no difference. -/
def decode : Decoder Instance := shape.decode "Instance"

end Instance

namespace Table

/-- A table is written with its column families and the time of its creation. -/
def encode (table : Table) : Document :=
  .table [("id", .text table.id), ("instance_id", .text table.instanceId),
    ("column_families", Encode.list .text table.columnFamilies),
    ("created_at", Encode.word64 table.createdAt)]

/-- A table has four fields, and all of them have to be there. -/
def shape : RecordShape Table :=
  Table.mk <$> .required "id" Decode.text <*> .required "instance_id" Decode.text
    <*> .required "column_families" (Decode.list Decode.text)
    <*> .required "created_at" Decode.word64

/-- A table is read by its shape, in the same way in every format. -/
def decode : Decoder Table := shape.decode "Table"

end Table

namespace Backup

/-- A backup is written with the metadata that it was given when it was created. -/
def encode (backup : Backup) : Document :=
  .table [("id", .text backup.id), ("cluster_id", .text backup.clusterId),
    ("source_table_id", .text backup.tableId), ("expire_time", Encode.word64 backup.expireTime),
    ("encryption_info", backup.encryption.encode)]

/-- A backup has five fields, and all of them have to be there. -/
def shape (format : Format) : RecordShape Backup :=
  Backup.mk <$> .required "id" Decode.text <*> .required "cluster_id" Decode.text
    <*> .required "source_table_id" Decode.text <*> .required "expire_time" Decode.word64
    <*> .required "encryption_info" (Encryption.decode format)

/-- A backup is read by its shape, under the name that messages about it use. -/
def decode (format : Format) : Decoder Backup := (shape format).decode "Backup"

end Backup

namespace ScenarioIds

/-- The ids of a run are written one by one, the cluster that is meant to be refused among them. -/
def encode (ids : ScenarioIds) : Document :=
  .table [("instance_id", .text ids.instanceId), ("cluster_id", .text ids.clusterId),
    ("second_cluster_id", .text ids.secondClusterId),
    ("rejected_cluster_id", .text ids.rejectedClusterId), ("table_id", .text ids.tableId),
    ("backup_id", .text ids.backupId)]

/-- The ids of a run are six texts, and all of them have to be there. -/
def shape : RecordShape ScenarioIds :=
  ScenarioIds.mk <$> .required "instance_id" Decode.text <*> .required "cluster_id" Decode.text
    <*> .required "second_cluster_id" Decode.text
    <*> .required "rejected_cluster_id" Decode.text
    <*> .required "table_id" Decode.text <*> .required "backup_id" Decode.text

/-- The ids of a run are read by their shape, in the same way in every format. -/
def decode : Decoder ScenarioIds := shape.decode "ScenarioIds"

end ScenarioIds

namespace Findings

/-- Findings are written with null in the place of everything that was not seen. -/
def encode (findings : Findings) : Document :=
  .table [("encryption_info", Encode.option Encryption.encode findings.encryption),
    ("cluster_entries", Encode.option Encode.word64 findings.clusterEntries),
    ("poll_attempts", Encode.option Encode.word64 findings.pollAttempts),
    ("rejection", Encode.option .text findings.rejection)]

/-- Findings have four fields, and each of them may be missing. -/
def shape (format : Format) : RecordShape Findings :=
  Findings.mk <$> .optional "encryption_info" (Encryption.decode format)
    <*> .optional "cluster_entries" Decode.count <*> .optional "poll_attempts" Decode.count
    <*> .optional "rejection" Decode.text

/-- Findings are read by their shape, under the name that messages about them use. -/
def decode (format : Format) : Decoder Findings := (shape format).decode "Findings"

end Findings

namespace Verdict

/-- The variants of a verdict, as the message about an unknown one lists them. -/
def variants : List String := ["passed", "failed"]

/-- A verdict is written as a table whose entry `result` names it, with the reason of a failed one
next to that. -/
def encode : Verdict → Document
  | .passed => .table [("result", .text "passed")]
  | .failed reason => .table [("result", .text "failed"), ("reason", .text reason)]

/-- The data of a failed verdict: its reason, which has to be there. -/
def failedShape : RecordShape Verdict := Verdict.failed <$> .required "reason" Decode.text

/-- Whether a verdict is a passed one, by the name in its tag. The tag is judged before anything
else in the verdict. -/
def tagOf : Decoder Bool
  | .text "passed" => .ok true
  | .text "failed" => .ok false
  | .text name => .error (.unknownVariant name variants)
  | other => .error (.wrongType other.found "variant identifier")

/-- Demand that a list holds no more items than were read. The error gives the length of the whole
list. -/
def ended (before : Nat) (expected : String) (rest : List Document) : Except DecodeError Unit :=
  if rest.isEmpty then .ok () else .error (.wrongLength (before + rest.length) expected)

/-- Read a verdict: a table tagged by `result`, or a list that starts with the tag. A passed one may
come with entries of any kind. -/
def decode : Decoder Verdict
  | .table entries => do
    let tag ← match entries.lookup "result" with
      | some tag => tagOf tag
      | none => throw (.missingField "result")
    if tag then return .passed
    else failedShape.ofEntries (entries.filter fun (name, _) => name ≠ "result")
  | .list items => do
    let (tag, rest) ← match items with
      | tag :: rest => (tagOf tag).map fun passed => (passed, rest)
      | [] => throw (.missingField "result")
    if tag then
      ended 0 "0 elements in sequence" rest
      return .passed
    else
      let (verdict, rest) ← failedShape.ofItems "struct variant Verdict::Failed" rest
      ended 1 "1 element in sequence" rest
      return verdict
  | other => .error (.wrongType other.found "internally tagged enum Verdict")

end Verdict

namespace Report

/-- A report is written with its verdict and its findings as tables of their own. -/
def encode (report : Report) : Document :=
  .table [("scenario", report.scenario.encode), ("instance_id", .text report.instanceId),
    ("verdict", report.verdict.encode), ("findings", report.findings.encode),
    ("duration_ms", Encode.word64 report.durationMs)]

/-- A report has five fields, and all of them have to be there. -/
def shape (format : Format) : RecordShape Report :=
  Report.mk <$> .required "scenario" (Scenario.decode format)
    <*> .required "instance_id" Decode.text <*> .required "verdict" Verdict.decode
    <*> .required "findings" (Findings.decode format) <*> .required "duration_ms" Decode.word64

/-- A report is read by its shape, under the name that messages about it use. -/
def decode (format : Format) : Decoder Report := (shape format).decode "ScenarioReport"

end Report

namespace Settings

/-- Settings are written in full, those with their usual value as well. -/
def encode (settings : Settings) : Document :=
  .table [("project_id", .text settings.project), ("kms_key_name", .text settings.key),
    ("primary_zone", .text settings.primaryZone),
    ("primary_region_second_zone", .text settings.siblingZone),
    ("secondary_zone", .text settings.foreignZone),
    ("wait_for_key_status", .boolean settings.waitForKeyStatus),
    ("instance_prefix", .text settings.idStem),
    ("backoff_secs", Encode.list Encode.word64 settings.backoff),
    ("serve_nodes", Encode.word32 settings.serveNodes),
    ("storage_type", settings.storage.encode),
    ("backup_ttl_secs", Encode.word64 settings.backupLifetime)]

/-- Settings have eleven fields. The project, the key and the zones have to be there; the others
have a usual value. -/
def shape (format : Format) : RecordShape Settings :=
  Settings.mk <$> .required "project_id" Decode.text <*> .required "kms_key_name" Decode.text
    <*> .required "primary_zone" Decode.text
    <*> .required "primary_region_second_zone" Decode.text
    <*> .required "secondary_zone" Decode.text
    <*> .defaulted "wait_for_key_status" Decode.boolean false
    <*> .defaulted "instance_prefix" Decode.text usualIdStem
    <*> .defaulted "backoff_secs" (Decode.list Decode.word64) Schedule.usualSeconds
    <*> .defaulted "serve_nodes" Decode.word32 usualServeNodes
    <*> .defaulted "storage_type" (StorageType.decode format) .ssd
    <*> .defaulted "backup_ttl_secs" Decode.word64 usualBackupLifetime

/-- Settings are read by their shape, under the name that messages about them use. -/
def decode (format : Format) : Decoder Settings := (shape format).decode "HarnessConfig"

end Settings

end CustomerKeys
