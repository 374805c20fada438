import CustomerKeys.Proofs.ExtendedDocuments

/-!
# Records read back from JSON

What is written for a record in JSON is read as that record again, and so is what is written with
further fields in it. The law is shown for one type after the other. The fields of a record are
gathered in the order of their declaration, each by the law of its own type. Only verdicts are read
in a different way, by their tag.

A report of metadata is a map. Its names are those of clusters, so further fields are allowed in the
metadata but not beside them.
-/

namespace CustomerKeys

open Document (Extended ExtendedInValues)
open RecordShape (Gathers)

/-- A status code is read back from its name, since every code is listed and no two share a name. -/
theorem StatusCode.reads_back : ReadsBack Extended encode (decode .json) :=
  .variant mem_all (by decide)

/-- A kind of encryption is read back from its name, for the same reasons. -/
theorem EncryptionKind.reads_back : ReadsBack Extended encode (decode .json) :=
  .variant (fun kind => by cases kind <;> decide) (by decide)

/-- A storage medium is read back from its name. -/
theorem StorageType.reads_back : ReadsBack Extended encode (decode .json) :=
  .variant (fun storage => by cases storage <;> decide) (by decide)

/-- A scenario is read back from its name. -/
theorem Scenario.reads_back : ReadsBack Extended encode (decode .json) :=
  .variant (fun scenario => by cases scenario <;> decide) (by decide)

/-- A status is read back from its code and its text, whatever the text is. -/
theorem Status.reads_back : ReadsBack Extended encode (decode .json) := by
  refine .record (fun _ => rfl) (fun _ => rfl) (by decide) fun status => ?_
  exact (Gathers.field StatusCode.reads_back status.code).map Status.mk
    |>.seq (.field .text status.message)

/-- Metadata is read back, with the status inside it, which may itself have further fields. -/
theorem Encryption.reads_back : ReadsBack Extended encode (decode .json) := by
  refine .record (fun _ => rfl) (fun _ => rfl) (by decide) fun encryption => ?_
  exact (Gathers.field EncryptionKind.reads_back encryption.kind).map Encryption.mk
    |>.seq (.field .text encryption.keyVersion)
    |>.seq (.field Status.reads_back encryption.status)

/-- The names of a report are clusters, so only the metadata may have further fields. -/
theorem EncryptionReport.reads_back : ReadsBack ExtendedInValues encode (decode .json) :=
  .by_name (.list Encryption.reads_back)

/-- A specification is read back, with or without a key. No key is written as null, which no text
is. -/
theorem ClusterSpec.reads_back : ReadsBack Extended encode (decode .json) := by
  refine .record (fun _ => rfl) (fun _ => rfl) (by decide) fun spec => ?_
  exact (Gathers.field .text spec.id).map ClusterSpec.mk
    |>.seq (.field .text spec.zone)
    |>.seq (.field .word32 spec.serveNodes)
    |>.seq (.field StorageType.reads_back spec.storage)
    |>.seq (.field (.option .text nofun) spec.key)

/-- A cluster is read back, with or without a key. -/
theorem Cluster.reads_back : ReadsBack Extended encode (decode .json) := by
  refine .record (fun _ => rfl) (fun _ => rfl) (by decide) fun cluster => ?_
  exact (Gathers.field .text cluster.id).map Cluster.mk
    |>.seq (.field .text cluster.instanceId)
    |>.seq (.field .text cluster.zone)
    |>.seq (.field .word32 cluster.serveNodes)
    |>.seq (.field StorageType.reads_back cluster.storage)
    |>.seq (.field (.option .text nofun) cluster.key)

/-- An instance is read back, with the ids of its clusters in their order. -/
theorem Instance.reads_back : ReadsBack Extended encode decode := by
  refine .record (fun _ => rfl) (fun _ => rfl) (by decide) fun inst => ?_
  exact (Gathers.field .text inst.id).map Instance.mk
    |>.seq (.field (.list .text) inst.clusters)
    |>.seq (.field .word64 inst.createdAt)

/-- A table is read back, with its column families in their order. -/
theorem Table.reads_back : ReadsBack Extended encode decode := by
  refine .record (fun _ => rfl) (fun _ => rfl) (by decide) fun table => ?_
  exact (Gathers.field .text table.id).map Table.mk
    |>.seq (.field .text table.instanceId)
    |>.seq (.field (.list .text) table.columnFamilies)
    |>.seq (.field .word64 table.createdAt)

/-- A backup is read back, with the metadata that it carries. -/
theorem Backup.reads_back : ReadsBack Extended encode (decode .json) := by
  refine .record (fun _ => rfl) (fun _ => rfl) (by decide) fun backup => ?_
  exact (Gathers.field .text backup.id).map Backup.mk
    |>.seq (.field .text backup.clusterId)
    |>.seq (.field .text backup.tableId)
    |>.seq (.field .word64 backup.expireTime)
    |>.seq (.field Encryption.reads_back backup.encryption)

/-- The ids of a run are read back one by one. -/
theorem ScenarioIds.reads_back : ReadsBack Extended encode decode := by
  refine .record (fun _ => rfl) (fun _ => rfl) (by decide) fun ids => ?_
  exact (Gathers.field .text ids.instanceId).map ScenarioIds.mk
    |>.seq (.field .text ids.clusterId)
    |>.seq (.field .text ids.secondClusterId)
    |>.seq (.field .text ids.rejectedClusterId)
    |>.seq (.field .text ids.tableId)
    |>.seq (.field .text ids.backupId)

/-- Findings are read back, whichever of them were made. None of them is written as null itself, so
a missing one is told apart. -/
theorem Findings.reads_back : ReadsBack Extended encode (decode .json) := by
  refine .record (fun _ => rfl) (fun _ => rfl) (by decide) fun findings => ?_
  exact (Gathers.field (.option Encryption.reads_back nofun) findings.encryption).map Findings.mk
    |>.seq (.field (.option .count nofun) findings.clusterEntries)
    |>.seq (.field (.option .count nofun) findings.pollAttempts)
    |>.seq (.field (.option .text nofun) findings.rejection)

namespace Verdict

/-- The reason of a failure is gathered by its name. -/
theorem gathers_failed_shape (reason : String) :
    failedShape.Gathers [("reason", .text reason)] (.failed reason) :=
  (Gathers.field .text reason).map Verdict.failed

/-- A verdict is read back by its tag. What stands next to the tag counts only for a failed one. -/
theorem reads_back : ReadsBack Extended encode decode := by
  apply ReadsBack.of_extended
  intro verdict document extended
  cases verdict with
  | passed =>
    have distinct : ["result"].Nodup := by decide
    obtain ⟨others, rfl, carries⟩ := extended.exists_table distinct
    obtain ⟨tag, tagged, same⟩ := carries ("result", .text "passed") List.mem_cons_self
    obtain rfl := same.eq_of_scalar (.text _)
    simp only [decode, tagged.lookup_eq]
    rfl
  | failed reason =>
    have distinct : ["result", "reason"].Nodup := by decide
    obtain ⟨others, rfl, carries⟩ := extended.exists_table distinct
    obtain ⟨⟨tag, tagged, same⟩, rest⟩ := List.forall_mem_cons.mp carries
    obtain rfl := same.eq_of_scalar (.text _)
    have untagged : Carries (others.filter fun entry => entry.1 ≠ "result")
        [("reason", .text reason)] := by
      intro entry listed
      obtain ⟨document, once, extended⟩ := rest entry listed
      obtain rfl := List.mem_singleton.mp listed
      exact ⟨document, once.filter (by simp), extended⟩
    have read := (gathers_failed_shape reason _ untagged).of_entries
    simp only [decode, tagged.lookup_eq]
    exact read

end Verdict

/-- A report is read back with its verdict and its findings, each by its own law. -/
theorem Report.reads_back : ReadsBack Extended encode (decode .json) := by
  refine .record (fun _ => rfl) (fun _ => rfl) (by decide) fun report => ?_
  exact (Gathers.field Scenario.reads_back report.scenario).map Report.mk
    |>.seq (.field .text report.instanceId)
    |>.seq (.field Verdict.reads_back report.verdict)
    |>.seq (.field Findings.reads_back report.findings)
    |>.seq (.field .word64 report.durationMs)

/-- Settings are read back from JSON. All fields are written, so no usual value is ever filled in.
-/
theorem Settings.reads_back : ReadsBack Extended encode (decode .json) := by
  refine .record (fun _ => rfl) (fun _ => rfl) (by decide) fun settings => ?_
  exact (Gathers.field .text settings.project).map Settings.mk
    |>.seq (.field .text settings.key)
    |>.seq (.field .text settings.primaryZone)
    |>.seq (.field .text settings.siblingZone)
    |>.seq (.field .text settings.foreignZone)
    |>.seq (.field .boolean settings.waitForKeyStatus)
    |>.seq (.field .text settings.idStem)
    |>.seq (.field (.list .word64) settings.backoff)
    |>.seq (.field .word32 settings.serveNodes)
    |>.seq (.field StorageType.reads_back settings.storage)
    |>.seq (.field .word64 settings.backupLifetime)

/-- Every type that is written as JSON is read back from it: whatever the value, with numbers up to
the largest, options there or not, and lists and maps of any length. Further fields in any table
change nothing of what is read, as long as the names of the table are not those of a map. -/
theorem records_read_back :
    ReadsBack Extended Status.encode (Status.decode .json) ∧
    ReadsBack Extended Encryption.encode (Encryption.decode .json) ∧
    ReadsBack ExtendedInValues EncryptionReport.encode (EncryptionReport.decode .json) ∧
    ReadsBack Extended ClusterSpec.encode (ClusterSpec.decode .json) ∧
    ReadsBack Extended Cluster.encode (Cluster.decode .json) ∧
    ReadsBack Extended Instance.encode Instance.decode ∧
    ReadsBack Extended Table.encode Table.decode ∧
    ReadsBack Extended Backup.encode (Backup.decode .json) ∧
    ReadsBack Extended ScenarioIds.encode ScenarioIds.decode ∧
    ReadsBack Extended Findings.encode (Findings.decode .json) ∧
    ReadsBack Extended Verdict.encode Verdict.decode ∧
    ReadsBack Extended Report.encode (Report.decode .json) ∧
    ReadsBack Extended Settings.encode (Settings.decode .json) :=
  ⟨Status.reads_back, Encryption.reads_back, EncryptionReport.reads_back, ClusterSpec.reads_back,
    Cluster.reads_back, Instance.reads_back, Table.reads_back, Backup.reads_back,
    ScenarioIds.reads_back, Findings.reads_back, Verdict.reads_back, Report.reads_back,
    Settings.reads_back⟩

/-- A report that says more than is asked, at the top and in its verdict, is read as the report that
it extends. -/
theorem talkative_report_read :
    let report : Report := ⟨.table, "i", .failed "late", .nothing, 18446744073709551615⟩
    let verdict : List (String × Document) :=
      [("result", .text "failed"), ("retries", .integer 3), ("reason", .text "late")]
    let document : Document := .table
      [("host", .table [("name", .null)]), ("scenario", .text "table"), ("instance_id", .text "i"),
        ("verdict", .table verdict), ("findings", Findings.nothing.encode),
        ("duration_ms", .integer 18446744073709551615)]
    report.encode.Extended document ∧ Report.decode .json document = .ok report := by
  intro report verdict document
  have further : report.verdict.encode.Extended (.table verdict) :=
    .of_carries (Carries.insert (by decide) (by decide) (.integer 3) : Carries
      ([("result", .text "failed")] ++ ("retries", .integer 3) :: [("reason", .text "late")]) _)
  have extended : report.encode.Extended document := by
    apply Document.Extended.of_carries
    simp only [Carries, List.forall_mem_cons]
    exact ⟨⟨_, rfl, .same _⟩, ⟨_, rfl, .same _⟩, ⟨_, rfl, further⟩, ⟨_, rfl, .same _⟩,
      ⟨_, rfl, .same _⟩, List.forall_mem_nil _⟩
  obtain ⟨-, -, -, -, -, -, -, -, -, -, -, reads, -⟩ := records_read_back
  exact ⟨extended, reads.grown report document extended⟩

end CustomerKeys
