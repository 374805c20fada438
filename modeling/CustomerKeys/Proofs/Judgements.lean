import CustomerKeys.Proofs.KeyNames
import CustomerKeys.Scenario.Check

/-!
# What the judgements accept

A scenario judges the last thing that it is told, and each judgement has a condition of its own that
says when it passes. The conditions are stated on the replies alone and do not mention what is
reported when they fail. Each is equivalent to its judgement.

After a wait a table's key must have converged. Without one it may also be transient, and for a
table all the entries of a report count, not only the one that is looked at.
-/

namespace CustomerKeys.Scenario

/-- The reply with which the third cluster must be refused: a failed precondition whose text
contains the expected one. -/
def RefusalExpected (settings : Settings) (reply : Except AdminError Cluster) : Prop :=
  ∃ error, reply = .error error ∧ error.isFailedPrecondition = true ∧
    occursIn (expectedRejection settings.project settings.key settings.foreignZone)
      error.message = true

/-- The metadata with which a table is accepted: managed by the customer and converged under the
configured key or, without a wait, still transient. -/
def EncryptionExpected (settings : Settings) (encryption : Encryption) : Prop :=
  encryption.isCustomerManaged = true ∧ (encryption.keyStatus settings.key = .converged ∨
    settings.waitForKeyStatus = false ∧ encryption.keyStatus settings.key = .transient)

/-- The report with which a table is accepted: two entries, one item in every entry, and for the
first cluster the metadata that is expected. -/
def ReportExpected (settings : Settings) (ids : ScenarioIds) (report : EncryptionReport) : Prop :=
  report.size = 2 ∧
    (∀ (clusterId : String) (entries : List Encryption), report[clusterId]? = some entries →
      entries.length = 1) ∧
    ∃ encryption, report[ids.clusterId]? = some [encryption] ∧
      EncryptionExpected settings encryption

variable {settings : Settings} {ids : ScenarioIds}

/-- The reply to the third cluster is let pass exactly when it is the refusal that is expected. An
answer fails, and so does a refusal of another kind or with another text. -/
theorem judge_rejection_passes_iff {reply : Except AdminError Cluster} :
    (judgeRejection settings reply).failure = none ↔ RefusalExpected settings reply := by
  unfold RefusalExpected judgeRejection
  cases reply with
  | ok cluster => simp [Outcome.fail]
  | error error =>
    cases precondition : error.isFailedPrecondition with
    | false => simp [Outcome.fail, precondition]
    | true =>
      cases occurs : occursIn (expectedRejection settings.project settings.key settings.foreignZone)
          error.message with
      | false => simp [Outcome.fail, precondition, occurs]
      | true => simp [Outcome.success, precondition, occurs]

/-- The metadata of a table is let pass exactly when it is the metadata that is expected. The cases
follow the status of the key, since the check for convergence only matters for some of them. -/
theorem judge_table_encryption_passes_iff {encryption : Encryption} :
    judgeTableEncryption settings encryption = none ↔ EncryptionExpected settings encryption := by
  unfold EncryptionExpected judgeTableEncryption
  cases managed : encryption.isCustomerManaged with
  | false => simp
  | true =>
    cases status : encryption.keyStatus settings.key with
    | unhandled code => simp
    | malformed fault =>
      simp only [Bool.not_true, Bool.false_eq_true, if_false]
      split <;> simp
    | converged =>
      have good := (Encryption.key_status_eq_converged_iff.mp status).1
      simp [Status.isOk, good]
    | transient =>
      have unknown := (Encryption.key_status_eq_transient_iff.mp status).1
      simp [Status.isOk, unknown]

/-- What is found in a report with anything but one item is an entry of it, so a report with such an
entry is not the one that is expected. -/
theorem listed_of_find? {report : EncryptionReport} {clusterId : String}
    {entries : List Encryption} (odd : report.toList.find?
      (fun entry => entry.2.length ≠ 1) = some (clusterId, entries)) :
    report[clusterId]? = some entries ∧ entries.length ≠ 1 := by
  constructor
  · exact Std.ExtTreeMap.mem_toList_iff_getElem?_eq_some.mp (List.mem_of_find?_eq_some odd)
  · simpa using List.find?_some odd

/-- A report is let pass exactly when it is the report that is expected. Its checks are made one
after the other, so each case excludes one part of the expectation or leaves it to the next. -/
theorem judge_report_passes_iff {found : Findings} {report : EncryptionReport} :
    (judgeReport settings ids found report).failure = none ↔
      ReportExpected settings ids report := by
  by_cases two : report.size = 2
  · simp only [judgeReport, two, ne_eq, not_true_eq_false, if_false]
    split
    · rename_i clusterId entries odd
      obtain ⟨listed, several⟩ := listed_of_find? odd
      constructor
      · intro passed
        cases passed
      · intro expected
        exact absurd (expected.2.1 clusterId entries listed) several
    · rename_i odd
      have single : ∀ (clusterId : String) (entries : List Encryption),
          report[clusterId]? = some entries → entries.length = 1 := by
        intro clusterId entries listed
        have member := Std.ExtTreeMap.mem_toList_iff_getElem?_eq_some.mpr listed
        simpa using List.find?_eq_none.mp odd _ member
      cases listed : report[ids.clusterId]? with
      | none =>
        constructor
        · intro passed
          cases passed
        · rintro ⟨-, -, encryption, entry, -⟩
          cases listed.symm.trans entry
      | some entries =>
        obtain ⟨encryption, rfl⟩ := List.length_eq_one_iff.mp (single _ _ listed)
        refine judge_table_encryption_passes_iff.trans ?_
        constructor
        · intro good
          exact ⟨two, single, encryption, listed, good⟩
        · rintro ⟨-, -, other, entry, good⟩
          obtain rfl : encryption = other := by simpa [listed] using entry
          exact good
  · simp only [judgeReport, two, ne_eq, not_false_eq_true, if_true]
    constructor
    · intro passed
      cases passed
    · intro expected
      exact absurd expected.1 two

/-- A backup is let pass exactly when its metadata is pinned to a version of the configured key. -/
theorem judge_backup_passes_iff {backup : Backup} :
    (judgeBackup settings backup).failure = none ↔
      backup.encryption.isPinnedUntracked settings.key = true := by
  unfold judgeBackup
  split
  · rename_i pinned
    simp [Outcome.success, pinned]
  · rename_i loose
    simp [Outcome.fail, loose]

end CustomerKeys.Scenario
