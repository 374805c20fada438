import CustomerKeys.Proofs.JsonDocuments
import CustomerKeys.Proofs.RecordRoundTrips
import CustomerKeys.Scenario.Summary

/-!
# What is printed of reports

Reports are printed in one of two ways. People get a line for each: the verdict in capitals, then
scenario and instance at the left of columns of 16 and 32 characters and the duration at the right
of one of 6; the reason of a failure follows on a line of its own. Programs get one JSON text, and
what is promised of that text is that it can be read and holds the reports, all of them and in
order.

`Report.Printed` says this without the functions that do the printing. A cell is described by what
it looks like: the text itself, blanks on one side of it, and as many characters as the column is
wide unless the text has more.
-/

namespace CustomerKeys

namespace Text

/-- The cell holds the text with blanks behind it and is as wide as the column, or as the text where
the column is too narrow. -/
def LeftCell (width : Nat) (text cell : String) : Prop :=
  ∃ blanks, cell = text ++ blanks ∧ (∀ c ∈ blanks.toList, c = ' ') ∧
    cell.length = max width text.length

/-- The cell holds the text with blanks before it, in the same width. -/
def RightCell (width : Nat) (text cell : String) : Prop :=
  ∃ blanks, cell = blanks ++ text ∧ (∀ c ∈ blanks.toList, c = ' ') ∧
    cell.length = max width text.length

/-- What fills a column are blanks, as many as the text has too few characters; a text that is wide
enough gets none, since the subtraction stops at zero. -/
theorem filling_blank (width : Nat) (text : String) :
    (∀ c ∈ (filling width text).toList, c = ' ') ∧
      (filling width text).length = width - text.length := by
  rw [filling, String.toList_ofList, String.length_ofList, List.length_replicate]
  exact ⟨fun _ => List.eq_of_mem_replicate, rfl⟩

/-- What is put at the left of a column is a cell with the text at its left. -/
theorem left_cell_at_left (width : Nat) (text : String) :
    LeftCell width text (atLeft width text) := by
  obtain ⟨blank, missing⟩ := filling_blank width text
  refine ⟨_, rfl, blank, ?_⟩
  rw [atLeft, String.length_append, missing]
  omega

/-- What is put at the right of a column is a cell with the text at its right. -/
theorem right_cell_at_right (width : Nat) (text : String) :
    RightCell width text (atRight width text) := by
  obtain ⟨blank, missing⟩ := filling_blank width text
  refine ⟨_, rfl, blank, ?_⟩
  rw [atRight, String.length_append, missing]
  omega

end Text

namespace Report

/-- What people see of a report: one line, which says in capitals whether the run passed, and for a
failed run a second one with the reason, set in below the columns. -/
inductive Shows (report : Report) : String → Prop
  | pass {scenario inst time : String} (passed : report.verdict = .passed)
    (named : Text.LeftCell 16 report.scenario.name scenario)
    (owned : Text.LeftCell 32 report.instanceId inst)
    (timed : Text.RightCell 6 (toString report.durationMs.toNat) time) :
    Shows report ("PASS  " ++ scenario ++ " " ++ inst ++ " " ++ time ++ " ms\n")
  | fail {scenario inst time reason : String} (failed : report.verdict = .failed reason)
    (named : Text.LeftCell 16 report.scenario.name scenario)
    (owned : Text.LeftCell 32 report.instanceId inst)
    (timed : Text.RightCell 6 (toString report.durationMs.toNat) time) :
    Shows report
      ("FAIL  " ++ scenario ++ " " ++ inst ++ " " ++ time ++ " ms\n      " ++ reason ++ "\n")

/-- The summary of a report and the end of its line are what people see of it. -/
theorem shows_summary (report : Report) : report.Shows (report.summary ++ "\n") := by
  have named := Text.left_cell_at_left 16 report.scenario.name
  have owned := Text.left_cell_at_left 32 report.instanceId
  have timed := Text.right_cell_at_right 6 (toString report.durationMs.toNat)
  cases verdict : report.verdict with
  | passed =>
    have written := Shows.pass verdict named owned timed
    have lineEnd : " ms\n" = " ms" ++ "\n" := rfl
    simpa only [summary, verdict, columns, lineEnd, String.append_assoc] using written
  | failed reason =>
    have written := Shows.fail verdict named owned timed
    have lineEnd : " ms\n      " = " ms" ++ "\n      " := rfl
    simpa only [summary, verdict, columns, lineEnd, String.append_assoc] using written

end Report

namespace Json

/-- Numbers of 64 bits fit. -/
theorem faithful_word64 (depth : Nat) (number : UInt64) :
    Faithful depth (Encode.word64 number) := by
  have fits : number.toNat < UInt64.size := number.toNat_lt
  refine ⟨?_, Int.ofNat_lt.mpr fits⟩
  have positive := Int.natCast_nonneg number.toNat
  have bound := Int.natCast_nonneg signedBound
  omega

/-- So does every text. -/
theorem faithful_text (depth : Nat) (text : String) : Faithful depth (.text text) := trivial

/-- A value that may be missing can be written when every value can. -/
theorem faithful_option {α : Type} {item : α → Document} {depth : Nat}
    (each : ∀ value, Faithful depth (item value)) (value : Option α) :
    Faithful depth (Encode.option item value) := by
  cases value with
  | none => trivial
  | some value => exact each value

/-- A list can be written when every value can, one level further in. -/
theorem faithful_list {α : Type} {item : α → Document} {depth : Nat}
    (each : ∀ value, Faithful depth (item value)) (values : List α) :
    Faithful (depth + 1) (Encode.list item values) := by
  refine ⟨Nat.succ_pos depth, ?_⟩
  induction values with
  | nil => trivial
  | cons value values inductionHypothesis => exact ⟨each value, inductionHypothesis⟩

/-- Metadata can be written, as a table with the table of its status inside. -/
theorem faithful_encryption (depth : Nat) (encryption : Encryption) :
    Faithful (depth + 2) encryption.encode := by
  have outer : ["encryption_type", "kms_key_version", "status"].Nodup := by decide
  have inner : ["code", "message"].Nodup := by decide
  have status : Faithful (depth + 1) encryption.status.encode :=
    ⟨Nat.succ_pos depth, inner, trivial, trivial, trivial⟩
  exact ⟨Nat.succ_pos _, outer, trivial, trivial, status, trivial⟩

end Json

namespace Report

/-- A report can be written: its names are different, its numbers have 64 bits, and it is no deeper
than its findings with their metadata. -/
theorem faithful_encode (depth : Nat) (report : Report) :
    Json.Faithful (depth + 4) report.encode := by
  have outer : ["scenario", "instance_id", "verdict", "findings", "duration_ms"].Nodup := by decide
  have tagged : ["result"].Nodup := by decide
  have reasoned : ["result", "reason"].Nodup := by decide
  have found : ["encryption_info", "cluster_entries", "poll_attempts", "rejection"].Nodup := by
    decide
  have verdict : Json.Faithful (depth + 3) report.verdict.encode := by
    cases report.verdict with
    | passed => exact ⟨Nat.succ_pos _, tagged, trivial, trivial⟩
    | failed reason => exact ⟨Nat.succ_pos _, reasoned, trivial, trivial, trivial⟩
  have findings : Json.Faithful (depth + 3) report.findings.encode :=
    ⟨Nat.succ_pos _, found, Json.faithful_option (Json.faithful_encryption depth) _,
      Json.faithful_option (Json.faithful_word64 _) _,
      Json.faithful_option (Json.faithful_word64 _) _,
      Json.faithful_option (Json.faithful_text _) _, trivial⟩
  exact ⟨Nat.succ_pos _, outer, trivial, trivial, verdict, findings, Json.faithful_word64 _ _,
    trivial⟩

/-- Reports that are printed as JSON are read back, all of them and in order. -/
theorem exists_parse_pretty (reports : List Report) :
    ∃ document, Json.parse (Json.pretty (Encode.list encode reports)) = some document ∧
      Decode.list (decode .json) document = .ok reports := by
  have faithful : Json.Faithful 127 (Encode.list encode reports) :=
    Json.faithful_list (faithful_encode 122) reports
  refine ⟨_, Json.parse_pretty faithful, ?_⟩
  exact (ReadsBack.list reads_back).grown reports _ (Json.extended_sorted faithful)

/-- The output is what is printed for reports: lines for people, in the order of the reports, or a
JSON text from which the list of the reports is read, and the end of its last line. -/
inductive Printed (reports : List Report) : (json : Bool) → String → Prop
  | lines {lines : List String} (each : List.Forall₂ Shows reports lines) :
    Printed reports false (String.join lines)
  | json {text : String} {document : Document} (parsed : Json.parse text = some document)
    (holds : Decode.list (decode .json) document = .ok reports) :
    Printed reports true (text ++ "\n")

end Report

end CustomerKeys
