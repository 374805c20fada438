import CustomerKeys.Scenario.Basic
import CustomerKeys.Text.Column

/-!
# Reports for people

A report becomes a line of columns: verdict, scenario, instance and duration. The reason of a failed
run follows on a line of its own.
-/

namespace CustomerKeys

namespace Report

/-- Scenario, instance and duration in columns of fixed widths, so that the lines of a suite stand
below one another as long as no text is too wide. -/
def columns (report : Report) : String :=
  Text.atLeft 16 report.scenario.name ++ " " ++ Text.atLeft 32 report.instanceId ++ " " ++
    Text.atRight 6 (toString report.durationMs.toNat) ++ " ms"

/-- A report as it is shown to people: one line, with the reason of a failed run set in on the next.
The end of the last line is left to the printer. -/
def summary (report : Report) : String :=
  match report.verdict with
  | .passed => "PASS  " ++ report.columns
  | .failed reason => "FAIL  " ++ report.columns ++ "\n      " ++ reason

end Report

end CustomerKeys
