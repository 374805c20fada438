import CustomerKeys.Encryption

/-!
# Scenarios and their resources

There are three scenarios. Each run of one owns an instance whose id is made of a stem, the time of
the run and a tag of the scenario; the clusters of that instance are numbered. Tables and backups
have fixed ids, since they live inside the instance.
-/

namespace CustomerKeys

/-- What is verified: that clusters report their key and refuse a foreign one, that a table takes
the key over, or that a backup stays pinned to a key version. -/
inductive Scenario where
  | instanceCluster
  | table
  | backup
  deriving DecidableEq, Repr

namespace Scenario

/-- The name by which a scenario is selected and reported. It stands in the arguments of the tool,
in documents and in the lines that people read. -/
def name : Scenario → String
  | .instanceCluster => "instance-cluster"
  | .table => "table"
  | .backup => "backup"

/-- The tag that keeps the instance ids of different scenarios apart. All scenarios of a suite may
start at the same second, so the time alone does not. -/
def tag : Scenario → String
  | .instanceCluster => "ic"
  | .table => "tb"
  | .backup => "bk"

/-- Every scenario, in the order in which a whole suite runs and in which messages enumerate them.
-/
def all : List Scenario := [.instanceCluster, .table, .backup]

/-- The scenario with a name, if it is the name of one. Names are compared as they are, with regard
to case and blanks. -/
def ofName? (name : String) : Option Scenario := all.find? fun scenario => scenario.name = name

/-- The scenarios that a selection stands for: all of them, or the one it names. Nothing else can be
selected. -/
def select? (selection : String) : Option (List Scenario) :=
  if selection = "all" then some all else (ofName? selection).map fun scenario => [scenario]

/-- What is said about a name that no scenario has, when it is given as the selection of a run. -/
def unknownMessage (name : String) : String := "unknown scenario: " ++ name

end Scenario

/-- The table that the scenarios create. Its id may be fixed because the instance around it belongs
to a single run. -/
def scenarioTable : String := "test-table-for-cmek-it"

/-- The backup that the backup scenario creates, under an id that is fixed for the same reason. -/
def scenarioBackup : String := "test-table-for-cmek-it-backup"

/-- The column family of the table. A table must be given one; nothing is ever stored in it. -/
def scenarioFamily : String := "cf"

/-- The ids of the resources that one run owns: its instance, the two clusters that are meant to be
created, the one that is meant to be refused, its table and its backup. -/
structure ScenarioIds where
  instanceId : String
  clusterId : String
  secondClusterId : String
  rejectedClusterId : String
  tableId : String
  backupId : String
  deriving DecidableEq, Repr

/-- The ids of a run of a scenario at a time. The instance is named after the stem, the time and the
scenario, and the clusters after the instance, so that runs at different times or of different
scenarios share none. -/
def ScenarioIds.ofRun (stem : String) (scenario : Scenario) (epoch : UInt64) : ScenarioIds :=
  let instanceId := stem ++ toString epoch.toNat ++ "-" ++ scenario.tag
  ⟨instanceId, instanceId ++ "-c1", instanceId ++ "-c2", instanceId ++ "-c3", scenarioTable,
    scenarioBackup⟩

/-- What a run saw on its way to a verdict: the metadata it judged, the number of entries in a
report, the fetches of a wait and the text of the expected refusal. A failed run keeps what it had
seen until then. -/
structure Findings where
  encryption : Option Encryption
  clusterEntries : Option UInt64
  pollAttempts : Option UInt64
  rejection : Option String
  deriving DecidableEq, Repr

/-- Nothing seen yet. Every scenario starts with it, and a run that is refused early reports it as
it is. -/
def Findings.nothing : Findings := ⟨none, none, none, none⟩

/-- The verdict of a run: it has passed, or it has failed for one reason, which is given as a text.
-/
inductive Verdict where
  | passed
  | failed (reason : String)
  deriving DecidableEq, Repr

/-- The report of a run: which scenario it was, on which instance, what came of it and what was
seen. The duration is filled in by whoever times the run. -/
structure Report where
  scenario : Scenario
  instanceId : String
  verdict : Verdict
  findings : Findings
  durationMs : UInt64
  deriving DecidableEq, Repr

/-- The run passed. The command line tool counts the reports for which this is not so. -/
def Report.passed (report : Report) : Bool := report.verdict = .passed

end CustomerKeys
