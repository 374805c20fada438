import CustomerKeys.Admin.Request

/-!
# State of the sandbox control plane

The plane keeps the holdings of every instance under the instance's id. A table carries two
counters: how many metadata reads it has answered, and how many it will still refuse. The read
counter has 32 bits and starts again at zero after the last value.

Handles give access to one plane. They share its state, but each has its own project and its own
way of reporting: `transientFailures` is fixed in a table when the handle creates it, while
`convergenceReads` is taken from the handle that reads.
-/

namespace CustomerKeys

/-- A table with its counters: how many reads of its metadata it has answered, and how many it will
still refuse. Creating a table sets both, and only reads of that table change them. -/
structure TableState where
  table : Table
  reads : UInt32
  failuresLeft : UInt32
  deriving DecidableEq, Repr

/-- The backups of an instance by cluster and backup id. Two clusters may hold backups under one id,
and looking one up takes both parts. -/
abbrev Backups : Type := Std.ExtTreeMap (String × String) Backup lexOrd.compare

/-- What one instance holds: its clusters, its tables with their counters, and its backups. Deleting
the instance drops all of it at once. -/
structure Holdings where
  clusters : ByName Cluster
  tables : ByName TableState
  backups : Backups

/-- The state of a plane: the holdings of every instance. There is nothing else to it, no clock and
no counter that instances would share. -/
abbrev Plane : Type := ByName Holdings

/-- A plane without instances, from which every history starts that is said to be reachable, and
every run of the command line tool. -/
def Plane.empty : Plane := ∅

/-- Access to a plane on behalf of a project. The project only serves the text of a refusal; the two
counts say how the plane reports to this handle. -/
structure Handle where
  project : String
  convergenceReads : UInt32
  transientFailures : UInt32
  deriving DecidableEq, Repr

/-- A handle whose keys converge at once and whose reads never fail, which is what the sandbox
offers unless something else is asked. -/
def Handle.plain (project : String) : Handle := ⟨project, 0, 0⟩

namespace Plane

/-- The instance exists. Operators look at a plane in this way from outside; no operation of the
plane makes use of it. -/
def hasInstance (plane : Plane) (instanceId : String) : Bool := plane.contains instanceId

/-- The backup exists, under its cluster and in its instance. It does not when the instance is gone,
since the backup went with it. -/
def hasBackup (plane : Plane) (instanceId clusterId backupId : String) : Bool :=
  match plane[instanceId]? with
  | some holdings => holdings.backups.contains (clusterId, backupId)
  | none => false

/-- The number of instances, whoever has created them. After a suite it is what it was before. -/
def instanceCount (plane : Plane) : Nat := plane.size

end Plane

end CustomerKeys
