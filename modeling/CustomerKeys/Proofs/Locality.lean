import CustomerKeys.Plane.Serve

/-!
# An operation stays with the instance it names

The operations of the plane are given the whole plane and give a whole plane back, so nothing in
their types keeps one from looking at an instance that it does not name, or from changing it. That
none does is shown here, operation by operation: each comes to what `Handle.serve` says from the
holdings of the named instance alone, with only these holdings replaced in the plane.

Everything about single instances rests on this, and it is the one place where the operations are
opened: what is proved of `Handle.serve` holds of the plane.
-/

namespace CustomerKeys

namespace Plane

/-- The plane with other holdings, or none, under one id. -/
def put (plane : Plane) (instanceId : String) (held : Option Holdings) : Plane :=
  plane.alter instanceId fun _ => held

/-- What was put for an instance is found there. -/
@[simp] theorem lookup_put_self (plane : Plane) (instanceId : String) (held : Option Holdings) :
    (plane.put instanceId held)[instanceId]? = held := by
  simp [put]

/-- Every other instance is found as it was. -/
theorem lookup_put_of_ne (plane : Plane) {instanceId other : String} (held : Option Holdings)
    (different : other ≠ instanceId) : (plane.put instanceId held)[other]? = plane[other]? := by
  simp [put, Std.ExtTreeMap.getElem?_alter, Ne.symm different]

/-- Only what was put last under an id counts. -/
@[simp] theorem put_put (plane : Plane) (instanceId : String) (first second : Option Holdings) :
    (plane.put instanceId first).put instanceId second = plane.put instanceId second := by
  apply Std.ExtTreeMap.ext_getElem?
  intro other
  by_cases same : other = instanceId
  · subst same
    simp
  · simp [lookup_put_of_ne _ _ same]

/-- Putting back what is there changes nothing. -/
@[simp] theorem put_lookup (plane : Plane) (instanceId : String) :
    plane.put instanceId plane[instanceId]? = plane := by
  apply Std.ExtTreeMap.ext_getElem?
  intro other
  by_cases same : other = instanceId
  · subst same
    simp
  · simp [lookup_put_of_ne _ _ same]

/-- To put back what is there changes nothing, also when it has been looked up before. -/
theorem put_of_held {plane : Plane} {instanceId : String} {held : Option Holdings}
    (kept : plane[instanceId]? = held) : plane.put instanceId held = plane := by
  rw [← kept, put_lookup]

/-- To put holdings is to insert them, whatever was held before. -/
theorem insert_eq_put (plane : Plane) (instanceId : String) (holdings : Holdings) :
    plane.insert instanceId holdings = plane.put instanceId (some holdings) := by
  apply Std.ExtTreeMap.ext_getElem?
  intro other
  rw [put, Std.ExtTreeMap.getElem?_insert, Std.ExtTreeMap.getElem?_alter]

/-- To put nothing is to erase what was held. -/
theorem erase_eq_put (plane : Plane) (instanceId : String) :
    plane.erase instanceId = plane.put instanceId none := by
  apply Std.ExtTreeMap.ext_getElem?
  intro other
  rw [put, Std.ExtTreeMap.getElem?_erase, Std.ExtTreeMap.getElem?_alter]

/-- An operation on the plane is local to an instance, where it comes to some part: its result and
what the instance holds afterwards are read off what the instance holds before, by that part, and
the rest of the plane is returned as it was. -/
def LocalTo {α : Type} (instanceId : String) (part : Option Holdings → α × Option Holdings)
    (operation : Plane → α × Plane) : Prop :=
  ∀ plane, operation plane =
    ((part plane[instanceId]?).1, plane.put instanceId (part plane[instanceId]?).2)

end Plane

namespace Handle

/-- What a request comes to for the instance it addresses: the answer or the refusal, read off what
the instance holds before the call, and what it holds after it. An instance that does not exist
holds nothing. -/
def serve (handle : Handle) (now : UInt64) : (request : Request) → Option Holdings →
    Except Refusal request.Answer × Option Holdings
  | .createInstance instanceId specs, held =>
    if specs.isEmpty then (.error .noClusters, held)
    else match specs.findSome? handle.placementRefusal, held with
      | some refusal, _ => (.error refusal, held)
      | none, some _ => (.error (.instanceExists instanceId), held)
      | none, none =>
        (.ok ⟨instanceId, specs.map ClusterSpec.id, now⟩, some (.ofSpecs instanceId specs))
  | .getCluster instanceId clusterId, held =>
    match held with
    | none => (.error (.instanceMissing instanceId), held)
    | some holdings =>
      match holdings.clusters[clusterId]? with
      | some cluster => (.ok cluster, held)
      | none => (.error (.clusterMissing instanceId clusterId), held)
  | .createCluster instanceId spec, held =>
    match handle.placementRefusal spec, held with
    | some refusal, _ => (.error refusal, held)
    | none, none => (.error (.instanceMissing instanceId), held)
    | none, some holdings =>
      if holdings.clusters.contains spec.id then
        (.error (.clusterExists instanceId spec.id), held)
      else
        let cluster := Cluster.ofSpec instanceId spec
        (.ok cluster, some { holdings with clusters := holdings.clusters.insert spec.id cluster })
  | .deleteInstance instanceId, held =>
    match held with
    | none => (.error (.instanceMissing instanceId), held)
    | some _ => (.ok (), none)
  | .createTable instanceId tableId families, held =>
    match held with
    | none => (.error (.instanceMissing instanceId), held)
    | some holdings =>
      if holdings.tables.contains tableId then (.error (.tableExists instanceId tableId), held)
      else
        let table : Table := ⟨tableId, instanceId, families, now⟩
        let tables := holdings.tables.insert tableId ⟨table, 0, handle.transientFailures⟩
        (.ok table, some { holdings with tables := tables })
  | .getEncryption instanceId tableId, held =>
    match held with
    | none => (.error (.instanceMissing instanceId), held)
    | some holdings =>
      match holdings.tables[tableId]? with
      | none => (.error (.tableMissing instanceId tableId), held)
      | some state =>
        if 0 < state.failuresLeft then
          let failed := { state with failuresLeft := state.failuresLeft - 1 }
          (.error (.readFailure state.table.id),
            some { holdings with tables := holdings.tables.insert tableId failed })
        else
          let answered := { state with reads := state.reads + 1 }
          (.ok (holdings.report (handle.convergenceReads < answered.reads)),
            some { holdings with tables := holdings.tables.insert tableId answered })
  | .createBackup instanceId spec, held =>
    if spec.expireTime ≤ now then (.error .alreadyExpired, held)
    else match held with
      | none => (.error (.instanceMissing instanceId), held)
      | some holdings =>
        match holdings.clusters[spec.clusterId]? with
        | none => (.error (.clusterMissing instanceId spec.clusterId), held)
        | some cluster =>
          if !holdings.tables.contains spec.tableId then
            (.error (.tableMissing instanceId spec.tableId), held)
          else if holdings.backups.contains (spec.clusterId, spec.backupId) then
            (.error (.backupExists spec.clusterId spec.backupId), held)
          else
            let backup : Backup :=
              ⟨spec.backupId, spec.clusterId, spec.tableId, spec.expireTime,
                cluster.backupEncryption⟩
            let backups := holdings.backups.insert (spec.clusterId, spec.backupId) backup
            (.ok backup, some { holdings with backups := backups })
  | .getBackup instanceId clusterId backupId, held =>
    match held with
    | none => (.error (.instanceMissing instanceId), held)
    | some holdings =>
      match holdings.backups[(clusterId, backupId)]? with
      | some backup => (.ok backup, held)
      | none => (.error (.backupMissing clusterId backupId), held)
  | .deleteBackup instanceId clusterId backupId, held =>
    match held with
    | none => (.error (.instanceMissing instanceId), held)
    | some holdings =>
      if holdings.backups.contains (clusterId, backupId) then
        let backups := holdings.backups.erase (clusterId, backupId)
        (.ok (), some { holdings with backups := backups })
      else (.error (.backupMissing clusterId backupId), held)

open Plane

variable (handle : Handle) (now : UInt64) (instanceId : String)

/-- Creating an instance asks of the plane only whether its id is taken, and stores nothing but the
holdings of the new instance. -/
theorem local_create_instance (specs : List ClusterSpec) :
    LocalTo instanceId (handle.serve now (.createInstance instanceId specs))
      (handle.createInstance now · instanceId specs) := by
  intro plane
  simp only [createInstance, serve, Std.ExtTreeMap.contains_eq_isSome_getElem?]
  split
  · rw [put_lookup]
  · cases specs.findSome? handle.placementRefusal with
    | some refusal => rw [put_lookup]
    | none =>
      cases held : plane[instanceId]? with
      | some holdings => simp [put_of_held held]
      | none => simp [insert_eq_put]

/-- Looking a cluster up reads one instance and leaves the plane alone. -/
theorem local_get_cluster (clusterId : String) :
    LocalTo instanceId (handle.serve now (.getCluster instanceId clusterId))
      (·.getCluster instanceId clusterId) := by
  intro plane
  simp only [getCluster, serve]
  cases held : plane[instanceId]? with
  | none => simp [put_of_held held]
  | some holdings =>
    simp only
    cases holdings.clusters[clusterId]? <;> simp only [put_of_held held]

/-- Adding a cluster changes the clusters of the instance that is named, if anything. -/
theorem local_create_cluster (spec : ClusterSpec) :
    LocalTo instanceId (handle.serve now (.createCluster instanceId spec))
      (handle.createCluster · instanceId spec) := by
  intro plane
  simp only [createCluster, serve]
  cases handle.placementRefusal spec with
  | some refusal => rw [put_lookup]
  | none =>
    cases held : plane[instanceId]? with
    | none => simp [put_of_held held]
    | some holdings =>
      simp only
      split
      · rw [put_of_held held]
      · rw [insert_eq_put]

/-- Deleting an instance removes what is filed under its id and nothing else. -/
theorem local_delete_instance :
    LocalTo instanceId (handle.serve now (.deleteInstance instanceId))
      (·.deleteInstance instanceId) := by
  intro plane
  simp only [deleteInstance, serve]
  cases held : plane[instanceId]? with
  | none => simp [put_of_held held]
  | some holdings => simp [erase_eq_put]

/-- Creating a table changes the tables of the instance that is named, if anything. -/
theorem local_create_table (tableId : String) (families : List String) :
    LocalTo instanceId (handle.serve now (.createTable instanceId tableId families))
      (handle.createTable now · instanceId tableId families) := by
  intro plane
  simp only [createTable, serve]
  cases held : plane[instanceId]? with
  | none => simp [put_of_held held]
  | some holdings =>
    simp only
    split
    · rw [put_of_held held]
    · rw [insert_eq_put]

/-- Reading a table moves the counters of that table, whether the read is answered or refused, and
reports on the clusters of its own instance. -/
theorem local_get_encryption (tableId : String) :
    LocalTo instanceId (handle.serve now (.getEncryption instanceId tableId))
      (handle.getEncryption · instanceId tableId) := by
  intro plane
  simp only [getEncryption, serve]
  cases held : plane[instanceId]? with
  | none => simp [put_of_held held]
  | some holdings =>
    simp only
    cases holdings.tables[tableId]? with
    | none => simp only [put_of_held held]
    | some state =>
      simp only
      split <;> rw [insert_eq_put]

/-- Taking a backup reads the clusters and tables of the instance that is named, and changes its
backups, if anything. -/
theorem local_create_backup (spec : BackupSpec) :
    LocalTo instanceId (handle.serve now (.createBackup instanceId spec))
      (·.createBackup now instanceId spec) := by
  intro plane
  simp only [createBackup, serve]
  split
  · rw [put_lookup]
  · cases held : plane[instanceId]? with
    | none => simp [put_of_held held]
    | some holdings =>
      simp only
      cases holdings.clusters[spec.clusterId]? with
      | none => simp only [put_of_held held]
      | some cluster =>
        simp only
        split
        · rw [put_of_held held]
        · split
          · rw [put_of_held held]
          · rw [insert_eq_put]

/-- Looking a backup up reads one instance and leaves the plane alone. -/
theorem local_get_backup (clusterId backupId : String) :
    LocalTo instanceId (handle.serve now (.getBackup instanceId clusterId backupId))
      (·.getBackup instanceId clusterId backupId) := by
  intro plane
  simp only [getBackup, serve]
  cases held : plane[instanceId]? with
  | none => simp [put_of_held held]
  | some holdings =>
    simp only
    cases holdings.backups[(clusterId, backupId)]? <;> simp only [put_of_held held]

/-- Deleting a backup changes the backups of the instance that is named, if anything. -/
theorem local_delete_backup (clusterId backupId : String) :
    LocalTo instanceId (handle.serve now (.deleteBackup instanceId clusterId backupId))
      (·.deleteBackup instanceId clusterId backupId) := by
  intro plane
  simp only [deleteBackup, serve]
  cases held : plane[instanceId]? with
  | none => simp [put_of_held held]
  | some holdings =>
    simp only
    split
    · rw [insert_eq_put]
    · rw [put_of_held held]

/-- Every request is local to the instance that it addresses. -/
theorem local_perform (request : Request) :
    LocalTo request.instanceId (handle.serve now request) (handle.perform now · request) := by
  cases request with
  | createInstance instanceId specs => exact handle.local_create_instance now instanceId specs
  | getCluster instanceId clusterId => exact handle.local_get_cluster now instanceId clusterId
  | createCluster instanceId spec => exact handle.local_create_cluster now instanceId spec
  | deleteInstance instanceId => exact handle.local_delete_instance now instanceId
  | createTable instanceId tableId families =>
    exact handle.local_create_table now instanceId tableId families
  | getEncryption instanceId tableId => exact handle.local_get_encryption now instanceId tableId
  | createBackup instanceId spec => exact handle.local_create_backup now instanceId spec
  | getBackup instanceId clusterId backupId =>
    exact handle.local_get_backup now instanceId clusterId backupId
  | deleteBackup instanceId clusterId backupId =>
    exact handle.local_delete_backup now instanceId clusterId backupId

/-- What a request comes to on a plane, in terms of the one instance that it addresses. -/
theorem perform_eq_serve (request : Request) (plane : Plane) :
    handle.perform now plane request =
      ((handle.serve now request plane[request.instanceId]?).1,
        plane.put request.instanceId (handle.serve now request plane[request.instanceId]?).2) :=
  handle.local_perform now request plane

end Handle

end CustomerKeys
