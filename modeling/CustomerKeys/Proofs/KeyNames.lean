import CustomerKeys.Plane.Serve

/-!
# What reading a key's name determines

A text that is read as a key's name is that key's full name, and the full name of a key is read as
that key exactly when its parts are well formed, so a cluster's key can be read and written again
without a loss. The names of the key's versions begin with it. Metadata made of such a version
therefore belongs to the key it was made for: pending metadata is transient, converged metadata is
good, and a backup's metadata is pinned.

Whether metadata of one key can be taken for another's is not settled here.
-/

namespace CustomerKeys

/-- The pieces of a text that is split hold no separators. -/
theorem not_mem_of_mem_split_on {α : Type} [BEq α] [LawfulBEq α] {separator : α}
    {text piece : List α} (member : piece ∈ text.splitOn separator) : separator ∉ piece := by
  induction text generalizing piece with
  | nil =>
    obtain rfl := List.mem_singleton.mp member
    exact List.not_mem_nil
  | cons first rest inductionHypothesis =>
    rw [List.splitOn_cons_eq_if_modifyHead] at member
    split at member
    · rcases List.mem_cons.mp member with rfl | member
      · exact List.not_mem_nil
      · exact inductionHypothesis member
    · rename_i different
      match pieces : rest.splitOn separator, member with
      | [], _ => exact absurd pieces (List.splitOn_ne_nil _ _)
      | head :: tail, member =>
        rw [pieces] at inductionHypothesis
        rw [List.modifyHead_cons] at member
        rcases List.mem_cons.mp member with rfl | member
        · have other : separator ≠ first := by
            rintro rfl
            exact different (beq_self_eq_true _)
          exact List.not_mem_cons_of_ne_of_not_mem other (inductionHypothesis List.mem_cons_self)
        · exact inductionHypothesis (List.mem_cons_of_mem _ member)

namespace KeyName

/-- The pieces of a key's name before the last one. -/
def leading (name : KeyName) : List (List Char) :=
  ["projects".toList, name.project.toList, "locations".toList, name.location.toList,
    "keyRings".toList, name.ring.toList, "cryptoKeys".toList]

/-- The characters of a key's name are its eight pieces with slashes between them. -/
theorem to_list_render (name : KeyName) :
    name.render.toList = ['/'].intercalate (name.leading ++ [name.key.toList]) := by
  unfold render
  simp [leading, String.toList_append, List.intercalate]

/-- A text that is read as a key's name is the full name of that key: the pieces it was split into
are put together again. -/
theorem render_of_parse {text : String} {name : KeyName} (read : parse text = .ok name) :
    name.render = text := by
  unfold parse at read
  split at read
  · rename_i pieces
    split at read
    · rename_i wellFormed
      obtain ⟨rfl, rfl, rfl, rfl, -⟩ := wellFormed
      obtain rfl := Except.ok.inj read
      have joined : ['/'].intercalate (text.toList.splitOn '/') = text.toList :=
        List.intercalate_splitOn '/'
      apply String.toList_injective
      rw [to_list_render, ← joined, pieces]
      simp only [leading, String.toList_ofList, List.cons_append, List.nil_append]
    · cases read
  · cases read

/-- The parts of a name: each of them holds characters, and none of these is a slash. -/
def WellFormed (name : KeyName) : Prop :=
  ∀ part ∈ [name.project, name.location, name.ring, name.key], part.toList ≠ [] ∧ '/' ∉ part.toList

/-- Whether the parts of a name are well formed can be computed, so it is decided for a name that is
given. -/
instance (name : KeyName) : Decidable name.WellFormed :=
  inferInstanceAs (Decidable (∀ part ∈ [name.project, name.location, name.ring, name.key],
    part.toList ≠ [] ∧ '/' ∉ part.toList))

/-- No slash is in a piece of a key with such parts. -/
theorem WellFormed.unslashed {name : KeyName} (wellFormed : name.WellFormed) :
    ∀ piece ∈ name.leading ++ [name.key.toList], '/' ∉ piece := by
  simp only [WellFormed, List.forall_mem_cons] at wellFormed
  obtain ⟨project, location, ring, key, -⟩ := wellFormed
  simp only [leading, List.cons_append, List.nil_append, List.forall_mem_cons]
  exact ⟨by decide, project.2, by decide, location.2, by decide, ring.2, by decide, key.2,
    List.forall_mem_nil _⟩

/-- The full name of a key with such parts is read as that key: it is split where it was joined. -/
theorem parse_render {name : KeyName} (wellFormed : name.WellFormed) :
    parse name.render = .ok name := by
  have pieces : name.render.toList.splitOn '/' = name.leading ++ [name.key.toList] := by
    rw [to_list_render]
    exact List.splitOn_intercalate '/' wellFormed.unslashed (List.cons_ne_nil _ _)
  simp only [WellFormed, List.forall_mem_cons] at wellFormed
  obtain ⟨project, location, ring, key, -⟩ := wellFormed
  rw [parse, pieces]
  simp only [leading, List.cons_append, List.nil_append, ne_eq, project.1, location.1, ring.1,
    key.1, not_false_eq_true, and_self, if_true, String.ofList_toList]

/-- A key that can be read has well-formed parts. -/
theorem well_formed_of_parse {text : String} {name : KeyName} (readsKey : parse text = .ok name) :
    name.WellFormed := by
  unfold parse at readsKey
  split at readsKey
  · rename_i pieces
    split at readsKey
    · rename_i fixed
      obtain ⟨-, -, -, -, project, location, ring, key⟩ := fixed
      obtain rfl := Except.ok.inj readsKey
      have unslashed : ∀ piece ∈ text.toList.splitOn '/', '/' ∉ piece :=
        fun piece member => not_mem_of_mem_split_on member
      simp only [pieces, List.forall_mem_cons] at unslashed
      obtain ⟨-, projectWhole, -, locationWhole, -, ringWhole, -, keyWhole, -⟩ := unslashed
      simp only [WellFormed, List.forall_mem_cons, String.toList_ofList]
      exact ⟨⟨project, projectWhole⟩, ⟨location, locationWhole⟩, ⟨ring, ringWhole⟩,
        ⟨key, keyWhole⟩, List.forall_mem_nil _⟩
    · cases readsKey
  · cases readsKey

/-- What is read as a key's name is exactly the full name of a key with well-formed parts. -/
theorem parse_eq_ok_iff {text : String} {name : KeyName} :
    parse text = .ok name ↔ name.WellFormed ∧ name.render = text := by
  constructor
  · intro readsKey
    exact ⟨well_formed_of_parse readsKey, render_of_parse readsKey⟩
  · rintro ⟨wellFormed, rfl⟩
    exact parse_render wellFormed

/-- A key covers a zone exactly when the zone lies in the key's location. -/
theorem covers_iff {name : KeyName} {zone : String} :
    name.covers zone = true ↔ Zone.region zone = .ok name.location := by
  unfold covers
  cases Zone.region zone <;> simp

/-- The name of a version begins with the text that the key was read from. -/
theorem is_prefix_of_version {text : String} {name : KeyName} (read : parse text = .ok name)
    (number : UInt32) : text.toList.isPrefixOf (name.version number).toList = true := by
  rw [← render_of_parse read, List.isPrefixOf_iff_prefix, version, String.toList_append,
    String.toList_append, List.append_assoc]
  exact List.prefix_append _ _

/-- A version always has a name. -/
theorem version_ne_empty (name : KeyName) (number : UInt32) : name.version number ≠ "" := by
  intro empty
  have characters := congrArg String.toList empty
  simp [version, String.toList_append] at characters

end KeyName

namespace Encryption

variable {encryption : Encryption} {key : String} {name : KeyName}

/-- Metadata is converged under a key when it is good, of a version of the key, and without text. -/
theorem key_status_eq_converged_iff :
    encryption.keyStatus key = .converged ↔ encryption.status.code = .ok ∧
      encryption.hasVersionOf key = true ∧ encryption.status.message = "" := by
  unfold keyStatus
  split
  · rename_i unknown
    have notOk : encryption.status.code ≠ .ok := by simp [unknown]
    split
    · exact iff_of_false nofun fun good => notOk good.1
    · split
      · exact iff_of_false nofun fun good => notOk good.1
      · exact iff_of_false nofun fun good => notOk good.1
  · rename_i ok
    cases owned : encryption.hasVersionOf key with
    | false => simp
    | true => by_cases silent : encryption.status.message = "" <;> simp [ok, silent]
  · rename_i notOk
    exact iff_of_false nofun fun good => notOk good.1

/-- Metadata is transient, whatever the key, when it is unknown, without a version, and has the
usual text. -/
theorem key_status_eq_transient_iff :
    encryption.keyStatus key = .transient ↔ encryption.status.code = .unknown ∧
      encryption.keyVersion = "" ∧ encryption.status.message = notYetKnown := by
  unfold keyStatus
  split
  · rename_i unknown
    by_cases unversioned : encryption.keyVersion = ""
    · by_cases usual : encryption.status.message = notYetKnown <;>
        simp [unknown, unversioned, usual]
    · simp [unversioned]
  · rename_i ok
    have known : encryption.status.code ≠ .unknown := by simp [ok]
    split
    · exact iff_of_false nofun fun pending => known pending.1
    · split
      · exact iff_of_false nofun fun pending => known pending.1
      · exact iff_of_false nofun fun pending => known pending.1
  · rename_i notUnknown _
    exact iff_of_false nofun fun pending => notUnknown pending.1

/-- Metadata is pinned when the customer manages the key, the status is the one of a backup, and a
version of the key is named. -/
theorem is_pinned_untracked_iff :
    encryption.isPinnedUntracked key = true ↔ encryption.isCustomerManaged = true ∧
      encryption.status = ⟨.unknown, notTracked⟩ ∧ encryption.keyVersion ≠ "" ∧
      encryption.hasVersionOf key = true := by
  obtain ⟨kind, version, code, message⟩ := encryption
  simp [isPinnedUntracked, Status.mk.injEq, and_assoc]

/-- Metadata without a version yet is transient for every key. -/
theorem key_status_pending (key : String) : pending.keyStatus key = .transient := by
  simp [keyStatus, pending]

/-- Metadata with a version of the key itself is good. -/
theorem key_status_converged (read : KeyName.parse key = .ok name) (number : UInt32) :
    (converged (name.version number)).keyStatus key = .converged := by
  have under := KeyName.is_prefix_of_version read number
  simp [keyStatus, hasVersionOf, converged, Status.success, under]

/-- A backup's metadata with a version of the key itself is pinned. -/
theorem is_pinned_untracked_pinned (read : KeyName.parse key = .ok name) (number : UInt32) :
    (pinned (name.version number)).isPinnedUntracked key = true := by
  have under := KeyName.is_prefix_of_version read number
  have named := name.version_ne_empty number
  exact is_pinned_untracked_iff.mpr ⟨rfl, rfl, named, under⟩

end Encryption

namespace Cluster

variable {cluster : Cluster} {key : String} {name : KeyName}

/-- A cluster with a readable key is in the primary version of that key. -/
theorem key_version_of_parse (keyed : cluster.key = some key)
    (read : KeyName.parse key = .ok name) :
    cluster.keyVersion = some (name.version primaryVersion) := by
  simp only [keyVersion, keyed, read]

/-- What a table reports for a cluster with a readable key. -/
theorem table_encryption_of_parse (keyed : cluster.key = some key)
    (read : KeyName.parse key = .ok name) (converged : Bool) :
    cluster.tableEncryption converged =
      if converged then .converged (name.version primaryVersion) else .pending := by
  simp only [tableEncryption, key_version_of_parse keyed read]

/-- What a backup in a cluster with a readable key reports. -/
theorem backup_encryption_of_parse (keyed : cluster.key = some key)
    (read : KeyName.parse key = .ok name) :
    cluster.backupEncryption = .pinned (name.version primaryVersion) := by
  simp only [backupEncryption, key_version_of_parse keyed read]

end Cluster

end CustomerKeys
