import CustomerKeys.Proofs.KeyNames

/-!
# The three shapes of metadata

Metadata about a customer's key is made in three ways: pending, converged to a version, and pinned
to one. Reading it against a key recognises the three, each for what it is. It takes nothing else
for one of them, as long as the customer manages the key: transient metadata is the pending one,
good metadata is converged to a version whose name begins with the key's, and a pinned backup is
pinned to such a version.

No metadata has two of the shapes, and it makes no difference that they may be looked for under
different keys. A pinned backup has an unknown status and a version, and what has both is malformed
for a table. Pending metadata names no key, so it is transient for all keys or for none.
-/

namespace CustomerKeys

namespace Encryption

variable {encryption : Encryption} {key : String}

/-- A version belongs to a key when its name begins with the key's. -/
theorem has_version_of_iff :
    encryption.hasVersionOf key = true ↔ key.toList <+: encryption.keyVersion.toList :=
  List.isPrefixOf_iff_prefix

/-- A version beside an unknown status is a fault of a table, under whichever key it is looked
for. -/
theorem key_status_of_versioned (unknown : encryption.status.code = .unknown)
    (versioned : encryption.keyVersion ≠ "") (key : String) :
    encryption.keyStatus key = .malformed (.versionWhileUnknown encryption.keyVersion) := by
  simp [keyStatus, unknown, versioned]

/-- What is transient for one key is transient for all. -/
theorem key_status_transient_congr (transient : encryption.keyStatus key = .transient)
    (other : String) : encryption.keyStatus other = .transient :=
  key_status_eq_transient_iff.mpr (key_status_eq_transient_iff.mp transient)

section CustomerManaged

variable (managed : encryption.isCustomerManaged = true)

include managed

/-- Only pending metadata is transient. -/
theorem key_status_transient_iff_pending :
    encryption.keyStatus key = .transient ↔ encryption = pending := by
  constructor
  · intro transient
    obtain ⟨kind, version, code, message⟩ := encryption
    obtain ⟨rfl, rfl, rfl⟩ := key_status_eq_transient_iff.mp transient
    obtain rfl : kind = .customerManaged := of_decide_eq_true managed
    rfl
  · rintro rfl
    exact key_status_pending key

/-- Only metadata that has converged to a version of the key is good. -/
theorem key_status_converged_iff_converged :
    encryption.keyStatus key = .converged ↔
      ∃ version : String, key.toList <+: version.toList ∧ encryption = converged version := by
  rw [key_status_eq_converged_iff, has_version_of_iff]
  constructor
  · rintro ⟨good, begins, silent⟩
    obtain ⟨kind, version, code, message⟩ := encryption
    obtain rfl : kind = .customerManaged := of_decide_eq_true managed
    obtain rfl := good
    obtain rfl := silent
    exact ⟨version, begins, rfl⟩
  · rintro ⟨version, begins, rfl⟩
    exact ⟨rfl, begins, rfl⟩

/-- Only metadata that is pinned to a version of the key is that of a backup. -/
theorem is_pinned_untracked_iff_pinned :
    encryption.isPinnedUntracked key = true ↔ ∃ version : String,
      version ≠ "" ∧ key.toList <+: version.toList ∧ encryption = pinned version := by
  rw [is_pinned_untracked_iff, has_version_of_iff]
  constructor
  · rintro ⟨-, untracked, named, begins⟩
    obtain ⟨kind, version, status⟩ := encryption
    obtain rfl : kind = .customerManaged := of_decide_eq_true managed
    obtain rfl := untracked
    exact ⟨version, named, begins, rfl⟩
  · rintro ⟨version, named, begins, rfl⟩
    exact ⟨rfl, rfl, named, begins⟩

end CustomerManaged

/-- The three shapes are recognised, and exclude each other. Under a key that can be read, pending
metadata is transient, metadata converged to a version of the key is good, and metadata pinned to
one is that of a backup; of a customer's key no other metadata is taken for these. What is pinned
under one key is malformed under every key, since it has a version. What is transient under one key
is transient under every key, and good under none. -/
theorem shapes_exclude_each_other :
    (∀ (key : String) (name : KeyName) (number : UInt32), KeyName.parse key = .ok name →
      pending.keyStatus key = .transient ∧
      (converged (name.version number)).keyStatus key = .converged ∧
      (pinned (name.version number)).isPinnedUntracked key = true) ∧
    (∀ (encryption : Encryption) (key : String), encryption.isCustomerManaged = true →
      (encryption.keyStatus key = .transient ↔ encryption = pending) ∧
      (encryption.keyStatus key = .converged ↔
        ∃ version : String, key.toList <+: version.toList ∧ encryption = converged version) ∧
      (encryption.isPinnedUntracked key = true ↔ ∃ version : String,
        version ≠ "" ∧ key.toList <+: version.toList ∧ encryption = pinned version)) ∧
    (∀ (encryption : Encryption) (key other : String),
      encryption.isPinnedUntracked key = true →
        encryption.keyStatus other = .malformed (.versionWhileUnknown encryption.keyVersion)) ∧
    (∀ (encryption : Encryption) (key other : String), encryption.keyStatus key = .transient →
      encryption.keyStatus other = .transient ∧ encryption.keyStatus other ≠ .converged) := by
  refine ⟨?_, ?_, ?_, ?_⟩
  · intro key name number readsKey
    exact ⟨key_status_pending key, key_status_converged readsKey number,
      is_pinned_untracked_pinned readsKey number⟩
  · intro encryption key managed
    exact ⟨key_status_transient_iff_pending managed, key_status_converged_iff_converged managed,
      is_pinned_untracked_iff_pinned managed⟩
  · intro encryption key other backup
    obtain ⟨-, untracked, named, -⟩ := is_pinned_untracked_iff.mp backup
    exact key_status_of_versioned (congrArg Status.code untracked) named other
  · intro encryption key other transient
    have everywhere := key_status_transient_congr transient other
    refine ⟨everywhere, ?_⟩
    rw [everywhere]
    exact nofun

/-- A backup's metadata under its own key and, for a table, under the empty one, with which every
version begins. -/
theorem pinned_backup_is_no_table :
    let key := "projects/p/locations/us-central1/keyRings/r/cryptoKeys/k"
    let name : KeyName := ⟨"p", "us-central1", "r", "k"⟩
    let backup := pinned (name.version 3)
    KeyName.parse key = .ok name ∧ backup.isPinnedUntracked key = true ∧
      backup.keyStatus "" = .malformed (.versionWhileUnknown (name.version 3)) ∧
      pending.isCustomerManaged = true ∧ pending.keyStatus key = .transient ∧
      pending.keyStatus "" = .transient ∧ pending.isPinnedUntracked "" = false := by
  intro key name backup
  have readsKey : KeyName.parse key = .ok name :=
    KeyName.parse_eq_ok_iff.mpr ⟨by decide, by decide⟩
  obtain ⟨recognised, made, ofBackup, ofPending⟩ := shapes_exclude_each_other
  obtain ⟨transient, -, isBackup⟩ := recognised key name 3 readsKey
  have managed : pending.isCustomerManaged = true := rfl
  have unpinned : pending.isPinnedUntracked "" = false := by
    rw [Bool.eq_false_iff, ne_eq, (made pending "" managed).2.2]
    rintro ⟨version, named, -, same⟩
    exact named (congrArg keyVersion same).symm
  exact ⟨readsKey, isBackup, ofBackup backup key "" isBackup, managed, transient,
    (ofPending pending key "" transient).1, unpinned⟩

end Encryption

end CustomerKeys
