import CustomerKeys.Proofs.KeyNames

/-!
# Versions under a key

A version counts as one of a key when its name begins with the key's name. For names that can be
read this is a condition on the parts of the two keys. A slash ends the project, the location and
the ring, and none of them holds one, so these parts must be the same. No slash is asked for after
the last part: there it is enough that the one key begins with the other.

The list lemmas say this about any separator. Two texts agree up to their first separators piece by
piece, and a text without a separator can only begin the first piece.
-/

namespace CustomerKeys

section Pieces

variable {α : Type} {separator : α}

/-- Up to its first separator a text is determined by any longer one. -/
theorem piece_prefix_iff {piece other rest otherRest : List α} (whole : separator ∉ piece)
    (otherWhole : separator ∉ other) :
    piece ++ separator :: rest <+: other ++ separator :: otherRest ↔
      piece = other ∧ rest <+: otherRest := by
  induction piece generalizing other with
  | nil =>
    cases other with
    | nil => simp
    | cons first others =>
      have different : separator ≠ first := List.ne_of_not_mem_cons otherWhole
      simp [different]
  | cons first pieces inductionHypothesis =>
    cases other with
    | nil =>
      have different : first ≠ separator := (List.ne_of_not_mem_cons whole).symm
      simp [different]
    | cons otherFirst others =>
      rw [List.cons_append, List.cons_append, List.cons_prefix_cons,
        inductionHypothesis (List.not_mem_of_not_mem_cons whole)
          (List.not_mem_of_not_mem_cons otherWhole),
        List.cons.injEq, and_assoc]

/-- A text without separators begins another one when it begins its first piece. -/
theorem last_piece_prefix_iff {piece other otherRest : List α} (whole : separator ∉ piece) :
    piece <+: other ++ separator :: otherRest ↔ piece <+: other := by
  constructor
  · intro begins
    obtain short | long := Nat.le_total piece.length other.length
    · exact List.prefix_of_prefix_length_le begins (List.prefix_append _ _) short
    · obtain ⟨middle, rfl⟩ := List.prefix_of_prefix_length_le (List.prefix_append _ _) begins long
      rw [List.prefix_append_right_inj] at begins
      cases middle with
      | nil => exact (List.append_nil other).symm ▸ List.prefix_refl other
      | cons first _ =>
        obtain rfl := (List.cons_prefix_cons.mp begins).1
        exact absurd (List.mem_append_right other List.mem_cons_self) whole
  · exact fun begins => begins.trans (List.prefix_append _ _)

/-- The first of several pieces comes off a text at its first separator. -/
theorem intercalate_cons_concat (piece : List α) (pieces : List (List α)) (last : List α) :
    [separator].intercalate (piece :: pieces ++ [last]) =
      piece ++ separator :: [separator].intercalate (pieces ++ [last]) := by
  have further : pieces ++ [last] ≠ [] := List.concat_ne_nil last pieces
  rw [List.cons_append, List.intercalate_cons_of_ne_nil further, List.append_assoc]
  rfl

/-- Pieces with separators between them begin others of the same number, after which a separator
follows, when all but the last are the same and the last one begins the other. -/
theorem intercalate_prefix_iff {pieces others : List (List α)} {last otherLast rest : List α}
    (sameNumber : pieces.length = others.length) (whole : ∀ piece ∈ pieces, separator ∉ piece)
    (otherWhole : ∀ piece ∈ others, separator ∉ piece) (lastWhole : separator ∉ last) :
    [separator].intercalate (pieces ++ [last]) <+:
        [separator].intercalate (others ++ [otherLast]) ++ separator :: rest ↔
      pieces = others ∧ last <+: otherLast := by
  induction pieces generalizing others with
  | nil =>
    obtain rfl := List.eq_nil_of_length_eq_zero sameNumber.symm
    simpa using last_piece_prefix_iff lastWhole
  | cons piece pieces inductionHypothesis =>
    obtain ⟨other, others, rfl⟩ := List.exists_cons_of_length_eq_add_one sameNumber.symm
    rw [List.forall_mem_cons] at whole otherWhole
    rw [intercalate_cons_concat, intercalate_cons_concat, List.append_assoc, List.cons_append,
      piece_prefix_iff whole.1 otherWhole.1,
      inductionHypothesis (Nat.succ.inj sameNumber) whole.2 otherWhole.2, List.cons.injEq,
      and_assoc]

end Pieces

namespace KeyName

/-- A key extends another one when it lies in the same ring and its last part begins with the last
part of the other. Every key extends itself. -/
def Extends (name shorter : KeyName) : Prop :=
  name.project = shorter.project ∧ name.location = shorter.location ∧ name.ring = shorter.ring ∧
    shorter.key.toList <+: name.key.toList

/-- Whether one key extends another can be computed from their parts. -/
instance (name shorter : KeyName) : Decidable (name.Extends shorter) :=
  inferInstanceAs (Decidable (_ ∧ _ ∧ _ ∧ _))

/-- Keys with the same leading pieces lie in the same ring. -/
theorem leading_eq_iff {name other : KeyName} :
    name.leading = other.leading ↔
      name.project = other.project ∧ name.location = other.location ∧ name.ring = other.ring := by
  simp [leading, String.toList_inj]

/-- The name of one key begins the name of another's version exactly when the other key extends
it. -/
theorem is_prefix_of_version_iff {name other : KeyName} (wellFormed : name.WellFormed)
    (otherWellFormed : other.WellFormed) (number : UInt32) :
    name.render.toList.isPrefixOf (other.version number).toList = true ↔ other.Extends name := by
  have numbered : (other.version number).toList = other.render.toList ++
      '/' :: ("cryptoKeyVersions/".toList ++ (toString number.toNat).toList) := by
    simp [version, String.toList_append]
  have sameNumber : name.leading.length = other.leading.length := rfl
  obtain ⟨whole, lastWhole⟩ := List.forall_mem_append.mp wellFormed.unslashed
  obtain ⟨otherWhole, -⟩ := List.forall_mem_append.mp otherWellFormed.unslashed
  rw [List.forall_mem_singleton] at lastWhole
  rw [List.isPrefixOf_iff_prefix, numbered, to_list_render, to_list_render,
    intercalate_prefix_iff sameNumber whole otherWhole lastWhole, leading_eq_iff, Extends]
  simp only [and_assoc, eq_comm]

end KeyName

namespace Encryption

variable {text otherText : String} {name other : KeyName}

/-- Of two keys that can be read, a version of the one counts as one of the other exactly when the
one extends the other. -/
theorem has_version_of_iff_extends {encryption : Encryption} {number : UInt32}
    (readsKey : KeyName.parse text = .ok name) (readsOther : KeyName.parse otherText = .ok other)
    (shown : encryption.keyVersion = other.version number) :
    encryption.hasVersionOf text = true ↔ other.Extends name := by
  rw [hasVersionOf, shown, ← KeyName.render_of_parse readsKey]
  exact KeyName.is_prefix_of_version_iff (KeyName.well_formed_of_parse readsKey)
    (KeyName.well_formed_of_parse readsOther) number

/-- Metadata that is good is converged exactly when its version counts as one of the key, and
malformed otherwise. -/
theorem key_status_converged_eq_ite (version key : String) :
    (converged version).keyStatus key =
      if (converged version).hasVersionOf key then .converged
      else .malformed (.foreignVersion version key) := by
  have code : (converged version).status.code = .ok := rfl
  have silent : (converged version).status.message = "" := rfl
  have named : (converged version).keyVersion = version := rfl
  cases owned : (converged version).hasVersionOf key with
  | true => simp [keyStatus, code, silent, owned]
  | false => simp [keyStatus, code, named, owned]

/-- A backup's metadata is pinned to a key exactly when its version counts as one of the key. -/
theorem is_pinned_untracked_pinned_iff {version key : String} (named : version ≠ "") :
    (pinned version).isPinnedUntracked key = true ↔ (pinned version).hasVersionOf key = true := by
  rw [is_pinned_untracked_iff]
  constructor
  · rintro ⟨-, -, -, owned⟩
    exact owned
  · intro owned
    exact ⟨rfl, rfl, named, owned⟩

end Encryption

end CustomerKeys
