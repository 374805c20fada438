import CustomerKeys.Proofs.KeyNames

/-!
# The zones of a region

A zone is put together from a region and a letter, and taking it apart gives both back. Only the
last two characters are looked at, so this holds for a region with dashes of its own, and no zone
lies in two regions.

Any other text is no zone, and is named in the fault: one that ends in a dash, in a capital, in a
letter of another alphabet, in more than one letter, or that has nothing in front of its dash. A key
covers the zones of its location, so keys in different locations have no zone in common. Keys need
not have been read for that. The location of a key that was put together may be empty; such a key
covers nothing.
-/

namespace CustomerKeys

namespace Zone

/-- The zone of a region with a letter. -/
def ofLetter (region : String) (letter : Char) : String := region ++ "-" ++ String.singleton letter

variable {zone region other : String} {letter otherLetter : Char}

/-- The letters that may end a zone are those from `a` to `z`. -/
theorem is_letter_iff : isLetter letter = true ↔ 'a' ≤ letter ∧ letter ≤ 'z' := by
  simp [isLetter]

/-- Read from its end, a zone is the letter, the dash and the region. -/
theorem reverse_of_letter (region : String) (letter : Char) :
    (ofLetter region letter).toList.reverse = letter :: '-' :: region.toList.reverse := by
  simp [ofLetter, String.toList_append]

/-- A zone determines its region and its letter. -/
theorem of_letter_inj :
    ofLetter region letter = ofLetter other otherLetter ↔
      region = other ∧ letter = otherLetter := by
  constructor
  · intro same
    have backwards := congrArg (·.toList.reverse) same
    simp only [reverse_of_letter, List.cons.injEq, List.reverse_inj, String.toList_inj,
      true_and] at backwards
    exact backwards.symm
  · rintro ⟨rfl, rfl⟩
    rfl

/-- The zone of a region lies in that region. -/
theorem region_of_letter (named : region ≠ "") (closes : isLetter letter = true) :
    Zone.region (ofLetter region letter) = .ok region := by
  have characters : region.toList.reverse ≠ [] := by simpa using named
  obtain ⟨last, others, ends⟩ := List.exists_cons_of_ne_nil characters
  simp only [Zone.region, reverse_of_letter, ends, closes, if_true]
  rw [← ends, List.reverse_reverse, String.ofList_toList]

/-- A text lies in a region exactly when it is a zone of it. -/
theorem region_eq_ok_iff :
    Zone.region zone = .ok region ↔
      region ≠ "" ∧ ∃ letter, isLetter letter = true ∧ zone = ofLetter region letter := by
  constructor
  · intro lies
    unfold Zone.region at lies
    split at lies
    · rename_i letter last others backwards
      split at lies
      · rename_i closes
        obtain rfl := Except.ok.inj lies
        refine ⟨by simp, letter, closes, ?_⟩
        rw [← String.toList_inj, ← List.reverse_inj, backwards, reverse_of_letter,
          String.toList_ofList, List.reverse_reverse]
      · cases lies
    · cases lies
  · rintro ⟨named, letter, closes, rfl⟩
    exact region_of_letter named closes

/-- The fault of a text that is no zone names that text. -/
theorem eq_malformed_zone_of_region {error : NameError} (fails : Zone.region zone = .error error) :
    error = .malformedZone zone := by
  unfold Zone.region at fails
  split at fails
  · split at fails
    · cases fails
    · exact (Except.error.inj fails).symm
  · exact (Except.error.inj fails).symm

/-- A text is a zone of a region when it is the region, which is not empty, with a dash and one
letter from `a` to `z` behind it. -/
def LiesIn (zone region : String) : Prop :=
  region ≠ "" ∧ ∃ letter : Char, 'a' ≤ letter ∧ letter ≤ 'z' ∧
    zone = region ++ "-" ++ String.singleton letter

/-- Reading a zone gives the region it is a zone of. -/
theorem region_eq_ok_iff_lies_in : Zone.region zone = .ok region ↔ LiesIn zone region := by
  simp only [region_eq_ok_iff, is_letter_iff, LiesIn, ofLetter, and_assoc]

/-- Reading fails, and names the text, exactly when it is a zone of no region. -/
theorem region_eq_error_iff {error : NameError} :
    Zone.region zone = .error error ↔
      error = .malformedZone zone ∧ ∀ region, ¬ LiesIn zone region := by
  constructor
  · intro fails
    refine ⟨eq_malformed_zone_of_region fails, ?_⟩
    intro region lies
    cases fails.symm.trans (region_eq_ok_iff_lies_in.mpr lies)
  · rintro ⟨rfl, outside⟩
    cases read : Zone.region zone with
    | ok region => exact absurd (region_eq_ok_iff_lies_in.mp read) (outside region)
    | error error => rw [eq_malformed_zone_of_region read]

/-- Zones are read by their exact form. A text is read as a zone of a region exactly when it is one,
and is refused by its name when it is a zone of none. A key covers exactly the zones of its
location, and keys in different locations cover no zone in common. -/
theorem zones_read_by_exact_form :
    (∀ zone region : String, Zone.region zone = .ok region ↔ LiesIn zone region) ∧
    (∀ (zone : String) (error : NameError), Zone.region zone = .error error ↔
      error = .malformedZone zone ∧ ∀ region, ¬ LiesIn zone region) ∧
    (∀ (name : KeyName) (zone : String),
      name.covers zone = true ↔ LiesIn zone name.location) ∧
    (∀ (name other : KeyName) (zone : String), name.location ≠ other.location →
      ¬ (name.covers zone = true ∧ other.covers zone = true)) := by
  refine ⟨?_, ?_, ?_, ?_⟩
  · intro zone region
    exact region_eq_ok_iff_lies_in
  · intro zone error
    exact region_eq_error_iff
  · intro name zone
    rw [KeyName.covers_iff, region_eq_ok_iff_lies_in]
  · intro name other zone differ covered
    obtain ⟨covers, otherCovers⟩ := covered
    rw [KeyName.covers_iff] at covers otherCovers
    exact differ (Except.ok.inj (covers.symm.trans otherCovers))

/-- The zone `r-x-b` lies in `r-x` and not in `r`. With a letter of another alphabet in its place it
is a zone of neither. -/
theorem dashed_region_has_own_zones :
    let name : KeyName := ⟨"p", "r-x", "k", "k"⟩
    let other : KeyName := ⟨"p", "r", "k", "k"⟩
    Zone.region "r-x-b" = .ok "r-x" ∧ LiesIn "r-x-b" "r-x" ∧
      (∀ region, ¬ LiesIn "r-x-é" region) ∧ name.location ≠ other.location ∧
      name.covers "r-x-b" = true ∧ other.covers "r-x-b" = false := by
  intro name other
  obtain ⟨reads, fails, covers, apart⟩ := zones_read_by_exact_form
  have lies : LiesIn "r-x-b" "r-x" := (reads _ _).mp rfl
  have differ : name.location ≠ other.location := by decide
  have covered : name.covers "r-x-b" = true := (covers name _).mpr lies
  have uncovered : other.covers "r-x-b" = false := by
    rw [Bool.eq_false_iff]
    exact fun also => apart name other "r-x-b" differ ⟨covered, also⟩
  exact ⟨rfl, lies, ((fails "r-x-é" _).mp rfl).2, differ, covered, uncovered⟩

end Zone

end CustomerKeys
