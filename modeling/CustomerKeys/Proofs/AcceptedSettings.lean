import CustomerKeys.Proofs.KeyNames
import CustomerKeys.Proofs.ValidSettings
import CustomerKeys.Proofs.Zones

/-!
# What accepted settings look like

Settings are accepted exactly when they are well formed, and this can be said without any of the
functions that take texts apart, but for the key. There are a region and another one, the first two
zones are of the one with different letters, the third is of the other, and nothing is missing, zero
or too late.

So a key covers the first zone when it covers the second, and then not the third. Whether it covers
any of them is left open.
-/

namespace CustomerKeys

/-- Two times have a sum when it is below the size of the clock. -/
theorem is_some_time_after_iff {start lifetime : UInt64} :
    (timeAfter? start lifetime).isSome = true ↔
      start.toNat + lifetime.toNat < UInt64.size := by
  unfold timeAfter?
  split <;> simp [*]

namespace Settings

/-- Zones as the settings need them: two of one region, and one of another. -/
def ZonesPlaced (settings : Settings) : Prop :=
  ∃ (region other : String) (first second third : Char),
    region ≠ "" ∧ other ≠ "" ∧ region ≠ other ∧
    Zone.isLetter first = true ∧ Zone.isLetter second = true ∧ Zone.isLetter third = true ∧
    first ≠ second ∧
    settings.primaryZone = Zone.ofLetter region first ∧
    settings.siblingZone = Zone.ofLetter region second ∧
    settings.foreignZone = Zone.ofLetter other third

/-- Settings without a fault when the clock is at `now`. -/
structure WellFormed (settings : Settings) (now : UInt64) : Prop where
  hasProject : settings.project ≠ ""
  hasKey : ∃ name, KeyName.parse settings.key = .ok name
  placed : settings.ZonesPlaced
  hasNodes : 0 < settings.serveNodes
  hasLifetime : 0 < settings.backupLifetime
  expires : now.toNat + settings.backupLifetime.toNat < UInt64.size
  hasWaits : settings.backoff ≠ []

variable {settings : Settings} {now : UInt64} {name : KeyName} {region : String}

/-- The zones of sound settings are placed in the regions that they were found to lie in. -/
theorem Sound.zones_placed (sound : settings.Sound now name region) : settings.ZonesPlaced := by
  obtain ⟨other, foreign, outside⟩ := sound.foreign
  obtain ⟨named, first, firstCloses, primary⟩ := Zone.region_eq_ok_iff.mp sound.primary
  obtain ⟨-, second, secondCloses, sibling⟩ := Zone.region_eq_ok_iff.mp sound.sibling
  obtain ⟨otherNamed, third, thirdCloses, foreign⟩ := Zone.region_eq_ok_iff.mp foreign
  have lettersDiffer : first ≠ second := by
    rintro rfl
    exact sound.apart (primary.trans sibling.symm)
  exact ⟨region, other, first, second, third, named, otherNamed, outside, firstCloses,
    secondCloses, thirdCloses, lettersDiffer, primary, sibling, foreign⟩

/-- Sound settings have no fault. -/
theorem Sound.well_formed (sound : settings.Sound now name region) : settings.WellFormed now where
  hasProject := sound.hasProject
  hasKey := ⟨name, sound.readsKey⟩
  placed := sound.zones_placed
  hasNodes := UInt32.pos_iff_ne_zero.mpr sound.hasNodes
  hasLifetime := UInt64.pos_iff_ne_zero.mpr sound.hasLifetime
  expires := is_some_time_after_iff.mp sound.expires
  hasWaits := sound.hasWaits

/-- Settings without a fault are sound for the key they name, in the region of their zones. -/
theorem WellFormed.sound (wellFormed : settings.WellFormed now) :
    ∃ name region, settings.Sound now name region := by
  obtain ⟨name, readsKey⟩ := wellFormed.hasKey
  obtain ⟨region, other, first, second, third, named, otherNamed, outside, firstCloses,
    secondCloses, thirdCloses, lettersDiffer, primary, sibling, foreign⟩ := wellFormed.placed
  have apart : settings.primaryZone ≠ settings.siblingZone := by
    rw [primary, sibling, ne_eq, Zone.of_letter_inj]
    exact fun same => lettersDiffer same.2
  exact ⟨name, region,
    { hasProject := wellFormed.hasProject
      hasKey := by
        intro empty
        rw [empty] at readsKey
        cases readsKey
      readsKey
      primary := primary ▸ Zone.region_of_letter named firstCloses
      sibling := sibling ▸ Zone.region_of_letter named secondCloses
      foreign := ⟨other, foreign ▸ Zone.region_of_letter otherNamed thirdCloses, outside⟩
      apart
      hasNodes := UInt32.pos_iff_ne_zero.mp wellFormed.hasNodes
      hasLifetime := UInt64.pos_iff_ne_zero.mp wellFormed.hasLifetime
      expires := is_some_time_after_iff.mpr wellFormed.expires
      hasWaits := wellFormed.hasWaits }⟩

/-- A key covers the first zone exactly when it lies in the region of the first two. -/
theorem Sound.covers_primary_iff (sound : settings.Sound now name region) {key : KeyName} :
    key.covers settings.primaryZone = true ↔ region = key.location := by
  rw [KeyName.covers_iff, sound.primary, Except.ok.injEq]

/-- So it is with the second zone. -/
theorem Sound.covers_sibling_iff (sound : settings.Sound now name region) {key : KeyName} :
    key.covers settings.siblingZone = true ↔ region = key.location := by
  rw [KeyName.covers_iff, sound.sibling, Except.ok.injEq]

/-- A key in that region does not cover the third zone. -/
theorem Sound.covers_foreign_eq_false (sound : settings.Sound now name region) {key : KeyName}
    (inRegion : region = key.location) : key.covers settings.foreignZone = false := by
  obtain ⟨other, foreign, outside⟩ := sound.foreign
  rw [Bool.eq_false_iff, ne_eq, KeyName.covers_iff, foreign, Except.ok.injEq]
  exact fun same => outside (inRegion.trans same.symm)

/-- Settings are accepted exactly when they are well formed. The zones of accepted settings are of
one kind to every key: it covers the first two or neither, and with them never the third. -/
theorem accepted_exactly_when_well_formed (settings : Settings) (now : UInt64) :
    (settings.validate now = .ok () ↔ settings.WellFormed now) ∧
    (settings.validate now = .ok () → ∀ key : KeyName,
      (key.covers settings.primaryZone = true ↔ key.covers settings.siblingZone = true) ∧
      ¬ (key.covers settings.primaryZone = true ∧ key.covers settings.foreignZone = true)) := by
  rw [validate_eq_ok_iff]
  refine ⟨⟨?_, WellFormed.sound⟩, ?_⟩
  · rintro ⟨name, region, sound⟩
    exact sound.well_formed
  · rintro ⟨name, region, sound⟩ key
    refine ⟨sound.covers_primary_iff.trans sound.covers_sibling_iff.symm, ?_⟩
    rintro ⟨coversPrimary, coversForeign⟩
    have outside := sound.covers_foreign_eq_false (sound.covers_primary_iff.mp coversPrimary)
    exact Bool.eq_false_iff.mp outside coversForeign

/-- Regions may hold dashes and begin each other: of `r-x-b` and `r-b` the one lies in `r-x` and the
other in `r`. -/
theorem accepted_with_dashed_regions :
    let name : KeyName := ⟨"p", "r-x", "r", "k"⟩
    let settings := { scaffold "p" name.render with
      primaryZone := "r-x-b", siblingZone := "r-x-c", foreignZone := "r-b" }
    settings.validate 7 = .ok () ∧ settings.WellFormed 7 ∧ ∀ key : KeyName,
      (key.covers "r-x-b" = true ↔ key.covers "r-x-c" = true) ∧
      ¬ (key.covers "r-x-b" = true ∧ key.covers "r-b" = true) := by
  intro name settings
  have wellFormed : settings.WellFormed 7 :=
    { hasProject := by decide
      hasKey := ⟨name, KeyName.parse_render (by decide)⟩
      placed := ⟨"r-x", "r", 'b', 'c', 'b', by decide⟩
      hasNodes := by decide
      hasLifetime := by decide
      expires := by decide
      hasWaits := List.cons_ne_nil _ _ }
  obtain ⟨exactly, covers⟩ := accepted_exactly_when_well_formed settings 7
  have accepted := exactly.mpr wellFormed
  exact ⟨accepted, wellFormed, covers accepted⟩

end Settings

end CustomerKeys
