import CustomerKeys.Scenario.Run

/-!
# When settings are accepted

The checks of settings stand in a row, and each either passes or ends the row with its fault. The
settings are accepted exactly when all of them pass, which `Settings.Sound` says without the row:
what must be readable, which zones must share a region, and what must not be zero or empty.

No check compares the key's location with the region of the zones.
-/

namespace CustomerKeys

/-- A step of a row passes, and so does what follows it, when the row as a whole does. -/
theorem bind_eq_ok_iff {ε α β : Type} {step : Except ε α} {rest : α → Except ε β}
    {result : β} :
    (step >>= rest) = .ok result ↔ ∃ value, step = .ok value ∧ rest value = .ok result := by
  cases step with
  | error error => simp [bind, Except.bind]
  | ok value => simp [bind, Except.bind]

/-- Changing what an error says changes no success. -/
theorem map_error_ok {ε ε' α : Type} (change : ε → ε') (value : α) :
    (Except.ok value : Except ε α).mapError change = .ok value := rfl

/-- Nor does it make one. -/
theorem map_error_eq_ok_iff {ε ε' α : Type} {change : ε → ε'} {step : Except ε α}
    {value : α} : step.mapError change = .ok value ↔ step = .ok value := by
  cases step with
  | error error =>
    constructor
    · intro changed
      cases changed
    · intro unfailed
      cases unfailed
  | ok other => simp only [map_error_ok, Except.ok.injEq]

namespace Settings

/-- A demand is met exactly when its condition holds. -/
theorem require_eq_ok_iff {holds : Bool} {fault : SettingsFault} {value : Unit} :
    require holds fault = .ok value ↔ holds = true := by
  unfold require
  split <;> simp_all

/-- Settings fit to run with when the clock is at `now`: the key they name, and the region of the
first two zones. -/
structure Sound (settings : Settings) (now : UInt64) (name : KeyName) (region : String) :
    Prop where
  hasProject : settings.project ≠ ""
  hasKey : settings.key ≠ ""
  readsKey : KeyName.parse settings.key = .ok name
  primary : Zone.region settings.primaryZone = .ok region
  sibling : Zone.region settings.siblingZone = .ok region
  foreign : ∃ other, Zone.region settings.foreignZone = .ok other ∧ region ≠ other
  apart : settings.primaryZone ≠ settings.siblingZone
  hasNodes : settings.serveNodes ≠ 0
  hasLifetime : settings.backupLifetime ≠ 0
  expires : (timeAfter? now settings.backupLifetime).isSome
  hasWaits : settings.backoff ≠ []

/-- A schedule in seconds exists exactly when there is a wait, and lists the waits in order. -/
theorem schedule_eq_ok_iff {settings : Settings} {schedule : Schedule} :
    settings.schedule = .ok schedule ↔
      settings.backoff ≠ [] ∧ schedule.steps = settings.backoff.map Duration.ofSeconds := by
  unfold Settings.schedule Schedule.ofSeconds Schedule.ofSteps
  split
  · rename_i waits
    obtain ⟨steps, nonempty⟩ := schedule
    simp only [ne_eq, List.map_eq_nil_iff] at waits
    simp [waits, eq_comm]
  · rename_i empty
    simp_all

/-- A schedule allows as many attempts as the settings list waits. -/
theorem attempts_of_schedule {settings : Settings} {schedule : Schedule}
    (scheduled : settings.schedule = .ok schedule) :
    schedule.attempts = settings.backoff.length := by
  rw [Schedule.attempts, (schedule_eq_ok_iff.mp scheduled).2, List.length_map]

/-- Sound settings ask for a schedule. -/
theorem Sound.exists_schedule {settings : Settings} {now : UInt64} {name : KeyName}
    {region : String} (sound : settings.Sound now name region) :
    ∃ schedule, settings.schedule = .ok schedule := by
  have waits : settings.backoff.map Duration.ofSeconds ≠ [] := by
    simpa using sound.hasWaits
  exact ⟨⟨_, waits⟩, schedule_eq_ok_iff.mpr ⟨sound.hasWaits, rfl⟩⟩

/-- Settings are accepted exactly when they are sound. -/
theorem validate_eq_ok_iff {settings : Settings} {now : UInt64} :
    settings.validate now = .ok () ↔ ∃ name region, settings.Sound now name region := by
  simp only [validate, bind_eq_ok_iff, map_error_eq_ok_iff, require_eq_ok_iff, decide_eq_true_eq]
  constructor
  · rintro ⟨_, hasProject, _, hasKey, name, readsKey, region, primary, _, sibling, other, foreign,
      _, apart, _, rfl, _, outside, _, hasNodes, _, hasLifetime, _, expires, _, scheduled, -⟩
    exact ⟨name, region,
      { hasProject, hasKey, readsKey, primary, sibling, foreign := ⟨other, foreign, outside⟩, apart,
        hasNodes, hasLifetime, expires, hasWaits := (schedule_eq_ok_iff.mp scheduled).1 }⟩
  · rintro ⟨name, region, sound⟩
    obtain ⟨other, foreign, outside⟩ := sound.foreign
    obtain ⟨schedule, scheduled⟩ := sound.exists_schedule
    exact ⟨(), sound.hasProject, (), sound.hasKey, name, sound.readsKey, region, sound.primary,
      region, sound.sibling, other, foreign, (), sound.apart, (), rfl, (), outside, (),
      sound.hasNodes, (), sound.hasLifetime, (), sound.expires, schedule, scheduled, rfl⟩

/-- The settings to start from are sound for every project and every key that can be read, until the
clock comes too close to its end. -/
theorem sound_scaffold {project key : String} {name : KeyName} (hasProject : project ≠ "")
    (readsKey : KeyName.parse key = .ok name) (waits : Bool) {now : UInt64}
    (early : (timeAfter? now usualBackupLifetime).isSome) :
    { scaffold project key with waitForKeyStatus := waits }.Sound now name "us-central1" where
  hasProject := hasProject
  hasKey := by
    rintro rfl
    cases readsKey
  readsKey := readsKey
  primary := (rfl : Zone.region "us-central1-b" = .ok "us-central1")
  sibling := (rfl : Zone.region "us-central1-c" = .ok "us-central1")
  foreign := ⟨"us-east1", (rfl : Zone.region "us-east1-b" = .ok "us-east1"), by decide⟩
  apart := (by decide : "us-central1-b" ≠ "us-central1-c")
  hasNodes := (by decide : usualServeNodes ≠ 0)
  hasLifetime := (by decide : usualBackupLifetime ≠ 0)
  expires := early
  hasWaits := List.cons_ne_nil _ _

end Settings

/-- A harness stands for accepted settings and the schedule they ask for. -/
theorem Harness.of_settings_eq_ok_iff {settings : Settings} {now : UInt64} {harness : Harness} :
    Harness.ofSettings settings now = .ok harness ↔
      (∃ name region, settings.Sound now name region) ∧ harness.settings = settings ∧
        settings.schedule = .ok harness.schedule := by
  simp only [Harness.ofSettings, bind_eq_ok_iff, map_error_eq_ok_iff]
  constructor
  · rintro ⟨_, valid, schedule, scheduled, made⟩
    obtain rfl := Except.ok.inj made
    exact ⟨Settings.validate_eq_ok_iff.mp valid, rfl, scheduled⟩
  · rintro ⟨sound, rfl, scheduled⟩
    exact ⟨(), Settings.validate_eq_ok_iff.mpr sound, harness.schedule, scheduled, rfl⟩

/-- The settings to start from are accepted as they are. -/
theorem Harness.of_settings_scaffold {project key : String} {name : KeyName}
    (hasProject : project ≠ "") (readsKey : KeyName.parse key = .ok name) {now : UInt64}
    (early : (timeAfter? now Settings.usualBackupLifetime).isSome) :
    Harness.ofSettings (.scaffold project key) now = .ok ⟨.scaffold project key, .usual⟩ := by
  have sound := Settings.sound_scaffold hasProject readsKey false early
  exact of_settings_eq_ok_iff.mpr ⟨⟨_, _, sound⟩, rfl, rfl⟩

end CustomerKeys
