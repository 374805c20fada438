import CustomerKeys.Settings.Basic

/-!
# Valid settings

Settings are checked once, before anything is created. The checks run in a fixed order and the
first that fails is reported: project, key, the form of the three zones, the two zones of the
primary region, the zone outside it, nodes, lifetime of backups, and the schedule.

The region of the key is not compared with the zones.
-/

namespace CustomerKeys

/-- The sum of two times, if it fits in 64 bits. A backup that would expire later than that cannot
be asked for. -/
def timeAfter? (start lifetime : UInt64) : Option UInt64 :=
  if start.toNat + lifetime.toNat < UInt64.size then some (start + lifetime) else none

/-- What is wrong with settings, with the values that its text shows. Values of the override
variables are among the causes, as they are checked on the way to valid settings. -/
inductive SettingsFault where
  | noProject
  | noKey
  | badName (error : NameError)
  | zonesCoincide (zone : String)
  | siblingOutside (zone region : String)
  | foreignInside (zone region : String)
  | noServeNodes
  | noBackupLifetime
  | expiryOverflow (lifetime : UInt64)
  | badSchedule (error : ConvergenceError)
  | notABoolean (value : String)
  deriving DecidableEq, Repr

/-- The text of a fault. It names the setting in the spelling that the settings file uses. -/
def SettingsFault.message : SettingsFault → String
  | .noProject => "project_id is empty"
  | .noKey => "kms_key_name is empty"
  | .badName error => error.message
  | .zonesCoincide zone => "primary_zone and primary_region_second_zone are both " ++ zone
  | .siblingOutside zone region =>
    "primary_region_second_zone " ++ zone ++ " is not in region " ++ region
  | .foreignInside zone region => "secondary_zone " ++ zone ++ " must be outside region " ++ region
  | .noServeNodes => "serve_nodes must be positive"
  | .noBackupLifetime => "backup_ttl_secs must be positive"
  | .expiryOverflow lifetime =>
    "backup_ttl_secs " ++ toString lifetime.toNat ++ " overflows the backup expire time"
  | .badSchedule error => error.message
  | .notABoolean value => "CMEK_WAIT_FOR_KEY_STATUS: not a boolean: " ++ value

/-- How messages introduce what is wrong with settings, be it found in a file, in the environment or
when they are validated. -/
def settingsComplaint (text : String) : String := "configuration error: " ++ text

namespace Settings

/-- Demand that a condition holds, with the fault to report when it does not. The checks are a row
of such demands, and the first that fails is reported. -/
def require (holds : Bool) (fault : SettingsFault) : Except SettingsFault Unit :=
  if holds then .ok () else .error fault

/-- The first fault of settings, with the clock at `now`. The checks are made in the order of the
fields that they are about, with the zones before the numbers and the schedule at the end. -/
def validate (settings : Settings) (now : UInt64) : Except SettingsFault Unit := do
  require (settings.project ≠ "") .noProject
  require (settings.key ≠ "") .noKey
  let _ ← (KeyName.parse settings.key).mapError .badName
  let primary ← (Zone.region settings.primaryZone).mapError .badName
  let sibling ← (Zone.region settings.siblingZone).mapError .badName
  let foreign ← (Zone.region settings.foreignZone).mapError .badName
  require (settings.primaryZone ≠ settings.siblingZone) (.zonesCoincide settings.primaryZone)
  require (primary = sibling) (.siblingOutside settings.siblingZone primary)
  require (primary ≠ foreign) (.foreignInside settings.foreignZone primary)
  require (settings.serveNodes ≠ 0) .noServeNodes
  require (settings.backupLifetime ≠ 0) .noBackupLifetime
  require (timeAfter? now settings.backupLifetime).isSome (.expiryOverflow settings.backupLifetime)
  let _ ← settings.schedule.mapError .badSchedule
  return ()

end Settings

end CustomerKeys
