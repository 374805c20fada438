import CustomerKeys.Settings.Validity
import CustomerKeys.Text.Blank

/-!
# Overrides from the environment

Six variables replace single settings. Five of them are taken as they are. The sixth is a boolean
in one of several spellings, read without regard to surrounding blanks and to the case of ASCII
letters; nothing at all means no. Any other value is a fault.
-/

namespace CustomerKeys

namespace Settings

/-- A boolean in one of its spellings: four words for yes, four for no, in any case of ASCII letters
and with any blanks around, and no word at all for no. -/
def booleanOf? (value : String) : Option Bool :=
  let word := String.ofList ((Text.trimmed value.toList).map Char.toLower)
  if word ∈ ["1", "true", "yes", "on"] then some true
  else if word ∈ ["0", "false", "no", "off", ""] then some false
  else none

/-- The variables that replace settings, in the order in which they are looked up. The schedule and
the properties of resources have none. -/
def overrideVariables : List String :=
  ["CMEK_PROJECT_ID", "CMEK_KMS_KEY_NAME", "CMEK_PRIMARY_ZONE", "CMEK_PRIMARY_REGION_SECOND_ZONE",
    "CMEK_SECONDARY_ZONE", "CMEK_WAIT_FOR_KEY_STATUS"]

/-- Apply the variables that a lookup knows. No others than the override variables are asked for,
and what is set to an empty text counts as set. -/
def overridden (settings : Settings) (lookup : String → Option String) :
    Except SettingsFault Settings :=
  let replaced := { settings with
    project := (lookup "CMEK_PROJECT_ID").getD settings.project
    key := (lookup "CMEK_KMS_KEY_NAME").getD settings.key
    primaryZone := (lookup "CMEK_PRIMARY_ZONE").getD settings.primaryZone
    siblingZone := (lookup "CMEK_PRIMARY_REGION_SECOND_ZONE").getD settings.siblingZone
    foreignZone := (lookup "CMEK_SECONDARY_ZONE").getD settings.foreignZone }
  match lookup "CMEK_WAIT_FOR_KEY_STATUS" with
  | none => .ok replaced
  | some value =>
    match booleanOf? value with
    | some wait => .ok { replaced with waitForKeyStatus := wait }
    | none => .error (.notABoolean value)

end Settings

end CustomerKeys
