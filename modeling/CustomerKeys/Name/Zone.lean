/-!
# Zones and regions

A zone is a region followed by a dash and one lower-case letter, as in `us-central1-b`. The region
itself may hold dashes. A location is addressed by its project and zone.
-/

namespace CustomerKeys

/-- Why a resource name is not understood. The error carries the text that was read, which its
message repeats. -/
inductive NameError where
  | malformedKey (name : String)
  | malformedZone (zone : String)
  deriving DecidableEq, Repr

/-- The text of a name error, as it stands in the complaint about settings and in the refusal of a
cluster. -/
def NameError.message : NameError → String
  | .malformedKey name => "malformed KMS key name: " ++ name
  | .malformedZone zone => "malformed zone: " ++ zone

namespace Zone

/-- A letter that may end a zone. Only the 26 small letters of ASCII count. -/
def isLetter (c : Char) : Bool := 'a' ≤ c && c ≤ 'z'

/-- The region of a zone: what stands before the dash and the closing letter, which must not be
empty. The zone is read from its end, so dashes inside the region need no special care. -/
def region (zone : String) : Except NameError String :=
  match zone.toList.reverse with
  | letter :: '-' :: last :: others =>
    if isLetter letter then .ok (String.ofList (last :: others).reverse)
    else .error (.malformedZone zone)
  | _ => .error (.malformedZone zone)

/-- The name of a zone inside a project, by which the refusal of a cluster says where its key may
not be used. -/
def path (project zone : String) : String :=
  "projects/" ++ project ++ "/locations/" ++ zone

end Zone

end CustomerKeys
