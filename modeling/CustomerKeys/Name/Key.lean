import CustomerKeys.Name.Zone

/-!
# Key names

A key is named by its project, location, key ring and key, as in
`projects/p/locations/l/keyRings/r/cryptoKeys/k`. Reading a name splits it at its slashes: eight
pieces, the four fixed words in their places, and four parts that are not empty. A key covers the
zones of the region that its location names.
-/

namespace CustomerKeys

/-- The four parts of a key's name, each of them any text. Which combinations are names that can be
written and read again is said by `KeyName.WellFormed`. -/
structure KeyName where
  project : String
  location : String
  ring : String
  key : String
  deriving DecidableEq, Repr

namespace KeyName

/-- The full name of a key: its parts between the four fixed words, in the order from the project
down to the key. -/
def render (name : KeyName) : String :=
  "projects/" ++ name.project ++ "/locations/" ++ name.location ++
    "/keyRings/" ++ name.ring ++ "/cryptoKeys/" ++ name.key

/-- The key a text names, if the text has the form of a key name: the fixed words in their places,
four parts that are not empty, and nothing before or behind. -/
def parse (text : String) : Except NameError KeyName :=
  match text.toList.splitOn '/' with
  | [projects, project, locations, location, rings, ring, keys, key] =>
    if projects = "projects".toList ∧ locations = "locations".toList ∧
        rings = "keyRings".toList ∧ keys = "cryptoKeys".toList ∧
        project ≠ [] ∧ location ≠ [] ∧ ring ≠ [] ∧ key ≠ [] then
      .ok ⟨.ofList project, .ofList location, .ofList ring, .ofList key⟩
    else .error (.malformedKey text)
  | _ => .error (.malformedKey text)

/-- A key may protect clusters in the zones of its own location. What is not the name of a zone lies
in no location and is covered by no key. -/
def covers (name : KeyName) (zone : String) : Bool :=
  match Zone.region zone with
  | .ok region => region = name.location
  | .error _ => false

/-- The name of a version of the key. It extends the name of the key by a slash, a fixed word and
the number of the version. -/
def version (name : KeyName) (number : UInt32) : String :=
  name.render ++ "/cryptoKeyVersions/" ++ toString number.toNat

end KeyName

end CustomerKeys
