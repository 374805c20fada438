import CustomerKeys.Name.Key
import CustomerKeys.Status
import CustomerKeys.Text.Quoted

/-!
# Encryption metadata

A cluster's copy of a table, and every backup, reports how it is encrypted: the kind of encryption,
the key version in use, and the status of that version. For a table the status says whether the key
version is already known. For a backup it never does: a backup stays pinned to the version it was
taken under.

`Encryption.keyStatus` reads a table's metadata against the configured key. A version counts as
belonging to a key when its name begins with the key's name; nothing is required of the character
that follows.
-/

namespace CustomerKeys

/-- Who manages the key a resource is encrypted with: the provider, or the customer who named a key
when the cluster was created. A kind may also be left unspecified. -/
inductive EncryptionKind where
  | unspecified
  | providerDefault
  | customerManaged
  deriving DecidableEq, Repr

namespace EncryptionKind

/-- The name by which documents refer to a kind. Reports are written with it, and the decoder of
kinds compares what it finds with these names. -/
def name : EncryptionKind → String
  | .unspecified => "ENCRYPTION_TYPE_UNSPECIFIED"
  | .providerDefault => "GOOGLE_DEFAULT_ENCRYPTION"
  | .customerManaged => "CUSTOMER_MANAGED_ENCRYPTION"

/-- The name by which messages refer to a kind. A report that fails because of its kind of
encryption quotes this name and not the one used in documents. -/
def label : EncryptionKind → String
  | .unspecified => "EncryptionTypeUnspecified"
  | .providerDefault => "GoogleDefaultEncryption"
  | .customerManaged => "CustomerManagedEncryption"

/-- Every kind, in the order in which a message enumerates them when a document names a kind that
does not exist. -/
def all : List EncryptionKind := [.unspecified, .providerDefault, .customerManaged]

end EncryptionKind

/-- The status text of a table whose key version is not reported yet. The metadata of a table is
recognised as pending by exactly this text. -/
def notYetKnown : String := "Key version is not yet known."

/-- The status text of a backup. It is the same for every backup and at any time, and sets the
metadata of a backup apart from that of a table that is still pending. -/
def notTracked : String := "Status of the associated key version is not tracked."

/-- How a resource is encrypted: by whom the key is managed, the version of the key in use and the
status of that version. The version is empty while it is unknown. -/
structure Encryption where
  kind : EncryptionKind
  keyVersion : String
  status : Status
  deriving DecidableEq, Repr

/-- Which rule of the metadata a table breaks, with what it shows in the place of what is required.
A table that breaks several is judged by the first of these. -/
inductive KeyStatusFault where
  | versionWhileUnknown (version : String)
  | messageWhileUnknown (message : String)
  | foreignVersion (version key : String)
  | messageWhileOk (message : String)
  deriving DecidableEq, Repr

/-- The text of a broken rule, as it stands in the reason of a failed run. Versions and texts are
quoted, since they come from the plane and may hold anything. -/
def KeyStatusFault.message : KeyStatusFault → String
  | .versionWhileUnknown version => "UNKNOWN status carries key version " ++ Text.quoted version
  | .messageWhileUnknown message =>
    "UNKNOWN status message is " ++ Text.quoted message ++ ", expected " ++ Text.quoted notYetKnown
  | .foreignVersion version key =>
    "key version " ++ Text.quoted version ++ " is not under key " ++ key
  | .messageWhileOk message => "OK status carries message " ++ Text.quoted message

/-- What a table's metadata says about the status of its key: still to come, settled on a version of
the key, against the rules, or under a code that neither case uses. -/
inductive KeyStatus where
  | transient
  | converged
  | malformed (fault : KeyStatusFault)
  | unhandled (code : StatusCode)
  deriving DecidableEq, Repr

namespace Encryption

/-- What a table reports of a protected cluster before its key version is known: customer managed,
no version, and the text that says so. -/
def pending : Encryption := ⟨.customerManaged, "", ⟨.unknown, notYetKnown⟩⟩

/-- What a table reports of a protected cluster once its key version is known: customer managed, the
version, and the plain success. -/
def converged (version : String) : Encryption := ⟨.customerManaged, version, .success⟩

/-- What a backup carries from its creation on: customer managed and held to the version it was
taken under, with the text that its status is not tracked. -/
def pinned (version : String) : Encryption := ⟨.customerManaged, version, ⟨.unknown, notTracked⟩⟩

/-- What is reported of a cluster for which no key was asked, at once and for good: the provider's
own encryption, without a version. -/
def unmanaged : Encryption := ⟨.providerDefault, "", .success⟩

/-- The resource is protected by a key of the customer. Only then does the version say anything
about the configured key. -/
def isCustomerManaged (encryption : Encryption) : Bool := encryption.kind = .customerManaged

/-- The name of the version begins with the name of the key. This is the whole test: the character
behind the key's name is not looked at. -/
def hasVersionOf (encryption : Encryption) (key : String) : Bool :=
  key.toList.isPrefixOf encryption.keyVersion.toList

/-- What a table's metadata says about the configured key. An unknown status must come without a
version and with the usual text; a good one with a version of the key and without text. -/
def keyStatus (encryption : Encryption) (key : String) : KeyStatus :=
  match encryption.status.code with
  | .unknown =>
    if encryption.keyVersion ≠ "" then .malformed (.versionWhileUnknown encryption.keyVersion)
    else if encryption.status.message ≠ notYetKnown then
      .malformed (.messageWhileUnknown encryption.status.message)
    else .transient
  | .ok =>
    if !encryption.hasVersionOf key then .malformed (.foreignVersion encryption.keyVersion key)
    else if encryption.status.message ≠ "" then
      .malformed (.messageWhileOk encryption.status.message)
    else .converged
  | code => .unhandled code

/-- A backup's metadata: customer managed, a version of the key, and the text that its status is
never tracked. A backup must look so from its creation on. -/
def isPinnedUntracked (encryption : Encryption) (key : String) : Bool :=
  encryption.isCustomerManaged && encryption.status.code = .unknown &&
    encryption.status.message = notTracked && encryption.keyVersion ≠ "" &&
    encryption.hasVersionOf key

end Encryption

end CustomerKeys
