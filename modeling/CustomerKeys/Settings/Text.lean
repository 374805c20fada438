import CustomerKeys.Document.Records
import CustomerKeys.Settings.Validity
import CustomerKeys.Toml.Reader
import CustomerKeys.Toml.Writer

/-!
# Settings as text

Settings are kept in TOML files. Writing gives every field in the order of its declaration; reading
fills in what is missing where there is a usual value. Only numbers beyond the integers of the
format cannot be written.
-/

namespace CustomerKeys

/-- Why a file cannot be read: it does not exist, it does not hold a text, or the system says
something else about it. -/
inductive FileFault where
  | missing
  | notUnicode
  | other (reason : String)
  deriving DecidableEq, Repr

/-- The text of what is wrong with a file, in the words that the operating system and the standard
library of the tool have for it. -/
def FileFault.message : FileFault → String
  | .missing => "No such file or directory (os error 2)"
  | .notUnicode => "stream did not contain valid UTF-8"
  | .other reason => reason

/-- Why settings cannot be loaded: the file cannot be read, its text is not TOML, or the document is
not one of settings. -/
inductive LoadFault where
  | file (path : String) (fault : FileFault)
  | malformed
  | unfit (error : DecodeError)
  deriving DecidableEq, Repr

/-- What is wrong with settings that cannot be loaded. Of a text that is not TOML it only says so,
without the place at which the reader came to a stop. -/
def LoadFault.message : LoadFault → String
  | .file path fault => settingsComplaint (path ++ ": " ++ fault.message)
  | .malformed => settingsComplaint "malformed TOML"
  | .unfit error => settingsComplaint (error.message .plain)

namespace Settings

/-- The settings that a text holds. Fields with a usual value may be missing, and names that are no
fields are passed over. -/
def ofToml (text : String) : Except LoadFault Settings :=
  match Toml.parse text with
  | none => .error .malformed
  | some document => (decode .toml document).mapError .unfit

/-- The text of settings, which fails only for numbers that TOML cannot hold. What is written is
read back by `ofToml` as the same settings. -/
def toToml (settings : Settings) : Except Toml.Unwritable String := Toml.write settings.encode

/-- The settings in a file, given its path and what reading it came to. The file itself is read by
whoever runs the session. -/
def ofFile (path : String) (content : Except FileFault ByteArray) : Except LoadFault Settings :=
  match content with
  | .error fault => .error (.file path fault)
  | .ok bytes =>
    match String.fromUTF8? bytes with
    | some text => ofToml text
    | none => .error (.file path .notUnicode)

end Settings

end CustomerKeys
