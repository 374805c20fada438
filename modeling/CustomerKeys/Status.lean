/-!
# Canonical status codes

Every answer of the control plane, and the key status it reports, carries one of seventeen
canonical codes. A code is written by its upper-case name.
-/

namespace CustomerKeys

/-- The canonical status codes. A refused call carries one of them, and so does the status of a key
version in the metadata of a table or a backup. -/
inductive StatusCode where
  | ok
  | cancelled
  | unknown
  | invalidArgument
  | deadlineExceeded
  | notFound
  | alreadyExists
  | permissionDenied
  | resourceExhausted
  | failedPrecondition
  | aborted
  | outOfRange
  | unimplemented
  | internal
  | unavailable
  | dataLoss
  | unauthenticated
  deriving DecidableEq, Repr

/-- The written name of a code, which begins the text of a refusal and stands for the code in
documents. No two codes share a name. -/
def StatusCode.name : StatusCode → String
  | .ok => "OK"
  | .cancelled => "CANCELLED"
  | .unknown => "UNKNOWN"
  | .invalidArgument => "INVALID_ARGUMENT"
  | .deadlineExceeded => "DEADLINE_EXCEEDED"
  | .notFound => "NOT_FOUND"
  | .alreadyExists => "ALREADY_EXISTS"
  | .permissionDenied => "PERMISSION_DENIED"
  | .resourceExhausted => "RESOURCE_EXHAUSTED"
  | .failedPrecondition => "FAILED_PRECONDITION"
  | .aborted => "ABORTED"
  | .outOfRange => "OUT_OF_RANGE"
  | .unimplemented => "UNIMPLEMENTED"
  | .internal => "INTERNAL"
  | .unavailable => "UNAVAILABLE"
  | .dataLoss => "DATA_LOSS"
  | .unauthenticated => "UNAUTHENTICATED"

/-- Every code, in the order in which a message enumerates them when a document names one that does
not exist. -/
def StatusCode.all : List StatusCode :=
  [.ok, .cancelled, .unknown, .invalidArgument, .deadlineExceeded, .notFound, .alreadyExists,
    .permissionDenied, .resourceExhausted, .failedPrecondition, .aborted, .outOfRange,
    .unimplemented, .internal, .unavailable, .dataLoss, .unauthenticated]

/-- The list of codes leaves none out, so the decoder that searches it by name finds every code that
can be written. -/
theorem StatusCode.mem_all (code : StatusCode) : code ∈ StatusCode.all := by
  cases code <;> decide

/-- A status: a code and a text that qualifies it. Metadata is judged by both, since some texts set
apart states that share a code. -/
structure Status where
  code : StatusCode
  message : String
  deriving DecidableEq, Repr

namespace Status

/-- The plain success: code `OK` and no text. It is the status of a key version that is known, and
of a cluster without a key. -/
def success : Status := ⟨.ok, ""⟩

/-- The code is `OK`, whatever the text. A wait looks at the code alone and ends here; the text is
judged afterwards, when the table is inspected. -/
def isOk (status : Status) : Bool := status.code = .ok

end Status

end CustomerKeys
