import CustomerKeys.Status

/-!
# Errors of the control plane

A refused call answers with a canonical code and a text. Four codes have a form of their own; any
code can also come in the general form, and the two forms of one code are told apart although they
read the same. The full text starts with the name of the code.
-/

namespace CustomerKeys

/-- A refusal of the control plane, in one of the four forms for codes that callers look for, or in
the general form with any code. -/
inductive AdminError where
  | notFound (text : String)
  | failedPrecondition (text : String)
  | alreadyExists (text : String)
  | unavailable (text : String)
  | api (code : StatusCode) (text : String)
  deriving DecidableEq, Repr

namespace AdminError

/-- The refusal of a call with unusable arguments, such as an instance without clusters. The code
has no form of its own and comes in the general one. -/
def invalidArgument (text : String) : AdminError := .api .invalidArgument text

/-- The canonical code of a refusal. Callers that branch on a refusal look at the code, so both
forms of one code are treated alike. -/
def code : AdminError → StatusCode
  | .notFound _ => .notFound
  | .failedPrecondition _ => .failedPrecondition
  | .alreadyExists _ => .alreadyExists
  | .unavailable _ => .unavailable
  | .api code _ => code

/-- The text behind the code. It says which resource is concerned and what is wrong with it. -/
def text : AdminError → String
  | .notFound text => text
  | .failedPrecondition text => text
  | .alreadyExists text => text
  | .unavailable text => text
  | .api _ text => text

/-- The full text of a refusal: the name of its code and its own text behind a colon. This is what
the reason of a failed run quotes. -/
def message (error : AdminError) : String := error.code.name ++ ": " ++ error.text

/-- The refusal says that the state of the plane does not allow the call. A cluster in a zone that
its key does not cover must be refused so, in either form. -/
def isFailedPrecondition (error : AdminError) : Bool := error.code = .failedPrecondition

end AdminError

end CustomerKeys
