import ShareCheck.Duration
import ShareCheck.Text.Quoted
import ShareCheck.Uri

set_option autoImplicit false

namespace ShareCheck

inductive AccessFailure
  | connection
  | auth
  | operation
deriving DecidableEq, Repr

def AccessFailure.name : AccessFailure → String
  | connection => "connection"
  | auth => "auth"
  | operation => "operation"

inductive RequestFault
  | unnamed
  | address (e : UriError)
deriving DecidableEq, Repr

def RequestFault.text : RequestFault → String
  | unnamed => "failed to validate request: A non-empty name is required"
  | address e => "failed to build request: " ++ e.message

inductive ApiFailure
  | status (message reason : String) (code : Nat)
  | transport (message : String)
  | unsent (fault : RequestFault)
  | unreadable (message : String)
deriving DecidableEq, Repr

def ApiFailure.text : ApiFailure → String
  | status message reason code =>
    s!"ApiError: {message}: {reason} " ++
      s!"(ErrorResponse \x7b status: \"Failure\", message: " ++ Text.quoted message ++
      ", reason: " ++ Text.quoted reason ++ s!", code: {code} \x7d)"
  | transport message => "ServiceError: " ++ message
  | unsent fault => "Failed to build request: " ++ fault.text
  | unreadable message => "Error deserializing response: " ++ message

inductive Error
  | api (failure : ApiFailure)
  | setup (fixture message : String)
  | timeout (description : String) (after : Duration) (lastObserved : String)
  | verification (check message : String)
  | access (failure : AccessFailure) (endpoint message : String)
  | teardown (fixture message : String)
  | manifest (path message : String)
  | io (message : String)
  | internal (context message : String)
deriving DecidableEq, Repr

namespace Error

def unknownContext : String := "unknown"

def message : Error → String
  | api failure => "kubernetes error: " ++ failure.text
  | setup fixture message => s!"setup error for fixture {fixture}: {message}"
  | timeout description after lastObserved =>
    "timed out after " ++ after.text ++
      s!" waiting for {description} (last observed: {lastObserved})"
  | verification check message => s!"verification failed [{check}]: {message}"
  | access failure endpoint message =>
    failure.name ++ s!" failure accessing {endpoint}: {message}"
  | teardown fixture message => s!"teardown error for fixture {fixture}: {message}"
  | manifest path message => s!"manifest error [{path}]: {message}"
  | io message => s!"io error: {message}"
  | internal context message => s!"internal error [{context}]: {message}"

def accessFailure? : Error → Option AccessFailure
  | access failure .. => some failure
  | _ => none

def isTimeout : Error → Bool
  | timeout .. => true
  | _ => false

end Error

inductive Panic
  | text (message : String)
  | other
deriving DecidableEq, Repr

def Panic.message : Panic → String
  | text message => message
  | other => "unknown panic"

end ShareCheck
