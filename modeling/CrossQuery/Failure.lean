import CrossQuery.Text.Numeral

/-!
# Failures

Why a query could not be compiled or run. A failure is a cause; its wording is in one function,
and only failures of the connection are worth another attempt.
-/

set_option autoImplicit false

namespace CrossQuery

/-- What kind of thing a reference names. -/
inductive ReferenceKind where
  | database
  | table
  | field
  | driver
deriving DecidableEq

def ReferenceKind.text : ReferenceKind → String
  | .database => "database"
  | .table => "table"
  | .field => "field"
  | .driver => "driver"

/-- Who stopped a query that was running. -/
inductive CancelCause where
  | caller
  /-- The time allowed for the query ran out. -/
  | timeout (milliseconds : Nat)
  /-- The store gave up the statement by itself. -/
  | backend (message : String)
deriving DecidableEq

def CancelCause.text : CancelCause → String
  | .caller => "cancelled by caller"
  | .timeout milliseconds =>
    "timed out after " ++ String.ofList (Text.writeNat milliseconds) ++ "ms"
  | .backend message => "cancelled by backend: " ++ message

inductive Failure where
  /-- A reference names nothing in the catalog. -/
  | unknownReference (kind : ReferenceKind) (reference : String)
  /-- The target cannot express a clause of the query. -/
  | unsupported (clause reason : String)
  /-- The query is malformed in itself. -/
  | invalidQuery (message : String)
  /-- The store could not be reached for now. -/
  | connection (message : String)
  /-- The store refused the statement, in its own words. -/
  | execution (message : String)
  | cancelled (cause : CancelCause)
deriving DecidableEq

/-- The kinds of failures that a caller tells apart. -/
inductive FailureKind where
  | unknownReference
  | unsupportedOperation
  | invalidQuery
  | connectionError
  | executionError
  | cancelled
deriving DecidableEq

def FailureKind.name : FailureKind → String
  | .unknownReference => "unknown_reference"
  | .unsupportedOperation => "unsupported_operation"
  | .invalidQuery => "invalid_query"
  | .connectionError => "connection_error"
  | .executionError => "execution_error"
  | .cancelled => "cancelled"

def FailureKind.title : FailureKind → String
  | .unknownReference => "Unknown Reference"
  | .unsupportedOperation => "Unsupported Operation"
  | .invalidQuery => "Invalid Query"
  | .connectionError => "Connection Error"
  | .executionError => "Execution Error"
  | .cancelled => "Cancelled"

namespace Failure

def kind : Failure → FailureKind
  | .unknownReference _ _ => .unknownReference
  | .unsupported _ _ => .unsupportedOperation
  | .invalidQuery _ => .invalidQuery
  | .connection _ => .connectionError
  | .execution _ => .executionError
  | .cancelled _ => .cancelled

def message : Failure → String
  | .unknownReference kind reference => "unknown " ++ kind.text ++ ": " ++ reference
  | .unsupported clause reason => "unsupported operation in `" ++ clause ++ "`: " ++ reason
  | .invalidQuery message => "invalid query: " ++ message
  | .connection message => "connection error: " ++ message
  | .execution message => message
  | .cancelled cause => "query " ++ cause.text

def isRetryable : Failure → Bool
  | .connection _ => true
  | _ => false

end Failure

/-- A name or identifier that a catalog does not hold. -/
structure NotFound where
  kind : ReferenceKind
  name : String
deriving DecidableEq

def NotFound.message (missing : NotFound) : String :=
  missing.kind.text ++ " not found: " ++ missing.name

def NotFound.failure (missing : NotFound) : Failure :=
  .unknownReference missing.kind missing.name

end CrossQuery
