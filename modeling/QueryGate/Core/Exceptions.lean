import QueryGate.Foundation.Checks
import QueryGate.Foundation.Text

/-! # Failures

The exception types the modelled paths raise, with their messages. A lookup that
Python would answer with a raw `KeyError` fails with that kind.
-/

namespace QueryGate

/-- The classes of `core/exceptions.py`, and the built-in ones, that are raised. -/
inductive ErrorKind where
  | queryValidation
  | policyViolation
  | configValidation
  | notFound
  | keyError
  | valueError
  | typeError
  | attributeError
  deriving DecidableEq, Repr

/-- A raised exception. -/
structure GateError where
  kind : ErrorKind
  message : String
  deriving DecidableEq, Repr

/-- A computation that may raise. -/
abbrev Gate := Except GateError

/-- `QueryValidationError(message)`. -/
def queryValidationError (message : String) : GateError :=
  ⟨.queryValidation, message⟩

/-- `PolicyViolationError(message)`. -/
def policyViolationError (message : String) : GateError :=
  ⟨.policyViolation, message⟩

/-- `ConfigValidationError(message)`. -/
def configValidationError (message : String) : GateError :=
  ⟨.configValidation, message⟩

/-- `KeyError(key)`. -/
def keyError (key : String) : GateError :=
  ⟨.keyError, Foundation.quoted key⟩

end QueryGate
