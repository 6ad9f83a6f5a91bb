import WorkflowClient.Json.Basic

/-!
# Loose truth

Null, false, zero of either sign, the empty text, the empty list and the empty object count as untrue, and
everything else as true. A server accepts credentials with an object whose status counts as true.
-/

namespace WorkflowClient.Json

/-- A number other than zero. -/
def Number.isTruthy : Number → Bool
  | .integer value => value != 0
  | .float value => !value.isZero

/-- Does the value count as true? -/
def isTruthy : Json → Bool
  | .null => false
  | .bool value => value
  | .number value => value.isTruthy
  | .string value => value != ""
  | .list items => !items.isEmpty
  | .object members => !members.isEmpty

/-- Does a reply to credentials accept them? -/
def acceptsCredentials (reply : Json) : Bool :=
  match reply.get? "status" with
  | some status => status.isTruthy
  | none => false

/-- Only an object with a status accepts, and its status has to count as true. -/
theorem acceptsCredentials_iff (reply : Json) :
    reply.acceptsCredentials = true ↔
      ∃ members status, reply = .object members ∧ Dictionary.find? "status" members = some status ∧
        status.isTruthy = true := by
  cases reply with
  | object members =>
    cases found : Dictionary.find? "status" members <;>
      simp [acceptsCredentials, get?, members?, found]
  | _ => simp [acceptsCredentials, get?, members?]

end WorkflowClient.Json
