import WorkflowClient.Frame

/-!
# Query envelopes

A workflow query is an object with the path of the workflow and the caller's fields. The fields are written after
the path, so a field named `path` takes its place.
-/

namespace WorkflowClient

/-- The body of a workflow query. -/
structure Envelope where
  fields : Dictionary Json

namespace Envelope

/-- The envelope for a path and the caller's fields. -/
def make (path : String) (data : Option (Dictionary Json)) : Envelope :=
  ⟨Dictionary.insertAll [("path", .string path)] (data.getD [])⟩

/-- The path that the server will see, if it is a text. -/
def path? (envelope : Envelope) : Option String := (envelope.fields.find? "path").bind Json.string?

/-- The envelope as a value. -/
def body (envelope : Envelope) : Json := .object envelope.fields

/-- The frame that carries the envelope. -/
def frame (envelope : Envelope) : List UInt8 := Frame.encode .query envelope.body

/-- The keys ascend, whatever the caller's fields are. -/
theorem make_ascending (path : String) (data : Option (Dictionary Json)) :
    (make path data).fields.Ascending :=
  Dictionary.Ascending.insertAll (by simp [Dictionary.Ascending, Dictionary.keys]) _

end Envelope

end WorkflowClient
