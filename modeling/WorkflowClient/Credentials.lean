import WorkflowClient.Frame

/-!
# Credentials

Credentials are texts by name, sent as they are when a connection opens. They are made from a key alone, from
entries in any order of which the last of equal names stays, or from a JSON object of texts.
-/

namespace WorkflowClient

/-- Texts by name, in ascending order of the names. -/
structure Credentials where
  entries : Dictionary String
  ascending : entries.Ascending

namespace Credentials

/-- Credentials with the given entries; of equal names the last one stays. -/
def ofList (entries : List (String × String)) : Credentials :=
  ⟨Dictionary.ofList entries, Dictionary.ascending_ofList entries⟩

/-- Credentials that hold a key alone. -/
def apiKey (key : String) : Credentials := ofList [("apiKey", key)]

/-- The key that a server accepts before it has been set up. -/
def initial : Credentials := apiKey "changeme"

instance : Inhabited Credentials := ⟨initial⟩

/-- The text of a name. -/
def get? (credentials : Credentials) (name : String) : Option String := credentials.entries.find? name

/-- The credentials that a JSON object of texts writes. -/
def parse (text : String) : Except Json.ParseError Credentials :=
  (Json.parseTexts text).map ofList

/-- Credentials as a value. -/
def body (credentials : Credentials) : Json :=
  .object (credentials.entries.map fun entry => (entry.1, .string entry.2))

/-- The frame that carries the credentials. -/
def frame (credentials : Credentials) : List UInt8 := Frame.encode .credentials credentials.body

end Credentials

end WorkflowClient
