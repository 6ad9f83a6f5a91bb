import WorkflowClient.Json.Basic

/-!
# Extensions

An extension is a command that runs without a server: it receives arguments and a shared context, returns a text and
may leave values in the context. A registry holds extensions by name; one registered under a name that is
taken replaces the other. `hello` is built in.
-/

namespace WorkflowClient

/-- The values that extensions share, by name. -/
abbrev Context := Dictionary Json

/-- A command with a name. -/
structure Extension where
  name : String
  run : List String → Context → String × Context

namespace Extension

/-- The name under which `hello` leaves its mark. -/
def helloMark : String := "custom_hello_var"

/-- Whom `hello` greets: the first argument, or the world if it is missing or empty. -/
def greeted : List String → String
  | [] => "World"
  | name :: _ => if name = "" then "World" else name

/-- Greet the first argument and leave a mark in the context. -/
def hello : Extension where
  name := "hello"
  run arguments context :=
    ("Hello, " ++ greeted arguments ++ "!", context.insert helloMark (.string "hello"))

/-- Extensions by name, in ascending order of the names. -/
structure Registry where
  commands : Dictionary Extension
  ascending : commands.Ascending

namespace Registry

/-- A registry without extensions. -/
def empty : Registry := ⟨[], Dictionary.ascending_nil⟩

/-- Register an extension under its name. -/
def register (registry : Registry) (extension : Extension) : Registry :=
  ⟨registry.commands.insert extension.name extension, registry.ascending.insert _ _⟩

/-- The registry of the built-in extensions. -/
def builtin : Registry := empty.register hello

/-- The extension of a name. -/
def find? (registry : Registry) (name : String) : Option Extension := registry.commands.find? name

/-- The names in ascending order. -/
def names (registry : Registry) : List String := registry.commands.keys

/-- Run the extension of a name, if there is one. The context is returned in any case. -/
def run (registry : Registry) (name : String) (arguments : List String) (context : Context) :
    Option String × Context :=
  match registry.find? name with
  | some extension =>
    let (output, context) := extension.run arguments context
    (some output, context)
  | none => (none, context)

/-- What was registered last under a name is found. -/
theorem find?_register_self (registry : Registry) (extension : Extension) :
    (registry.register extension).find? extension.name = some extension :=
  Dictionary.find?_insert_self _ _ _

/-- Registering leaves the extensions of all other names. -/
theorem find?_register_of_ne (registry : Registry) (extension : Extension) {name : String}
    (different : name ≠ extension.name) : (registry.register extension).find? name = registry.find? name :=
  Dictionary.find?_insert_of_ne different _ _

/-- The names after registering are the names before it and the extension's own. -/
theorem mem_names_register {registry : Registry} {extension : Extension} {name : String} :
    name ∈ (registry.register extension).names ↔ name = extension.name ∨ name ∈ registry.names :=
  Dictionary.mem_keys_insert

end Registry

end Extension

end WorkflowClient
