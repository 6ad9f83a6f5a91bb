import WorkflowClient.Config

/-!
# Arguments of the command line

Arguments are read from left to right. An option with a value takes the next argument, which must not begin with a
dash unless it is a dash alone, or what follows an equals sign. Two dashes end the options. The common options
may stand before the command or behind it, and behind it they count; at one level none may be given
twice. The first thing that cannot be read decides, so a request for the version or for help is granted
if nothing before it was wrong. A value that stands apart from its option is judged late: when the next option of
its level is read or the level is complete, and a level is complete only after the command behind it.
-/

namespace WorkflowClient.CommandLine

/-- The common options that take a value, and the one of `run`. -/
inductive Setting where
  | host
  | port
  | apiKey
  | credentials
  | timeout
  | data
deriving DecidableEq, Repr

/-- The commands by name. -/
inductive CommandName where
  | auth
  | run
  | ext
deriving DecidableEq, Repr

/-- What the program is asked to do. -/
inductive Command where
  | auth
  | run (path : String) (data : Option String)
  | ext (name : String) (arguments : List String)
deriving DecidableEq, Repr

/-- The values of the common options. -/
structure Flags where
  host : Option String := none
  port : Option UInt16 := none
  apiKey : Option String := none
  credentials : Option String := none
  timeout : Option Binary64 := none
  pretty : Bool := false
deriving DecidableEq

/-- A command with the options given. -/
structure Invocation where
  flags : Flags
  command : Command
deriving DecidableEq

/-- Why there is no invocation: the arguments make none, or they ask about the program. -/
inductive Detour where
  | misuse
  | version
  | help
deriving DecidableEq, Repr

/-- What has been read at one level: before the command or behind it. A value that stands apart from its option waits
until it is judged. -/
structure Level where
  flags : Flags := {}
  data : Option String := none
  positionals : List String := []
  waiting : Option (Setting × String) := none

/-- The command that a word names. -/
def CommandName.ofWord? (word : String) : Option CommandName :=
  if word = "auth" then some .auth
  else if word = "run" then some .run
  else if word = "ext" then some .ext
  else none

/-- The option that a name with its dashes stands for. Only `run` has data. -/
def Setting.ofWord? (command : Option CommandName) (word : String) : Option Setting :=
  if word = "--host" then some .host
  else if word = "--port" then some .port
  else if word = "--api-key" then some .apiKey
  else if word = "--credentials" then some .credentials
  else if word = "--timeout" then some .timeout
  else if word = "--data" ∧ command = some .run then some .data
  else none

/-- A port: a sign or none, and decimal digits of a number of sixteen bits. -/
def port? (text : String) : Option UInt16 :=
  match Number.integer? text.toList with
  | some n =>
    if small : 0 ≤ n ∧ n.toNat < 65536 then some (UInt16.ofNatLT n.toNat small.2) else none
  | none => none

/-- Set what was not set before. -/
def setOnce {α : Type} (before : Option α) (value : Option α) : Except Detour (Option α) :=
  match before, value with
  | none, some value => .ok (some value)
  | _, _ => .error .misuse

/-- Give an option its value. -/
def Level.give (level : Level) (setting : Setting) (value : String) : Except Detour Level :=
  let flags := level.flags
  match setting with
  | .host => (setOnce flags.host (some value)).map fun host => { level with flags := { flags with host } }
  | .port => (setOnce flags.port (port? value)).map fun port => { level with flags := { flags with port } }
  | .apiKey => (setOnce flags.apiKey (some value)).map fun apiKey => { level with flags := { flags with apiKey } }
  | .credentials =>
    (setOnce flags.credentials (some value)).map fun credentials =>
      { level with flags := { flags with credentials } }
  | .timeout =>
    (setOnce flags.timeout (Binary64.ofText? value.toList)).map fun timeout =>
      { level with flags := { flags with timeout } }
  | .data => (setOnce level.data (some value)).map fun data => { level with data }

/-- Judge the value that waits, if one does. -/
def Level.settle (level : Level) : Except Detour Level :=
  match level.waiting with
  | some (setting, value) => { level with waiting := none }.give setting value
  | none => .ok level

/-- Ask for the indented form. -/
def Level.prettify (level : Level) : Except Detour Level :=
  if level.flags.pretty then .error .misuse else .ok { level with flags := { level.flags with pretty := true } }

/-- The common options before the command, unless they were given behind it too. -/
def Flags.under (inner outer : Flags) : Flags where
  host := inner.host <|> outer.host
  port := inner.port <|> outer.port
  apiKey := inner.apiKey <|> outer.apiKey
  credentials := inner.credentials <|> outer.credentials
  timeout := inner.timeout <|> outer.timeout
  pretty := inner.pretty || outer.pretty

/-- What an argument is, as long as options are read. -/
inductive Argument where
  | endOfOptions
  | long (name : String) (value : Option String)
  | short (letter : Char)
  | plain

/-- A dash alone is plain; two dashes end the options; an equals sign parts a long option from its value. -/
def Argument.ofText (text : String) : Argument :=
  match text.toList with
  | ['-', '-'] => .endOfOptions
  | '-' :: '-' :: rest =>
    match rest.span (· ≠ '=') with
    | (name, '=' :: value) => .long (String.ofList ('-' :: '-' :: name)) (some (String.ofList value))
    | (name, _) => .long (String.ofList ('-' :: '-' :: name)) none
  | '-' :: letter :: _ => .short letter
  | _ => .plain

/-- May the argument be the value of the option before it? -/
def Argument.isPlain : Argument → Bool
  | .plain => true
  | _ => false

/-- What a level leaves: what it read, and the command that ended it with the arguments behind that. -/
abbrev Scanned := Level × Option (CommandName × List String)

/-- What a word that asks for help leads to. Every argument behind it is a topic, also one that begins with a
dash. A topic is a command or help itself, and neither has topics of its own. -/
def Detour.ofTopics : List String → Detour
  | [] => .help
  | [topic] => if topic = "help" ∨ (CommandName.ofWord? topic).isSome then .help else .misuse
  | _ => .misuse

/-- Does the command take one more argument, behind those that it has? -/
def CommandName.takesMore (name : CommandName) (taken : List String) : Bool :=
  match name with
  | .auth => false
  | .run => taken.isEmpty
  | .ext => true

/-- Give the command one of its own arguments. -/
def Level.take (level : Level) (name : CommandName) (text : String) : Except Detour Level :=
  if name.takesMore level.positionals then .ok { level with positionals := level.positionals ++ [text] }
  else .error .misuse

/-- What a word before the command is, with the arguments behind it: it names the command or asks for help. -/
def commandWord (word : String) (rest : List String) : Except Detour CommandName :=
  if word = "help" then .error (.ofTopics rest)
  else
    match CommandName.ofWord? word with
    | some name => .ok name
    | none => .error .misuse

/-- The arguments behind two dashes. None of them names a command. -/
def afterOptions (command : Option CommandName) (level : Level) (texts : List String) : Except Detour Scanned :=
  match command with
  | some name => do
    let level ← texts.foldlM (fun level text => level.take name text) level
    return (level, none)
  | none => if texts.isEmpty then .ok (level, none) else .error .misuse

/-- What a letter behind a dash asks for. Only before the command is the version asked for. -/
def Detour.ofLetter (command : Option CommandName) (letter : Char) : Detour :=
  if letter = 'h' then .help
  else if letter = 'V' ∧ command.isNone then .version
  else .misuse

/-- Read the arguments of one level. The value that waits at its end is still to be judged. -/
def scan (command : Option CommandName) (level : Level) : List String → Except Detour Scanned
  | [] => .ok (level, none)
  | text :: rest =>
    match Argument.ofText text, command with
    | .plain, none => (commandWord text rest).map fun name => (level, some (name, rest))
    | .plain, some name => (level.take name text).bind (scan command · rest)
    | .endOfOptions, _ => afterOptions command level rest
    | .short letter, _ => level.settle.bind fun _ => .error (.ofLetter command letter)
    | .long name (some value), _ =>
      match Setting.ofWord? command name with
      | some setting => level.settle.bind fun level => (level.give setting value).bind (scan command · rest)
      | none => .error .misuse
    | .long name none, _ =>
      level.settle.bind fun level =>
        if name = "--help" then .error .help
        else if name = "--version" ∧ command.isNone then .error .version
        else if name = "--pretty" then level.prettify.bind (scan command · rest)
        else
          match Setting.ofWord? command name, rest with
          | some setting, value :: rest =>
            if (Argument.ofText value).isPlain then
              scan command { level with waiting := some (setting, value) } rest
            else .error .misuse
          | _, _ => .error .misuse

/-- The command with the arguments of its level. -/
def commandOf (name : CommandName) (level : Level) : Except Detour Command :=
  match name, level.positionals with
  | .auth, [] => .ok .auth
  | .run, [path] => .ok (.run path level.data)
  | .ext, extension :: arguments => .ok (.ext extension arguments)
  | _, _ => .error .misuse

/-- The invocation that the arguments make. -/
def Invocation.ofArguments (arguments : List String) : Except Detour Invocation :=
  match scan none {} arguments with
  | .error detour => .error detour
  | .ok (_, none) => .error .misuse
  | .ok (outer, some (name, rest)) => do
    let (inner, _) ← scan (some name) {} rest
    let inner ← inner.settle
    let outer ← outer.settle
    let command ← commandOf name inner
    return ⟨inner.flags.under outer.flags, command⟩

end WorkflowClient.CommandLine
