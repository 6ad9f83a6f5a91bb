import WorkflowClient.CommandLine.Settings
import WorkflowClient.Proofs.EncodedText

/-!
# Which source settles a setting

A configuration has four fields and nine sources that may set them: four variables of the
environment and five flags. Each field is settled by its first source that is set, whatever the
other fields are settled by. Four of the sources are checked in a fixed order, also where another
source overrides them, and the first check that fails refuses the whole configuration.

What a source has to be is told here by the value that it writes: a port by its digits, a timeout as
the duration that the seconds read from it come to, and credentials as the reader of objects of texts
reads them. The checks are then told by these values alone, and the outcome of checks made in order
is told once for any chain of them.
-/

namespace WorkflowClient

/-- A variable is a text exactly if its bytes are the encoding of one. -/
theorem Environment.text?_eq_some_iff {setting : Option (List UInt8)} {text : String} :
    Environment.text? setting = some text ↔ setting = some (Text.Utf8.encode text.toList) := by
  cases setting with
  | none => simp [Environment.text?]
  | some bytes =>
    have decoded : (Text.Utf8.decodeString bytes).toOption = some text ↔
        Text.Utf8.decode bytes = .ok text.toList := by
      rw [Text.Utf8.decodeString]
      cases Text.Utf8.decode bytes with
      | error fault => simp [Except.map, Except.toOption]
      | ok chars =>
        simp only [Except.map, Except.toOption, Option.some.injEq, Except.ok.injEq]
        constructor
        · rintro rfl
          exact String.toList_ofList.symm
        · rintro rfl
          exact String.ofList_toList
    rw [Environment.text?, Option.bind_some, decoded, Text.Utf8.decode_eq_ok_iff, Option.some.injEq]

namespace Config

/-- The text writes the port: blanks at the ends, a plus sign or none, and decimal digits. -/
def WritesPort (text : String) (port : UInt16) : Prop :=
  ∃ sign digits, Text.trim text.toList = sign ++ digits ∧ (sign = [] ∨ sign = ['+']) ∧
    Number.natural? digits = some port.toNat

/-- The number of seconds gives the timeout: the nearest duration, which is longer than nothing. -/
def GivesTimeout (seconds : Binary64) (timeout : Duration) : Prop :=
  Duration.nearest? seconds = some timeout ∧ 0 < timeout.nanoseconds

/-- The text writes the timeout: blanks at the ends, and a number of seconds that gives it. -/
def WritesTimeout (text : String) (timeout : Duration) : Prop :=
  ∃ seconds, Binary64.ofText? (Text.trim text.toList) = some seconds ∧ GivesTimeout seconds timeout

/-- The text writes the credentials: it is read as an object of texts, and these are its entries. -/
def WritesCredentials (text : String) (credentials : Credentials) : Prop :=
  Credentials.parse text = .ok credentials

/-- A number is taken for a port exactly if it has sixteen bits. -/
theorem port_of_number {number : Option Nat} {port : UInt16} :
    (match number with
      | some n => if small : n < 65536 then some (UInt16.ofNatLT n small) else none
      | none => none) = some port ↔ number = some port.toNat := by
  cases number with
  | none => simp
  | some n =>
    have small : port.toNat < 65536 := port.toNat_lt
    simp only [Option.some.injEq]
    split
    · next fits => rw [Option.some.injEq, ← UInt16.toNat_inj, UInt16.toNat_ofNatLT]
    · next tooGreat =>
      simp only [reduceCtorEq, false_iff]
      omega

/-- Behind a plus sign a port is read from the digits. -/
theorem port?_signed {digits : List Char} {port : UInt16} :
    port? ('+' :: digits) = some port ↔ Number.natural? digits = some port.toNat :=
  port_of_number

/-- Without a sign all of the text has to be digits. -/
theorem port?_unsigned {text : List Char} {port : UInt16} (unsigned : ∀ rest, text ≠ '+' :: rest) :
    port? text = some port ↔ Number.natural? text = some port.toNat := by
  rw [port?]
  · exact port_of_number
  · exact unsigned

/-- The port that a text writes is the one that is read behind its blanks. -/
theorem writesPort_iff {text : String} {port : UInt16} :
    WritesPort text port ↔ port? (Text.trim text.toList) = some port := by
  rw [WritesPort]
  generalize Text.trim text.toList = visible
  constructor
  · rintro ⟨sign, digits, rfl, rfl | rfl, written⟩
    · refine (port?_unsigned ?_).mpr written
      -- A plus sign is no digit.
      rintro rest rfl
      simp [Number.natural?] at written
    · exact port?_signed.mpr written
  · intro read
    by_cases signed : ∃ rest, visible = '+' :: rest
    · obtain ⟨rest, rfl⟩ := signed
      exact ⟨['+'], rest, rfl, .inr rfl, port?_signed.mp read⟩
    · have unsigned : ∀ rest, visible ≠ '+' :: rest := not_exists.mp signed
      exact ⟨[], visible, rfl, .inl rfl, (port?_unsigned unsigned).mp read⟩

/-- A port is read as what the text writes, and any other text is refused as it stands. -/
theorem portOf_writes (text : String) :
    (∃ port, WritesPort text port ∧ portOf text = .ok port) ∨
      (∀ port, ¬ WritesPort text port) ∧ portOf text = .error (.invalidPort text) := by
  simp only [writesPort_iff, portOf]
  cases port? (Text.trim text.toList) with
  | some port => exact .inl ⟨port, rfl, rfl⟩
  | none => exact .inr ⟨nofun, rfl⟩

/-- A number of seconds is taken for the timeout that it gives, and any other number is refused as
it is displayed. -/
theorem timeoutOf_gives (seconds : Binary64) :
    (∃ timeout, GivesTimeout seconds timeout ∧ timeoutOf seconds = .ok timeout) ∨
      (∀ timeout, ¬ GivesTimeout seconds timeout) ∧
        timeoutOf seconds = .error (.invalidTimeout seconds.display) := by
  simp only [GivesTimeout, timeoutOf]
  cases Duration.nearest? seconds with
  | none => exact .inr ⟨nofun, rfl⟩
  | some timeout =>
    by_cases nothing : timeout.nanoseconds = 0
    · refine .inr ⟨?_, by simp only [nothing, if_true]⟩
      rintro _ ⟨⟨⟩, positive⟩
      omega
    · exact .inl ⟨timeout, ⟨rfl, by omega⟩, by simp only [nothing, if_false]⟩

end Config

section

variable {Check ε α β : Type} {fails : Check → ε → Prop}

/-- The error is that of the first of the checks that fails: all checks before it pass. -/
def FirstFailure (fails : Check → ε → Prop) (checks : List Check) (error : ε) : Prop :=
  ∃ passed check later, checks = passed ++ check :: later ∧ fails check error ∧
    ∀ earlier ∈ passed, ∀ other, ¬ fails earlier other

/-- If every check names one error at most, there is one first failure at most. -/
theorem FirstFailure.unique {checks : List Check} {error other : ε}
    (single : ∀ check left right, fails check left → fails check right → left = right)
    (first : FirstFailure fails checks error) (second : FirstFailure fails checks other) :
    error = other := by
  obtain ⟨passed, check, later, rfl, failed, before⟩ := first
  obtain ⟨passedOther, checkOther, laterOther, same, failedOther, beforeOther⟩ := second
  -- If one of the two checks came before the other, it would have passed.
  rcases List.append_eq_append_iff.mp same with ⟨between, split, rest⟩ | ⟨between, split, rest⟩
  · cases between with
    | nil =>
      obtain ⟨rfl, -⟩ := List.cons.inj rest
      exact single check error other failed failedOther
    | cons next others =>
      obtain ⟨rfl, -⟩ := List.cons.inj rest
      exact absurd failed (beforeOther check (by simp [split]) error)
  · cases between with
    | nil =>
      obtain ⟨rfl, -⟩ := List.cons.inj rest
      exact single checkOther error other failed failedOther
    | cons next others =>
      obtain ⟨rfl, -⟩ := List.cons.inj rest
      exact absurd failedOther (before checkOther (by simp [split]) other)

/-- What comes out of checks made in order: an error is that of the first check that fails, and a
value comes out if all pass, with what it has to satisfy. -/
def Decided (fails : Check → ε → Prop) (checks : List Check) (holds : α → Prop) :
    Except ε α → Prop
  | .ok value => (∀ check ∈ checks, ∀ error, ¬ fails check error) ∧ holds value
  | .error error => FirstFailure fails checks error

/-- Checks may be made one behind the other. -/
theorem Decided.bind {checks others : List Check} {holds : α → Prop} {ends : β → Prop}
    {first : Except ε α} {next : α → Except ε β} (decided : Decided fails checks holds first)
    (continued : ∀ value, holds value → Decided fails others ends (next value)) :
    Decided fails (checks ++ others) ends (first >>= next) := by
  cases first with
  | error error =>
    obtain ⟨passed, check, later, rfl, failed, before⟩ := decided
    exact ⟨passed, check, later ++ others, by simp, failed, before⟩
  | ok value =>
    obtain ⟨passes, satisfied⟩ := decided
    have rest := continued value satisfied
    change Decided fails (checks ++ others) ends (next value)
    cases made : next value with
    | error error =>
      rw [made] at rest
      obtain ⟨passed, check, later, rfl, failed, before⟩ := rest
      refine ⟨checks ++ passed, check, later, by simp, failed, ?_⟩
      intro earlier present
      rcases List.mem_append.mp present with made | made
      · exact passes earlier made
      · exact before earlier made
    | ok outcome =>
      rw [made] at rest
      refine ⟨?_, rest.2⟩
      intro check present
      rcases List.mem_append.mp present with made | made
      · exact passes check made
      · exact rest.1 check made

/-- A check that passes lets its value through. -/
theorem Decided.passed {check : Check} {holds : α → Prop} {value : α}
    (passes : ∀ error, ¬ fails check error) (satisfied : holds value) :
    Decided fails [check] holds (.ok value) := by
  refine ⟨?_, satisfied⟩
  intro made present
  obtain rfl := List.mem_singleton.mp present
  exact passes

/-- A check that fails decides alone. -/
theorem Decided.failed {check : Check} {holds : α → Prop} {error : ε} (failed : fails check error) :
    Decided fails [check] holds (.error error) :=
  ⟨[], check, [], rfl, failed, nofun⟩

/-- A value that satisfies what it has to comes out of no checks. -/
theorem Decided.pure {holds : α → Prop} {value : α} (satisfied : holds value) :
    Decided fails [] holds (.ok value) :=
  ⟨nofun, satisfied⟩

end

namespace CommandLine

open Config

/-- What a field has to be by the first of its sources that is set. A source that is set asks
something of the value. -/
def Settled {α : Type} (value : α) : List (Option (α → Prop)) → Prop
  | [] => False
  | none :: others => Settled value others
  | some asks :: _ => asks value

/-- A flag goes before the sources that settled the field so far. -/
theorem Settled.override {α : Type} {before : α} {sources : List (Option (α → Prop))}
    (settled : Settled before sources) (flag : Option α) :
    Settled (flag.getD before) (flag.map Eq :: sources) := by
  cases flag with
  | none => exact settled
  | some value => exact rfl

/-- A source that is set asks for one value. -/
def AsksOne {α : Type} (source : Option (α → Prop)) : Prop :=
  ∀ asks ∈ source, ∀ left right, asks left → asks right → left = right

/-- A source asks for one value if whatever it may be set to does. -/
theorem AsksOne.map {α γ : Type} {asks : γ → α → Prop} (source : Option γ)
    (single : ∀ content left right, asks content left → asks content right → left = right) :
    AsksOne (source.map asks) := by
  rintro _ present
  obtain ⟨content, -, rfl⟩ := Option.map_eq_some_iff.mp present
  exact single content

/-- A source that gives the value itself asks for one value. -/
theorem AsksOne.given {α : Type} (source : Option α) : AsksOne (source.map Eq) :=
  AsksOne.map source fun _ _ _ left right => left.symm.trans right

/-- Sources that ask for one value each settle a field on one value. -/
theorem Settled.unique {α : Type} {value other : α} {sources : List (Option (α → Prop))}
    (single : ∀ source ∈ sources, AsksOne source) (settled : Settled value sources)
    (settledOther : Settled other sources) : value = other := by
  induction sources with
  | nil => exact settled.elim
  | cons source others inductionHypothesis =>
    obtain ⟨first, later⟩ := List.forall_mem_cons.mp single
    cases source with
    | none => exact inductionHypothesis later settled settledOther
    | some asks => exact first asks rfl value other settled settledOther

/-- Every field of the configuration is settled by its sources: the flags, the variables, the
default. -/
structure Resolved (environment : Environment) (flags : Flags) (config : Config) : Prop where
  host : Settled config.host
    [flags.host.map Eq, (Environment.text? environment.host).map Eq, some (Eq "127.0.0.1")]
  port : Settled config.port
    [flags.port.map Eq, (Environment.text? environment.port).map WritesPort, some (Eq 6001)]
  timeout : Settled config.timeout
    [flags.timeout.map GivesTimeout, (Environment.text? environment.timeout).map WritesTimeout,
      some (Eq (.ofSeconds 2))]
  credentials : Settled config.credentials
    [flags.credentials.map WritesCredentials, (flags.apiKey.map Credentials.apiKey).map Eq,
      ((Environment.text? environment.apiKey).map Credentials.apiKey).map Eq,
      some (Eq (.apiKey "changeme"))]

/-- The sources settle a configuration as a whole. -/
theorem Resolved.unique {environment : Environment} {flags : Flags} {config other : Config}
    (resolved : Resolved environment flags config)
    (resolvedOther : Resolved environment flags other) :
    config = other := by
  have port (source : Option String) : AsksOne (source.map WritesPort) :=
    AsksOne.map source fun _ _ _ left right =>
      Option.some.inj ((writesPort_iff.mp left).symm.trans (writesPort_iff.mp right))
  have gives (source : Option Binary64) : AsksOne (source.map GivesTimeout) :=
    AsksOne.map source fun _ _ _ left right => Option.some.inj (left.1.symm.trans right.1)
  have timeout (source : Option String) : AsksOne (source.map WritesTimeout) := by
    refine AsksOne.map source ?_
    rintro text left right ⟨seconds, read, given⟩ ⟨others, readOther, givenOther⟩
    obtain rfl : seconds = others := Option.some.inj (read.symm.trans readOther)
    exact gives (some seconds) _ rfl left right given givenOther
  have credentials (source : Option String) : AsksOne (source.map WritesCredentials) :=
    AsksOne.map source fun _ _ _ left right => Except.ok.inj (left.symm.trans right)
  have default {α : Type} (value : α) : AsksOne (some (Eq value)) := AsksOne.given (some value)
  have sameHost : config.host = other.host := by
    refine Settled.unique ?_ resolved.host resolvedOther.host
    simp only [List.forall_mem_cons]
    exact ⟨.given _, .given _, default _, nofun⟩
  have samePort : config.port = other.port := by
    refine Settled.unique ?_ resolved.port resolvedOther.port
    simp only [List.forall_mem_cons]
    exact ⟨.given _, port _, default _, nofun⟩
  have sameTimeout : config.timeout = other.timeout := by
    refine Settled.unique ?_ resolved.timeout resolvedOther.timeout
    simp only [List.forall_mem_cons]
    exact ⟨gives _, timeout _, default _, nofun⟩
  have sameCredentials : config.credentials = other.credentials := by
    refine Settled.unique ?_ resolved.credentials resolvedOther.credentials
    simp only [List.forall_mem_cons]
    exact ⟨credentials _, .given _, .given _, default _, nofun⟩
  obtain ⟨host, port, credentials, timeout⟩ := config
  subst sameHost samePort sameTimeout sameCredentials
  rfl

/-- The checks on the sources. -/
inductive Check where
  | portVariable
  | timeoutVariable
  | credentialsFlag
  | timeoutFlag

/-- The checks in the order in which they are made. -/
def Check.inOrder : List Check := [.portVariable, .timeoutVariable, .credentialsFlag, .timeoutFlag]

/-- The check fails with the error: its source is set and is not what it has to be. -/
inductive Check.Fails (environment : Environment) (flags : Flags) : Check → SetupError → Prop
  | port {text : String} (set : Environment.text? environment.port = some text)
      (invalid : ∀ port, ¬ WritesPort text port) :
      Fails environment flags .portVariable (.environment (.invalidPort text))
  | noNumber {text : String} (set : Environment.text? environment.timeout = some text)
      (invalid : Binary64.ofText? (Text.trim text.toList) = none) :
      Fails environment flags .timeoutVariable (.environment (.invalidTimeout text))
  | noTimeout {text : String} {seconds : Binary64}
      (set : Environment.text? environment.timeout = some text)
      (number : Binary64.ofText? (Text.trim text.toList) = some seconds)
      (invalid : ∀ timeout, ¬ GivesTimeout seconds timeout) :
      Fails environment flags .timeoutVariable (.environment (.invalidTimeout seconds.display))
  | credentials {text : String} {error : Json.ParseError} (set : flags.credentials = some text)
      (refused : Credentials.parse text = .error error) :
      Fails environment flags .credentialsFlag (.credentials (.invalidCredentials error))
  | timeout {seconds : Binary64} (set : flags.timeout = some seconds)
      (invalid : ∀ timeout, ¬ GivesTimeout seconds timeout) :
      Fails environment flags .timeoutFlag (.timeout (.invalidTimeout seconds.display))

section

variable (environment : Environment) (flags : Flags)

/-- The variable of the port is judged, or the port stays the default. -/
theorem portVariable_decided :
    Decided (Check.Fails environment flags) [.portVariable]
      (fun port => Settled port
        [(Environment.text? environment.port).map WritesPort, some (Eq 6001)])
      ((setBy portOf (Environment.text? environment.port) initial.port).mapError
        SetupError.environment) := by
  cases set : Environment.text? environment.port with
  | none =>
    refine .passed ?_ rfl
    intro error failed
    cases failed with
    | port setAnyway => exact nomatch set.symm.trans setAnyway
  | some text =>
    rw [setBy]
    rcases portOf_writes text with ⟨port, writes, read⟩ | ⟨invalid, refused⟩
    · rw [read]
      refine .passed ?_ writes
      intro error failed
      cases failed with
      | port same invalid =>
        obtain rfl := Option.some.inj (set.symm.trans same)
        exact invalid port writes
    · rw [refused]
      exact .failed (.port set invalid)

/-- The variable of the timeout is judged, or the timeout stays the default. -/
theorem timeoutVariable_decided :
    Decided (Check.Fails environment flags) [.timeoutVariable]
      (fun timeout => Settled timeout
        [(Environment.text? environment.timeout).map WritesTimeout, some (Eq (.ofSeconds 2))])
      ((setBy timeoutOfText (Environment.text? environment.timeout) initial.timeout).mapError
        SetupError.environment) := by
  cases set : Environment.text? environment.timeout with
  | none =>
    refine .passed ?_ rfl
    intro error failed
    cases failed with
    | noNumber setAnyway => exact nomatch set.symm.trans setAnyway
    | noTimeout setAnyway => exact nomatch set.symm.trans setAnyway
  | some text =>
    rw [setBy, timeoutOfText]
    cases number : Binary64.ofText? (Text.trim text.toList) with
    | none => exact .failed (.noNumber set number)
    | some seconds =>
      simp only
      rcases timeoutOf_gives seconds with ⟨timeout, gives, taken⟩ | ⟨invalid, refused⟩
      · rw [taken]
        refine .passed ?_ ⟨seconds, number, gives⟩
        intro error failed
        cases failed with
        | noNumber same invalid =>
          obtain rfl := Option.some.inj (set.symm.trans same)
          exact nomatch number.symm.trans invalid
        | noTimeout same numberSame invalid =>
          obtain rfl := Option.some.inj (set.symm.trans same)
          obtain rfl := Option.some.inj (number.symm.trans numberSame)
          exact invalid timeout gives
      · rw [refused]
        exact .failed (.noTimeout set number invalid)

/-- The credentials of the flags are judged, or else those of a key alone, or those before. -/
theorem credentialsFlag_decided {before : Credentials}
    {sources : List (Option (Credentials → Prop))} (settled : Settled before sources) :
    Decided (Check.Fails environment flags) [.credentialsFlag]
      (fun credentials => Settled credentials
        (flags.credentials.map WritesCredentials :: (flags.apiKey.map Credentials.apiKey).map Eq ::
          sources))
      (CommandLine.credentialsOf flags before) := by
  rw [CommandLine.credentialsOf]
  cases set : flags.credentials with
  | none =>
    refine .passed ?_ (settled.override (flags.apiKey.map Credentials.apiKey))
    intro error failed
    cases failed with
    | credentials setAnyway => exact nomatch set.symm.trans setAnyway
  | some text =>
    simp only [Config.credentialsOf]
    cases read : Credentials.parse text with
    | ok credentials =>
      refine .passed ?_ read
      intro error failed
      cases failed with
      | credentials same refused =>
        obtain rfl := Option.some.inj (set.symm.trans same)
        exact nomatch read.symm.trans refused
    | error error => exact .failed (.credentials set read)

/-- The timeout of the flags is judged, or the timeout stays what it was. -/
theorem timeoutFlag_decided {before : Duration} {sources : List (Option (Duration → Prop))}
    (settled : Settled before sources) :
    Decided (Check.Fails environment flags) [.timeoutFlag]
      (fun timeout => Settled timeout (flags.timeout.map GivesTimeout :: sources))
      (CommandLine.timeoutOf flags before) := by
  rw [CommandLine.timeoutOf]
  cases set : flags.timeout with
  | none =>
    refine .passed ?_ settled
    intro error failed
    cases failed with
    | timeout setAnyway => exact nomatch set.symm.trans setAnyway
  | some seconds =>
    simp only
    rcases timeoutOf_gives seconds with ⟨timeout, gives, taken⟩ | ⟨invalid, refused⟩
    · rw [taken]
      refine .passed ?_ gives
      intro error failed
      cases failed with
      | timeout same invalid =>
        obtain rfl := Option.some.inj (set.symm.trans same)
        exact invalid timeout gives
    · rw [refused]
      exact .failed (.timeout set invalid)

/-- Renaming the error of a chain renames the errors of its parts. -/
theorem mapError_bind {ε δ α β : Type} (rename : ε → δ) (first : Except ε α)
    (next : α → Except ε β) :
    (first >>= next).mapError rename =
      first.mapError rename >>= fun value => (next value).mapError rename := by
  cases first <;> rfl

/-- The environment is judged as a whole, whatever the flags are, and settles every field without
them. -/
theorem environment_decided :
    Decided (Check.Fails environment flags) [.portVariable, .timeoutVariable]
      (Resolved environment {})
      ((Config.ofEnvironment environment).mapError SetupError.environment) := by
  simp only [Config.ofEnvironment, mapError_bind]
  refine (portVariable_decided environment flags).bind fun port portSettled => ?_
  rw [← List.append_nil [Check.timeoutVariable]]
  refine (timeoutVariable_decided environment flags).bind fun timeout timeoutSettled => ?_
  have host : Settled initial.host [some (Eq "127.0.0.1")] := rfl
  have credentials : Settled initial.credentials [some (Eq (.apiKey "changeme"))] := rfl
  exact .pure ⟨host.override _, portSettled, timeoutSettled, credentials.override _⟩

/-- The settings are judged in the order of the checks, and settle every field by its first
source. -/
theorem configOf_decided :
    Decided (Check.Fails environment flags) Check.inOrder (Resolved environment flags)
      (configOf environment flags) := by
  refine (environment_decided environment flags).bind fun config resolved => ?_
  -- Without flags, the sources of a field are its variable and its default.
  have host : Settled config.host
      [(Environment.text? environment.host).map Eq, some (Eq "127.0.0.1")] := resolved.host
  have port : Settled config.port
      [(Environment.text? environment.port).map WritesPort, some (Eq 6001)] := resolved.port
  have timeout : Settled config.timeout
      [(Environment.text? environment.timeout).map WritesTimeout, some (Eq (.ofSeconds 2))] :=
    resolved.timeout
  have credentials : Settled config.credentials
      [((Environment.text? environment.apiKey).map Credentials.apiKey).map Eq,
        some (Eq (.apiKey "changeme"))] := resolved.credentials
  refine (credentialsFlag_decided environment flags credentials).bind fun _ settled => ?_
  rw [← List.append_nil [Check.timeoutFlag]]
  refine (timeoutFlag_decided environment flags timeout).bind fun _ lasting => ?_
  exact .pure ⟨host.override flags.host, port.override flags.port, lasting, settled⟩

/-- A check that fails names one error. -/
theorem Check.Fails.unique {check : Check} {error other : SetupError}
    (failed : check.Fails environment flags error)
    (failedOther : check.Fails environment flags other) : error = other := by
  cases failed with
  | port set invalid =>
    cases failedOther with
    | port same => rw [Option.some.inj (set.symm.trans same)]
  | noNumber set invalid =>
    cases failedOther with
    | noNumber same => rw [Option.some.inj (set.symm.trans same)]
    | noTimeout same number =>
      obtain rfl := Option.some.inj (set.symm.trans same)
      exact nomatch invalid.symm.trans number
  | noTimeout set number invalid =>
    cases failedOther with
    | noNumber same none =>
      obtain rfl := Option.some.inj (set.symm.trans same)
      exact nomatch none.symm.trans number
    | noTimeout same numberSame =>
      obtain rfl := Option.some.inj (set.symm.trans same)
      rw [Option.some.inj (number.symm.trans numberSame)]
  | credentials set refused =>
    cases failedOther with
    | credentials same refusedSame =>
      obtain rfl := Option.some.inj (set.symm.trans same)
      rw [Except.error.inj (refused.symm.trans refusedSame)]
  | timeout set invalid =>
    cases failedOther with
    | timeout same => rw [Option.some.inj (set.symm.trans same)]

end

/-- The configuration of an invocation is the one that its sources settle, and it is refused over
the first check that fails.

For every environment and all flags: there is no configuration exactly if some check fails, and the
error is then that of the first check that fails. The variable of the port is checked first, then
the variable of the timeout, the credentials of the flags and the timeout of the flags; a flag that
overrides a variable does not take its check away. If all checks pass, the configuration is the one
of which every field is settled by its own sources alone: by the flag, else by the variable, else by
the default, and the credentials also by the flag of a key. A variable whose bytes are no text
counts as one that is not set. -/
theorem configuration_resolved (environment : Environment) (flags : Flags) :
    ((∃ error, configOf environment flags = .error error) ↔
        ∃ check error, Check.Fails environment flags check error) ∧
      (∀ error, configOf environment flags = .error error ↔
        FirstFailure (Check.Fails environment flags) Check.inOrder error) ∧
      (∀ config, configOf environment flags = .ok config ↔
        (∀ check error, ¬ Check.Fails environment flags check error) ∧
          Resolved environment flags config) ∧
      ∀ setting text, Environment.text? setting = some text ↔
        setting = some (Text.Utf8.encode text.toList) := by
  have every (check : Check) : check ∈ Check.inOrder := by
    cases check <;> simp [Check.inOrder]
  have decided := configOf_decided environment flags
  refine ⟨?_, ?_, ?_, fun _ _ => Environment.text?_eq_some_iff⟩
  all_goals generalize configOf environment flags = outcome at *
  · cases outcome with
    | ok config =>
      refine iff_of_false (fun ⟨_, made⟩ => nomatch made) ?_
      rintro ⟨check, error, failed⟩
      exact decided.1 check (every check) error failed
    | error error =>
      obtain ⟨_, check, _, -, failed, -⟩ := decided
      exact iff_of_true ⟨error, rfl⟩ ⟨check, error, failed⟩
  · intro error
    cases outcome with
    | ok config =>
      refine iff_of_false nofun ?_
      rintro ⟨_, check, _, -, failed, -⟩
      exact decided.1 check (every check) error failed
    | error found =>
      have foundFirst : FirstFailure (Check.Fails environment flags) Check.inOrder found := decided
      constructor
      · rintro ⟨⟩
        exact foundFirst
      · intro first
        have same : found = error := by
          refine foundFirst.unique ?_ first
          intro check left right
          exact Check.Fails.unique environment flags
        rw [same]
  · intro config
    cases outcome with
    | ok found =>
      obtain ⟨passes, resolved⟩ := decided
      constructor
      · rintro ⟨⟩
        exact ⟨fun check => passes check (every check), resolved⟩
      · rintro ⟨-, resolvedOther⟩
        rw [resolved.unique resolvedOther]
    | error error =>
      refine iff_of_false nofun ?_
      rintro ⟨passes, -⟩
      obtain ⟨_, check, _, -, failed, -⟩ := decided
      exact passes check error failed

/-- A port that is none is refused, although a flag names another. -/
example :
    let environment : Environment := { port := some "http".toUTF8.toList }
    (configOf environment { port := some 7001 }).isOk = false := by decide +kernel

end CommandLine

end WorkflowClient
