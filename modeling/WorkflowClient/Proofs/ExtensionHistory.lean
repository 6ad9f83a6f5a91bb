import WorkflowClient.Extension

/-!
# Extensions over a history

A registry is judged by the list of all registrations in order, repetitions included. Under each
name it holds what was registered last under that name, so a run is answered by that extension and
by no other, whatever was registered and run in between. A history is therefore told twice, by the
registry and by the list, and both tell the same outputs and the same context. What `hello` does to
the context is one entry; all others stay.
-/

namespace WorkflowClient.Extension

/-- What happens to a registry and to the context that its extensions share. -/
inductive Event where
  | register (extension : Extension)
  | run (name : String) (arguments : List String)

/-- The registrations of a history in order. -/
def registrations : List Event → List Extension
  | [] => []
  | .register extension :: later => extension :: registrations later
  | .run _ _ :: later => registrations later

/-- A registry and the context that its extensions share. -/
structure Dispatcher where
  registry : Registry
  context : Context

namespace Dispatcher

/-- A fresh registry, with the built-in extensions or without any, and a context. -/
def start (withBuiltin : Bool) (context : Context) : Dispatcher :=
  ⟨if withBuiltin then .builtin else .empty, context⟩

/-- Let one thing happen. A run gives its output, a registration gives none. -/
def step (dispatcher : Dispatcher) : Event → List (Option String) × Dispatcher
  | .register extension => ([], ⟨dispatcher.registry.register extension, dispatcher.context⟩)
  | .run name arguments =>
    let (output, context) := dispatcher.registry.run name arguments dispatcher.context
    ([output], ⟨dispatcher.registry, context⟩)

/-- Let a history happen and collect the outputs of its runs in order. -/
def play (dispatcher : Dispatcher) : List Event → List (Option String) × Dispatcher
  | [] => ([], dispatcher)
  | event :: later =>
    let (output, next) := dispatcher.step event
    let (outputs, last) := next.play later
    (output ++ outputs, last)

/-- A history that begins with a run. -/
theorem play_run (registry : Registry) (context : Context) (name : String)
    (arguments : List String) (later : List Event) :
    (Dispatcher.mk registry context).play (.run name arguments :: later) =
      let (output, changed) := registry.run name arguments context
      let (outputs, last) := (Dispatcher.mk registry changed).play later
      (output :: outputs, last) := rfl

end Dispatcher

/-- The extension is the last one registered under the name: it was registered under the name, and
none after it was. -/
def LastUnder (name : String) (extension : Extension) (registered : List Extension) : Prop :=
  ∃ before after, registered = before ++ extension :: after ∧ extension.name = name ∧
    ∀ other ∈ after, other.name ≠ name

/-- No extension was registered under the name. -/
def Unregistered (name : String) (registered : List Extension) : Prop :=
  ∀ extension ∈ registered, extension.name ≠ name

/-- A history told without a registry, by the list of what was registered before it: from a context
it gives outputs and leaves a context. -/
inductive Told : List Extension → Context → List Event → List (Option String) → Context → Prop where
  | over {registered context} : Told registered context [] [] context
  | register {registered context extension later outputs last} :
      Told (registered ++ [extension]) context later outputs last →
      Told registered context (.register extension :: later) outputs last
  | answered {registered context name arguments extension output changed later outputs last} :
      LastUnder name extension registered → extension.run arguments context = (output, changed) →
      Told registered changed later outputs last →
      Told registered context (.run name arguments :: later) (some output :: outputs) last
  | unknown {registered context name arguments later outputs last} :
      Unregistered name registered → Told registered context later outputs last →
      Told registered context (.run name arguments :: later) (none :: outputs) last

/-- What was registered last of all is the last under its own name, and under other names the
last is the one before it. -/
theorem lastUnder_append_singleton {name : String} {extension added : Extension}
    {registered : List Extension} :
    LastUnder name extension (registered ++ [added]) ↔
      if added.name = name then extension = added else LastUnder name extension registered := by
  constructor
  · rintro ⟨before, after, parts, named, others⟩
    rcases List.eq_nil_or_concat after with rfl | ⟨between, final, rfl⟩
    · obtain ⟨-, same⟩ := List.append_inj' parts rfl
      obtain rfl : added = extension := List.head_eq_of_cons_eq same
      rw [if_pos named]
    · have parts : registered ++ [added] = (before ++ extension :: between) ++ [final] := by
        simpa using parts
      obtain ⟨earlier, same⟩ := List.append_inj' parts rfl
      obtain rfl : added = final := List.head_eq_of_cons_eq same
      rw [if_neg (others added (by simp))]
      refine ⟨before, between, earlier, named, ?_⟩
      intro other present
      exact others other (by simp [present])
  · intro last
    split at last
    · next named => exact ⟨registered, [], by rw [last], last ▸ named, by simp⟩
    · next different =>
      obtain ⟨before, after, parts, named, others⟩ := last
      refine ⟨before, after ++ [added], by simp [parts], named, ?_⟩
      intro other present
      rcases List.mem_append.mp present with earlier | final
      · exact others other earlier
      · exact List.mem_singleton.mp final ▸ different

/-- A registry agrees with a list of registrations: it has the names of the list, and finds under
each of them what was registered last. -/
structure Follows (registry : Registry) (registered : List Extension) : Prop where
  names : ∀ name, name ∈ registry.names ↔ ∃ extension ∈ registered, extension.name = name
  found : ∀ name extension,
    registry.find? name = some extension ↔ LastUnder name extension registered

/-- An empty registry agrees with the empty list. -/
theorem follows_empty : Follows .empty [] := by
  constructor
  · intro name
    simp [Registry.names, Registry.empty, Dictionary.keys]
  · intro name extension
    constructor
    · intro found
      cases found
    · rintro ⟨before, after, parts, -⟩
      simp at parts

/-- One more registration keeps a registry in agreement with the list. -/
theorem Follows.register {registry : Registry} {registered : List Extension}
    (follows : Follows registry registered) (added : Extension) :
    Follows (registry.register added) (registered ++ [added]) := by
  constructor
  · intro name
    rw [Registry.mem_names_register, follows.names]
    simp only [List.mem_append, List.mem_singleton]
    constructor
    · rintro (rfl | ⟨extension, present, named⟩)
      · exact ⟨added, .inr rfl, rfl⟩
      · exact ⟨extension, .inl present, named⟩
    · rintro ⟨extension, present | rfl, named⟩
      · exact .inr ⟨extension, present, named⟩
      · exact .inl named.symm
  · intro name extension
    rw [lastUnder_append_singleton]
    split
    · next named =>
      subst named
      rw [Registry.find?_register_self, Option.some.injEq, eq_comm]
    · next different =>
      rw [Registry.find?_register_of_ne _ _ (Ne.symm different), follows.found]

/-- What a fresh registry holds. -/
def initially (withBuiltin : Bool) : List Extension := if withBuiltin then [hello] else []

/-- A fresh registry agrees with what it holds. -/
theorem follows_start (withBuiltin : Bool) (context : Context) :
    Follows (Dispatcher.start withBuiltin context).registry (initially withBuiltin) := by
  cases withBuiltin with
  | false => exact follows_empty
  | true => exact follows_empty.register hello

/-- A name that nothing was registered under is not found. -/
theorem Follows.find?_eq_none_iff {registry : Registry} {registered : List Extension}
    (follows : Follows registry registered) {name : String} :
    registry.find? name = none ↔ Unregistered name registered := by
  have absent : registry.find? name = none ↔ name ∉ registry.names := Dictionary.find?_eq_none_iff
  rw [absent, follows.names]
  simp only [Unregistered, not_exists, not_and]

/-- A run under a name that nothing was registered under does nothing. -/
theorem Follows.run_unregistered {registry : Registry} {registered : List Extension}
    (follows : Follows registry registered) {name : String}
    (unregistered : Unregistered name registered) (arguments : List String) (context : Context) :
    registry.run name arguments context = (none, context) := by
  rw [Registry.run, follows.find?_eq_none_iff.mpr unregistered]

/-- A run is the run of the extension registered last under the name. -/
theorem Follows.run_last {registry : Registry} {registered : List Extension}
    (follows : Follows registry registered) {name : String} {extension : Extension}
    (last : LastUnder name extension registered) (arguments : List String) (context : Context) :
    registry.run name arguments context =
      (some (extension.run arguments context).1, (extension.run arguments context).2) := by
  rw [Registry.run, (follows.found name extension).mpr last]

/-- A history is told alike by the registry and by the list of registrations, and they still agree
after it. The induction is on the history; each event is matched by one way of telling it. -/
theorem Follows.play {dispatcher : Dispatcher} {registered : List Extension}
    (follows : Follows dispatcher.registry registered) (history : List Event) :
    Told registered dispatcher.context history (dispatcher.play history).1
        (dispatcher.play history).2.context ∧
      Follows (dispatcher.play history).2.registry (registered ++ registrations history) := by
  induction history generalizing dispatcher registered with
  | nil =>
    rw [registrations, List.append_nil]
    exact ⟨.over, follows⟩
  | cons event later inductionHypothesis =>
    obtain ⟨registry, context⟩ := dispatcher
    cases event with
    | register extension =>
      let next : Dispatcher := ⟨registry.register extension, context⟩
      have agreed : Follows next.registry (registered ++ [extension]) := follows.register extension
      obtain ⟨told, after⟩ := inductionHypothesis agreed
      rw [List.append_assoc] at after
      exact ⟨.register told, after⟩
    | run name arguments =>
      cases found : registry.find? name with
      | none =>
        have unregistered := follows.find?_eq_none_iff.mp found
        rw [Dispatcher.play_run, follows.run_unregistered unregistered]
        obtain ⟨told, after⟩ := @inductionHypothesis ⟨registry, context⟩ registered follows
        exact ⟨.unknown unregistered told, after⟩
      | some extension =>
        have last := (follows.found name extension).mp found
        rw [Dispatcher.play_run, follows.run_last last]
        obtain ⟨told, after⟩ :=
          @inductionHypothesis ⟨registry, (extension.run arguments context).2⟩ registered follows
        exact ⟨.answered last rfl told, after⟩

/-- What a run of `hello` gives and leaves: it greets the first argument, or the world if that is
missing or empty, and of the context it writes the one entry that is its mark. -/
structure Greets (arguments : List String) (before : Context) (output : Option String)
    (after : Context) : Prop where
  named : ∀ first, arguments.head? = some first → first ≠ "" →
    output = some ("Hello, " ++ first ++ "!")
  world : arguments.head?.getD "" = "" → output = some "Hello, World!"
  marked : after.find? "custom_hello_var" = some (.string "hello")
  others : ∀ key, key ≠ "custom_hello_var" → after.find? key = before.find? key
  ascending : before.Ascending → after.Ascending

/-- The greeting of `hello` and the entry that it writes. -/
theorem hello_greets (arguments : List String) (context : Context) :
    Greets arguments context (some (hello.run arguments context).1)
      (hello.run arguments context).2 := by
  constructor
  case named =>
    intro first given filled
    obtain ⟨rest, rfl⟩ := List.head?_eq_some_iff.mp given
    simp only [hello, greeted, if_neg filled]
  case world =>
    intro missing
    cases arguments with
    | nil => rfl
    | cons first rest =>
      obtain rfl : first = "" := missing
      rfl
  case marked => exact Dictionary.find?_insert_self _ _ _
  case others => exact fun key different => Dictionary.find?_insert_of_ne different _ _
  case ascending => exact fun ascending => ascending.insert _ _

/-- What holds of a registry when a list of extensions has been registered in order: the names are
in order, each once, and what is found and run under a name is what was registered last. -/
structure LastWins (registered : List Extension) (registry : Registry) : Prop where
  ascending : registry.names.Pairwise (· < ·)
  names : ∀ name, name ∈ registry.names ↔ ∃ extension ∈ registered, extension.name = name
  found : ∀ name extension,
    registry.find? name = some extension ↔ LastUnder name extension registered
  unregistered : ∀ name arguments context, Unregistered name registered →
    registry.find? name = none ∧ registry.run name arguments context = (none, context)
  dispatched : ∀ name arguments context extension, LastUnder name extension registered →
    registry.run name arguments context =
      (some (extension.run arguments context).1, (extension.run arguments context).2)
  greeting : ∀ name arguments context, LastUnder name hello registered →
    Greets arguments context (registry.run name arguments context).1
      (registry.run name arguments context).2

/-- Agreement with the list of registrations is all that dispatch needs. -/
theorem Follows.lastWins {registry : Registry} {registered : List Extension}
    (follows : Follows registry registered) : LastWins registered registry where
  ascending := registry.ascending
  names := follows.names
  found := follows.found
  unregistered := fun _ arguments context unregistered =>
    ⟨follows.find?_eq_none_iff.mpr unregistered,
      follows.run_unregistered unregistered arguments context⟩
  dispatched := fun _ arguments context _ last => follows.run_last last arguments context
  greeting := by
    intro name arguments context last
    rw [follows.run_last last]
    exact hello_greets arguments context

/-- Over any history of registrations and runs on a fresh registry, with the built-in extensions
or without any, the registration that was last under a name wins: every output and the context are
those told by the list of registrations alone, and after the history the names, what is found under
each name and what a run of it does are decided by the last registration under it. -/
theorem last_registration_wins (withBuiltin : Bool) (context : Context) (history : List Event) :
    let (outputs, reached) := (Dispatcher.start withBuiltin context).play history
    Told (initially withBuiltin) context history outputs reached.context ∧
      LastWins (initially withBuiltin ++ registrations history) reached.registry := by
  obtain ⟨told, follows⟩ := (follows_start withBuiltin context).play history
  exact ⟨told, follows.lastWins⟩

/-- Another `hello` takes the place of the built-in one and is run from then on. -/
example :
    let loud : Extension := ⟨"hello", fun names context => ("HELLO " ++ greeted names, context)⟩
    let history : List Event :=
      [.run "hello" ["Ann"], .run "echo" [], .register loud, .run "hello" []]
    ((Dispatcher.start true []).play history).1 =
      [some "Hello, Ann!", none, some "HELLO World"] := by
  decide +kernel

end WorkflowClient.Extension
