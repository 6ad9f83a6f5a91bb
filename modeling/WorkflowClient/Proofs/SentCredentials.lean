import WorkflowClient.Proofs.FramedLines
import WorkflowClient.Proofs.TypedReadings
import WorkflowClient.Proofs.WireLanguage

/-!
# Credentials are sent as they are

Whichever way credentials are made, they stand for a mapping from names to texts, and this mapping
is what arrives. Their body is an object of texts, which any characters of the names and texts leave
portable, so the line that is sent is read as a frame with this object. The members of the object
are in the text as they are in the object, each once, so that the typed reading finds a text in
every one of them and gives the same credentials.
-/

namespace WorkflowClient

namespace Json

/-- The members of an object are in its printed text as they are, in their order. -/
theorem writtenMembers_written {layout : Layout} (blank : layout.BlankBetween)
    {members : Dictionary Json} (portable : (object members).Portable) :
    writtenMembers (String.ofList (written layout 0 (.object members))) = .ok members := by
  have read : objectOf (Reader.value (greatestDepth - 1))
      (written layout 0 (.object members) ++ []) = .ok (members, []) :=
    objectOf_takesBack blank 0 portable.wholeNumbers portable.ordered portable.shallow []
  rw [List.append_nil] at read
  rw [writtenMembers, parseWith_eq_ok_iff, String.toList_ofList]
  exact ⟨[], read, rfl⟩

end Json

namespace Credentials

/-- Credentials stand for a mapping from names to texts. It has the last one of the entries of a
name, or the key alone, or the texts of the object that is read, as any value, from the same
text. -/
inductive StandFor : Credentials → (String → Option String) → Prop
  | entries (entries : List (String × String)) :
      StandFor (ofList entries) fun name => entries.reverse.lookup name
  | apiKey (key : String) :
      StandFor (apiKey key) fun name => if name = "apiKey" then some key else none
  | read {text : String} {credentials : Credentials} (read : parse text = .ok credentials) :
      StandFor credentials fun name =>
        ((Json.parse text).toOption.bind (·.get? name)).bind Json.string?

/-- A name has the text that the mapping gives it, and none if the mapping gives it none. -/
theorem StandFor.get?_eq {credentials : Credentials} {mapping : String → Option String}
    (stands : credentials.StandFor mapping) (name : String) :
    credentials.get? name = mapping name := by
  cases stands with
  | entries entries => exact Dictionary.find?_ofList name entries
  | apiKey key => rfl
  | @read text _ read =>
    have member : (Json.parse text).toOption.bind (·.get? name) =
        (credentials.entries.find? name).map .string := by
      rw [object_of_parse read, ← Dictionary.find?_mapValues]
      rfl
    simp only [member, get?]
    cases credentials.entries.find? name with
    | none => rfl
    | some content => rfl

variable (credentials : Credentials)

/-- A name has a text in the body if it has it in the credentials. -/
theorem body_eq : credentials.body = .object (credentials.entries.mapValues .string) := rfl

/-- Whatever the names and texts are, the body is portable. -/
theorem body_portable : credentials.body.Portable := by
  have texts : ∀ entry ∈ credentials.entries.mapValues Json.string,
      ∃ content, entry.2 = .string content :=
    (Dictionary.exists_mapValues_iff _).mp ⟨credentials.entries, rfl⟩
  rw [body_eq]
  constructor
  · refine (Json.whole_object_iff _).mpr fun entry present => ?_
    obtain ⟨content, isText⟩ := texts entry present
    rw [isText]
    trivial
  · refine (Json.ordered_object_iff _).mpr ⟨?_, fun entry present => ?_⟩
    · rw [Dictionary.Ascending, Dictionary.keys_mapValues]
      exact credentials.ascending
    · obtain ⟨content, isText⟩ := texts entry present
      rw [isText]
      trivial
  · refine (Json.depth_object_le_iff _ 126).mpr fun entry present => ?_
    obtain ⟨content, isText⟩ := texts entry present
    rw [isText]
    exact Nat.zero_le _

/-- The printed body is read as the credentials. -/
theorem parse_body {layout : Json.Layout} (blank : layout.BlankBetween) :
    Credentials.parse (String.ofList (Json.written layout 0 credentials.body)) =
      .ok credentials := by
  refine parse_eq_ok_iff.mpr ⟨credentials.entries, ?_, ?_⟩
  · exact Json.writtenMembers_written blank credentials.body_portable
  · simp only [ofList, Dictionary.ofList_ascending credentials.ascending]

end Credentials

namespace Conversation

variable {state : State}

/-- What connecting sends is the credentials of the configuration, if a connection is opened and the
transmission goes through, and nothing otherwise. -/
theorem connect_sends (state : State) :
    (state.step .connect).2.heard = state.heard ++
      if state.network.next.accepts state.session.config.host &&
          (state.network.next.peer.transmit state.session.config.credentials.frame).1.isOk
      then [state.session.config.credentials.frame] else [] := by
  generalize due : state.session.config.credentials.frame = frame
  have heard : (state.step .connect).2.heard = state.heard ++
      if state.network.next.accepts state.session.config.host then
        carried (decisive state.network.next.sends) [frame]
      else [] := due ▸ connect_heard rfl
  rw [heard]
  cases state.network.next.accepts state.session.config.host with
  | false => rfl
  | true =>
    rcases transmitted : state.network.next.peer.transmit frame with ⟨failure | through, reached⟩
    · have silent : carried (decisive state.network.next.sends) [frame] = [] :=
        carried_failed (Peer.transmit_failed transmitted).1 frame
      rw [if_pos rfl, silent]
      rfl
    · have passes := (Peer.transmit_passed transmitted).1
      have carries : carried (decisive state.network.next.sends) [frame] = [frame] :=
        (carried_passed passes frame []).trans (congrArg _ (carried_nil _))
      rw [if_pos rfl, carries]
      rfl

/-- Credentials reach the server as they are, whatever characters their names and texts have and
whichever way they were made.

What connecting adds to what the servers hear, in any state with these credentials, is their frame,
if a connection is opened and the transmission goes through, and nothing otherwise. The frame is the
text of one line: the letter of its kind, a body and a newline. The line is read as a frame of
credentials with an object. A name has in the object the text that the mapping gives it, and no name
without a text is there; the names ascend, so each is there once. The body alone is read as the
credentials, and these give every name the text that the mapping gives it. -/
theorem credentials_sent_verbatim {credentials : Credentials} {mapping : String → Option String}
    (stands : credentials.StandFor mapping) :
    (∀ state : State, state.session.config.credentials = credentials →
      (state.step .connect).2.heard = state.heard ++
        if state.network.next.accepts state.session.config.host &&
            (state.network.next.peer.transmit credentials.frame).1.isOk
        then [credentials.frame] else []) ∧
    ∃ (body : String) (members : Dictionary Json),
      Text.Utf8.decodeString credentials.frame = .ok ("c" ++ body ++ "\n") ∧
      Frame.parse ("c" ++ body ++ "\n") = .ok ⟨.credentials, .object members⟩ ∧
      (∀ name, members.find? name = (mapping name).map .string) ∧ members.Ascending ∧
      Credentials.parse body = .ok credentials ∧ ∀ name, credentials.get? name = mapping name := by
  refine ⟨fun state holds => holds ▸ connect_sends state, ?_⟩
  have line : "c" ++ String.ofList (Json.written .compact 0 credentials.body) ++ "\n" =
      String.ofList (Frame.line .credentials credentials.body) := by
    apply String.toList_injective
    simp [Frame.line, Frame.Tag.letter]
  have decoded : Text.Utf8.decodeString credentials.frame =
      .ok (String.ofList (Frame.line .credentials credentials.body)) := by
    rw [Text.Utf8.decodeString, Credentials.frame, Frame.encode, Text.Utf8.decode_encode,
      Except.map]
  have parsed : Frame.parse (String.ofList (Frame.line .credentials credentials.body)) =
      .ok ⟨.credentials, .object (credentials.entries.mapValues .string)⟩ :=
    @Frame.parse_line ⟨.credentials, credentials.body⟩ credentials.body_portable
  refine ⟨String.ofList (Json.written .compact 0 credentials.body),
    credentials.entries.mapValues .string, line ▸ decoded, line ▸ parsed, ?_, ?_,
    credentials.parse_body Json.Layout.compact_blankBetween, stands.get?_eq⟩
  · intro name
    rw [Dictionary.find?_mapValues, ← stands.get?_eq name, Credentials.get?]
  · rw [Dictionary.Ascending, Dictionary.keys_mapValues]
    exact credentials.ascending

/-- Entries that give one name twice, and names and texts with a newline, a quotation mark, a
backslash and a character beyond sixteen bits: the name arrives with its last text. -/
theorem repeated_name_sent_last :
    let entries := [("k\n", "old"), ("\"𝄞", "\\"), ("k\n", "new")]
    let credentials := Credentials.ofList entries
    let state := State.start { Config.initial with credentials } (.ofScripts [{}])
    credentials.StandFor (fun name => entries.reverse.lookup name) ∧
      (state.step .connect).2.heard = [credentials.frame] ∧
      ∃ (body : String) (members : Dictionary Json),
        Text.Utf8.decodeString credentials.frame = .ok ("c" ++ body ++ "\n") ∧
        Frame.parse ("c" ++ body ++ "\n") = .ok ⟨.credentials, .object members⟩ ∧
        members.find? "k\n" = some (.string "new") ∧ members.find? "\"𝄞" = some (.string "\\") ∧
        members.find? "k" = none ∧ Credentials.parse body = .ok credentials := by
  intro entries credentials state
  have stands : credentials.StandFor fun name => entries.reverse.lookup name := .entries entries
  obtain ⟨sends, body, members, decoded, parsed, reads, -, back, -⟩ :=
    credentials_sent_verbatim stands
  have reached : (state.network.next.accepts state.session.config.host &&
      (state.network.next.peer.transmit credentials.frame).1.isOk) = true := by
    decide +kernel
  have sent := sends state rfl
  rw [if_pos reached] at sent
  exact ⟨stands, sent, body, members, decoded, parsed, reads "k\n", reads "\"𝄞", reads "k", back⟩

end Conversation

end WorkflowClient
