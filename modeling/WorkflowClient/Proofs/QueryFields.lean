import WorkflowClient.Proofs.FramedLines
import WorkflowClient.Proofs.WireLanguage

/-!
# What a query carries

The object of a query is read like this: a key of the caller's data has the value that the data give
it, the key `path` without one has the path argument, and no other key is there. The server reads the
same from the bytes. They are the line of the frame, and reading that line gives the object back,
since the caller's fields and one text more are as portable as the caller's fields alone.
-/

namespace WorkflowClient

namespace Envelope

variable {path : String} {data : Option (Dictionary Json)}

/-- The values of an envelope are the path and the values of the caller's fields. -/
theorem mem_fields {entry : String × Json} (present : entry ∈ (make path data).fields) :
    entry = ("path", .string path) ∨ entry ∈ data.getD [] := by
  rcases Dictionary.mem_of_mem_insertAll present with callers | own
  · exact .inr callers
  · exact .inl (List.mem_singleton.mp own)

/-- A key of an envelope is read as in the caller's fields, and without a field of this name as in
the envelope that has the path alone. -/
theorem find?_make (path : String) (ascending : Dictionary.Ascending (data.getD [])) (key : String) :
    (make path data).fields.find? key =
      ((data.getD []).find? key).or (if key = "path" then some (.string path) else none) := by
  rw [make, Dictionary.find?_insertAll, Dictionary.ofList_ascending ascending]
  rfl

/-- An envelope always has a path. -/
theorem path_mem_keys (path : String) (data : Option (Dictionary Json)) :
    "path" ∈ (make path data).fields.keys := by
  refine Decidable.byContradiction fun absent => ?_
  have missing := Dictionary.find?_eq_none_iff.mpr absent
  rw [make, Dictionary.find?_insertAll] at missing
  exact absurd (Option.or_eq_none_iff.mp missing).2 (by simp [Dictionary.find?])

/-- The path of an envelope is the text that the key `path` has. -/
theorem path?_eq_some_iff (envelope : Envelope) (named : String) :
    envelope.path? = some named ↔ envelope.fields.find? "path" = some (.string named) := by
  rw [path?, Option.bind_eq_some_iff]
  constructor
  · rintro ⟨value, found, isText⟩
    cases value with
    | string text => rw [found, Option.some.inj isText]
    | _ => cases isText
  · intro found
    exact ⟨.string named, found, rfl⟩

/-- The envelope of portable fields is portable: the path is a text, which adds neither a number
nor depth. -/
theorem body_portable (path : String) (portable : (Json.object (data.getD [])).Portable) :
    (make path data).body.Portable := by
  obtain ⟨wholeNumbers, ordered, shallow⟩ := portable
  constructor
  · refine (Json.whole_object_iff _).mpr fun entry present => ?_
    rcases mem_fields present with rfl | callers
    · trivial
    · exact (Json.whole_object_iff _).mp wholeNumbers entry callers
  · refine (Json.ordered_object_iff _).mpr ⟨make_ascending path data, fun entry present => ?_⟩
    rcases mem_fields present with rfl | callers
    · trivial
    · exact ((Json.ordered_object_iff _).mp ordered).2 entry callers
  · refine (Json.depth_object_le_iff _ 126).mpr fun entry present => ?_
    rcases mem_fields present with rfl | callers
    · exact Nat.zero_le _
    · exact (Json.depth_object_le_iff _ 126).mp shallow entry callers

end Envelope

namespace Conversation

open Session

variable {state : State} {path : String} {data : Option (Dictionary Json)}

/-- A workflow without a connection or without a path sends nothing. -/
theorem run_sent_refused (refused : state.session.isConnected = false ∨ path = "") :
    (state.step (.run path data)).1.sent = none := by
  change (state.told (state.step (.run path data)).2 _).sent = none
  rw [step_run_refused data refused]
  exact sent_same state _

/-- On a connection a workflow with a path sends its query if the transmission goes through, and
nothing if it fails. -/
theorem run_sent_on {peer : Peer} (holds : state.session.stream = some peer) (named : path ≠ "") :
    (state.step (.run path data)).1.sent =
      match (peer.transmit (Envelope.make path data).frame).1 with
      | .ok () => some (Envelope.make path data).frame
      | .error _ => none := by
  obtain ⟨result, session, network, made, exchanged⟩ := call_run_exchanged holds named data
  have reported : (state.step (.run path data)).1 =
      state.told ⟨session, network⟩ (.answered result) := by
    rw [State.step, made, State.told]
  have heard : (⟨session, network⟩ : State).heard =
      state.heard ++ carried (decisive peer.sends) [(Envelope.make path data).frame] := by
    rw [exchanged.heard]
    simp [State.heard, holds]
  rw [reported]
  rcases transmitted : peer.transmit (Envelope.make path data).frame with
    ⟨failure | through, reached⟩
  · rw [carried_failed (Peer.transmit_failed transmitted).1, List.append_nil] at heard
    rw [State.told, heard, List.drop_length, List.head?_nil]
  · rw [carried_passed (Peer.transmit_passed transmitted).1, carried_nil] at heard
    exact sent_told heard _

/-- A workflow sends its query and nothing else, and does so exactly if the path is not empty, a
connection is open and the transmission goes through. -/
theorem run_sent_iff (frame : List UInt8) :
    (state.step (.run path data)).1.sent = some frame ↔
      frame = (Envelope.make path data).frame ∧ path ≠ "" ∧
        ∃ peer reached, state.session.stream = some peer ∧
          peer.transmit (Envelope.make path data).frame = (.ok (), reached) := by
  constructor
  · intro sent
    have accepted : ¬(state.session.isConnected = false ∨ path = "") := by
      intro refused
      cases (run_sent_refused refused).symm.trans sent
    obtain ⟨isOpen, named⟩ := not_or.mp accepted
    obtain ⟨peer, holds⟩ := Option.isSome_iff_exists.mp (eq_true_of_ne_false isOpen)
    rw [run_sent_on holds named] at sent
    rcases transmitted : peer.transmit (Envelope.make path data).frame with
      ⟨failure | through, reached⟩
    · simp [transmitted] at sent
    · rw [transmitted] at sent
      exact ⟨(Option.some.inj sent).symm, named, peer, reached, holds, transmitted⟩
  · rintro ⟨rfl, named, peer, reached, holds, transmitted⟩
    rw [run_sent_on holds named, transmitted]

/-- A query carries the caller's fields, the path if they name none, and nothing else.

The caller's data are missing or an object whose numbers are integers of 64 bits, whose keys ascend
and which nests no deeper than the parser allows; the path is any text. What a workflow sends in any
state is its query, and it is sent if the path is not empty, a connection is open and the
transmission goes through. The bytes of the query are text, and this text is read as a query whose
body is an object: each key has the value that the data give it, the key `path` otherwise has the
path argument, and all other keys are missing. The keys ascend, `path` is always one of them, and it
is the path that the client sees if its value is a text. -/
theorem query_carries_fields (path : String) (data : Option (Dictionary Json))
    (portable : (Json.object (data.getD [])).Portable) :
    let envelope := Envelope.make path data
    (∀ (state : State) frame, (state.step (.run path data)).1.sent = some frame ↔
      frame = envelope.frame ∧ path ≠ "" ∧ ∃ peer reached,
        state.session.stream = some peer ∧ peer.transmit envelope.frame = (.ok (), reached)) ∧
    ∃ (line : String) (members : Dictionary Json),
      Text.Utf8.decodeString envelope.frame = .ok line ∧
      Frame.parse line = .ok ⟨.query, .object members⟩ ∧
      (∀ key, members.find? key =
        ((data.getD []).find? key).or (if key = "path" then some (.string path) else none)) ∧
      members.Ascending ∧ "path" ∈ members.keys ∧
      ∀ named, envelope.path? = some named ↔ members.find? "path" = some (.string named) := by
  intro envelope
  constructor
  · exact fun state frame => run_sent_iff frame
  have decoded : Text.Utf8.decodeString envelope.frame =
      .ok (String.ofList (Frame.line .query envelope.body)) := by
    rw [Text.Utf8.decodeString, Envelope.frame, Frame.encode, Text.Utf8.decode_encode, Except.map]
  have parsed : Frame.parse (String.ofList (Frame.line .query envelope.body)) =
      .ok ⟨.query, .object envelope.fields⟩ :=
    @Frame.parse_line ⟨.query, envelope.body⟩ (Envelope.body_portable path portable)
  have ascending := ((Json.ordered_object_iff _).mp portable.ordered).1
  exact ⟨_, envelope.fields, decoded, parsed, Envelope.find?_make path ascending,
    Envelope.make_ascending path data, Envelope.path_mem_keys path data,
    envelope.path?_eq_some_iff⟩

/-- Data that give the path a number, behind a path with a newline and beside a key with a newline
and a quotation mark: the query is sent and read with the number, and it names no path. -/
theorem overriding_query_read :
    let data : Option (Dictionary Json) := some [("path", Json.integer 7), ("ä\n\"", .list [.null])]
    let envelope := Envelope.make "/a\n" data
    let peer := ({} : Script).peer
    let state : State := ⟨{ config := .initial, stream := some peer }, .ofScripts []⟩
    (Json.object (data.getD [])).Portable ∧
      (state.step (.run "/a\n" data)).1.sent = some envelope.frame ∧
      ∃ (line : String) (members : Dictionary Json),
        Text.Utf8.decodeString envelope.frame = .ok line ∧
        Frame.parse line = .ok ⟨.query, .object members⟩ ∧
        members.find? "path" = some (Json.integer 7) ∧
        members.find? "ä\n\"" = some (.list [.null]) ∧ members.find? "x" = none ∧
        ∀ named, envelope.path? ≠ some named := by
  intro data envelope peer state
  have portable : (Json.object (data.getD [])).Portable := by
    refine ⟨?_, ?_, by decide +kernel⟩
    · simp [data, Json.integer, Json.Whole, Json.MembersWhole, Json.AllWhole, Json.Number.IsWhole,
        Json.leastInteger, Json.greatestInteger]
    · simp only [data, Option.getD_some, Json.integer, Json.Ordered, Json.MembersOrdered,
        Json.AllOrdered, and_true, Dictionary.Ascending, Dictionary.keys]
      decide
  obtain ⟨sent, line, members, decoded, parsed, reads, -, -, named⟩ :=
    query_carries_fields "/a\n" data portable
  have path : members.find? "path" = some (Json.integer 7) := reads "path"
  refine ⟨portable, ?_, line, members, decoded, parsed, path, reads "ä\n\"", reads "x", ?_⟩
  · exact (sent state _).mpr ⟨rfl, by decide, peer, _, rfl, rfl⟩
  · intro text same
    cases path.symm.trans ((named text).mp same)

end Conversation

end WorkflowClient
