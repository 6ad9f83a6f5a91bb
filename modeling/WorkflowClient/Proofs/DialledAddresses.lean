import WorkflowClient.Proofs.CallConditions

/-!
# Which addresses are dialled

An attempt to connect dials the addresses of the host in order, up to the first that accepts, and
goes on with the connection that this address gave. If none accepts, the failure of the last one
alone decides the error, and a host without addresses has an error of its own. A connection that
takes no limit on how long its calls may last is given up, and no other address is dialled for it.

The dialling is told by what dialling one address does to a network, whatever the network is: the
addresses that refuse leave it one behind the other, and none behind the one that accepts is
touched. On a scripted network, which keeps the addresses that were dialled, this tells how every
attempt to connect begins.
-/

namespace WorkflowClient

namespace Session

section

variable {σ Address Stream : Type} [Transport Address Stream (StateM σ)]

/-- Addresses refuse one after another, each with its failure. Every one is dialled on the network
that the one before it left. -/
inductive Refusals (timeout : Duration) : σ → List Address → List Socket.Error → σ → Prop
  | none {network : σ} : Refusals timeout network [] [] network
  | next {network reached left : σ} {address : Address} {others : List Address}
      {failure : Socket.Error} {failures : List Socket.Error}
      (dialled : (Transport.dial address timeout : StateM σ _) network = (.error failure, reached))
      (later : Refusals timeout reached others failures left) :
      Refusals timeout network (address :: others) (failure :: failures) left

/-- A connection takes both limits, the one on receives first, or it refuses one of them. -/
inductive Limited (timeout : Duration) (stream : Stream) (network : σ) :
    Except Socket.Error Stream → σ → Prop
  | unreceiving {left : σ} {failure : Socket.Error}
      (receiving : (Transport.limit stream .receiving timeout : StateM σ _) network =
        (.error failure, left)) :
      Limited timeout stream network (.error failure) left
  | unsending {between left : σ} {half : Stream} {failure : Socket.Error}
      (receiving : (Transport.limit stream .receiving timeout : StateM σ _) network =
        (.ok half, between))
      (sending : (Transport.limit half .sending timeout : StateM σ _) between =
        (.error failure, left)) :
      Limited timeout stream network (.error failure) left
  | both {between left : σ} {half ready : Stream}
      (receiving : (Transport.limit stream .receiving timeout : StateM σ _) network =
        (.ok half, between))
      (sending : (Transport.limit half .sending timeout : StateM σ _) between =
        (.ok ready, left)) :
      Limited timeout stream network (.ok ready) left

variable {config : Config} {network before left : σ} {refused : List Address}
  {failures : List Socket.Error} {stream : Stream}

/-- A connection that refuses a limit is told as a failure of its socket. -/
theorem limited_of_limits {outcome : Except Socket.Error Stream}
    (limits : Limited config.timeout stream network outcome left) :
    (limited config stream : StateM σ _) network = (outcome.mapError .io, left) := by
  cases limits with
  | unreceiving receiving =>
    simp only [limited, bind, StateT.bind, receiving]
    rfl
  | unsending receiving sending =>
    simp only [limited, bind, StateT.bind, receiving, sending]
    rfl
  | both receiving sending =>
    simp only [limited, bind, StateT.bind, receiving, sending]
    rfl

/-- Dialling passes over the addresses that refuse and remembers the last failure. -/
theorem dialFirst_refusals (refusals : Refusals config.timeout network refused failures before)
    (last : Socket.Error) (others : List Address) :
    (dialFirst config last (refused ++ others) : StateM σ _) network =
      (dialFirst config (failures.getLastD last) others : StateM σ _) before := by
  induction refusals generalizing last with
  | none => rfl
  | @next network reached left address later failure failures dialled _ inductionHypothesis =>
    rw [List.getLastD_cons, ← inductionHypothesis]
    simp only [List.cons_append, dialFirst, bind, StateT.bind, dialled]

/-- A host that does not resolve is not dialled, and the failure is the one of resolving. -/
theorem openStream_unresolved {failure : Socket.Error}
    (unresolved : (Transport.resolve config.host config.port : StateM σ _) network =
      (.error failure, left)) :
    (openStream config : StateM σ _) network = (.error (.connect config.address failure), left) := by
  simp only [openStream, bind, StateT.bind, unresolved]
  rfl

/-- Where every address refuses, the last failure decides. -/
theorem openStream_refused
    (resolved : (Transport.resolve config.host config.port : StateM σ _) network =
      (.ok refused, before))
    (refusals : Refusals config.timeout before refused failures left) :
    (openStream config : StateM σ _) network =
      (.error (unreachable config (failures.getLastD noAddress)), left) := by
  have passed := dialFirst_refusals refusals noAddress []
  rw [List.append_nil] at passed
  simp only [openStream, bind, StateT.bind, resolved, passed]
  rfl

/-- Where an address accepts behind others that refuse, its connection is the one that is limited,
and no address behind it is dialled. -/
theorem openStream_accepted {reached : σ} {address : Address} {others : List Address}
    (resolved : (Transport.resolve config.host config.port : StateM σ _) network =
      (.ok (refused ++ address :: others), reached))
    (refusals : Refusals config.timeout reached refused failures before)
    (accepts : (Transport.dial address config.timeout : StateM σ _) before = (.ok stream, left)) :
    (openStream config : StateM σ _) network = (limited config stream : StateM σ _) left := by
  have passed := dialFirst_refusals refusals noAddress (address :: others)
  simp only [openStream, bind, StateT.bind, resolved, passed, dialFirst, accepts]

/-- Without a connection, connecting leaves a session that let go of the one it had. -/
theorem connect_unopened {session closed : Session Stream} {start : σ} {error : ClientError}
    (released : (session.close : StateM σ _) start = (closed, network))
    (opened : (openStream closed.config : StateM σ _) network = (.error error, left)) :
    (session.connect : StateM σ _) start = ((.error error, closed), left) := by
  simp only [connect, bind, StateT.bind, released, opened]
  rfl

/-- Connecting goes on with the connection that was opened, on a session that let go of the one it
had. -/
theorem connect_opened {session closed : Session Stream} {start : σ}
    (released : (session.close : StateM σ _) start = (closed, network))
    (opened : (openStream closed.config : StateM σ _) network = (.ok stream, left)) :
    (session.connect : StateM σ _) start =
      (do
        let (result, after) ← closed.exchange stream closed.config.credentials.frame
        return (result.bind welcome, after) : StateM σ _) left := by
  simp only [connect, bind, StateT.bind, released, opened]

end

/-- A failure of the last address that says it took too long counts as a timeout. Any other failure
is told as it is. -/
theorem unreachable_eq (config : Config) (failure : Socket.Error) :
    unreachable config failure =
      if failure.kind = .timedOut ∨ failure.kind = .wouldBlock then .timeout
      else .connect config.address failure := by
  obtain ⟨kind, words⟩ := failure
  cases kind <;> rfl

/-- A timeout is told exactly if the last address took too long. -/
theorem unreachable_eq_timeout_iff (config : Config) (failure : Socket.Error) :
    unreachable config failure = .timeout ↔
      failure.kind = .timedOut ∨ failure.kind = .wouldBlock := by
  rw [unreachable_eq]
  split
  · next late => simp [late]
  · next other => simp [other]

/-- On a scripted network the addresses that fail refuse, and are kept as dialled. -/
theorem refusals_scripted (timeout : Duration) (failures : List Socket.Error) (network : Network) :
    Refusals timeout network (failures.map Verdict.fail) failures
      { network with dialled := network.dialled ++ failures.map .fail } := by
  induction failures generalizing network with
  | nil => simpa using Refusals.none
  | cons failure others inductionHypothesis =>
    have later := inductionHypothesis (network.dial (.fail failure)).2
    simp only [Network.dial, List.append_assoc, List.singleton_append] at later
    exact .next rfl later

section

variable {config : Config} {network : Network} {failures : List Socket.Error}

/-- A scripted host resolves to the addresses of the next script. -/
theorem resolve_scripted {result : Except Socket.Error (List Verdict)}
    (found : network.next.addresses config.host = result) :
    (Transport.resolve config.host config.port : StateM Network _) network =
      (result, network.advance) := by
  change (network.next.addresses config.host, network.advance) = _
  rw [found]

/-- A scripted host that does not resolve is met all the same. -/
theorem openStream_unknown {failure : Socket.Error}
    (found : network.next.addresses config.host = .error failure) :
    (openStream config : StateM Network _) network =
      (.error (.connect config.address failure), { network.advance with dialled := [] }) :=
  openStream_unresolved (resolve_scripted found)

/-- Where every address of a scripted host fails, all of them are dialled. -/
theorem openStream_failures
    (found : network.next.addresses config.host = .ok (failures.map .fail)) :
    (openStream config : StateM Network _) network =
      (.error (unreachable config (failures.getLastD noAddress)),
        { network.advance with dialled := failures.map .fail }) :=
  openStream_refused (resolve_scripted found)
    (refusals_scripted config.timeout failures network.advance)

/-- Where an address of a scripted host passes, it is the last that is dialled, and its connection
is opened if it takes its limits. -/
theorem openStream_pass {others : List Verdict}
    (found : network.next.addresses config.host = .ok (failures.map .fail ++ .pass :: others)) :
    (openStream config : StateM Network _) network =
      (match network.next.limitFailure? with
        | some failure => .error (.io failure)
        | none => .ok network.next.peer,
        { network.advance with dialled := failures.map .fail ++ [.pass] }) := by
  have refusals := refusals_scripted config.timeout failures network.advance
  rw [openStream_accepted (resolve_scripted found) refusals rfl]
  exact limited_on _ config network.next.peer

/-- An exchange leaves the far end that it went on with, hung up or held by the session, and dials
nothing. -/
theorem Exchanged.farEnd {session after : Session Peer} {peer : Peer} {frame : List UInt8}
    {left : Network} {result : Except ClientError Json}
    (exchanged : Exchanged session peer frame network result after left) :
    ∃ farEnd, left.past ++ after.stream.toList = network.past ++ [farEnd] ∧
      (after.isConnected = true → after.stream = some farEnd) ∧ left.dialled = network.dialled := by
  rcases exchanged.broken_or_replied with
    ⟨_, last, -, -, rfl, rfl⟩ | ⟨_, last, _, _, -, -, -, rfl, rfl⟩
  · exact ⟨last, List.append_nil _, nofun, rfl⟩
  · exact ⟨last, rfl, fun _ => rfl, rfl⟩

/-- Verdicts on addresses are failures, up to the first that passes if there is one. -/
theorem verdicts_split (verdicts : List Verdict) :
    ∃ failures : List Socket.Error, verdicts = failures.map .fail ∨
      ∃ others, verdicts = failures.map .fail ++ .pass :: others := by
  induction verdicts with
  | nil => exact ⟨[], .inl rfl⟩
  | cons verdict others inductionHypothesis =>
    cases verdict with
    | pass => exact ⟨[], .inr ⟨others, rfl⟩⟩
    | fail failure =>
      obtain ⟨failures, rfl | ⟨behind, rfl⟩⟩ := inductionHypothesis
      · exact ⟨failure :: failures, .inl rfl⟩
      · exact ⟨failure :: failures, .inr ⟨behind, rfl⟩⟩

/-- Opening a connection times out exactly if every address of the host fails and the last one took
too long. -/
theorem openStream_timeout_iff :
    ((openStream config : StateM Network _) network).1 = .error .timeout ↔
      ∃ (failures : List Socket.Error) (last : Socket.Error),
        network.next.addresses config.host = .ok ((failures ++ [last]).map .fail) ∧
          (last.kind = .timedOut ∨ last.kind = .wouldBlock) := by
  constructor
  · intro late
    cases found : network.next.addresses config.host with
    | error failure =>
      exact nomatch late.symm.trans (congrArg Prod.fst (openStream_unknown found))
    | ok addresses =>
      obtain ⟨failures, rfl | ⟨others, rfl⟩⟩ := verdicts_split addresses
      · have decided := late.symm.trans (congrArg Prod.fst (openStream_failures found))
        rcases failures.eq_nil_or_concat with rfl | ⟨before, last, rfl⟩
        · exact nomatch decided
        · rw [List.concat_eq_append] at decided ⊢
          rw [List.getLastD_concat] at decided
          exact ⟨before, last, rfl, (unreachable_eq_timeout_iff config last).mp
            (Except.error.inj decided).symm⟩
      · have decided := late.symm.trans (congrArg Prod.fst (openStream_pass found))
        cases limits : network.next.limitFailure? with
        | none => simp [limits] at decided
        | some failure => simp [limits] at decided
  · rintro ⟨failures, last, found, late⟩
    rw [openStream_failures found, List.getLastD_concat,
      (unreachable_eq_timeout_iff config last).mpr late]

end

end Session

namespace Conversation

open Session

/-- Connecting opened nothing: it returned the error and left the session without a connection. The
addresses are the ones that were dialled, no connection was added to those there have been, and no
server heard anything. -/
structure Unopened (state : State) (error : ClientError) (addresses : List Verdict) : Prop where
  outcome : (state.step .connect).1.outcome = .answered (.error error)
  disconnected : (state.step .connect).1.connected = false
  unsent : (state.step .connect).1.sent = none
  session : (state.step .connect).2.session = .new state.session.config
  heard : (state.step .connect).2.heard = state.heard
  connections : (state.step .connect).2.connections = state.connections
  dialled : (state.step .connect).2.network.dialled = addresses

/-- Connecting opened a connection: it went on to exchange the credentials with the far end of the
script. This is the only connection that was added to those there have been, and the one that the
session holds if it is still connected after the exchange. The addresses are the ones that were
dialled. -/
structure WentOn (state : State) (addresses : List Verdict) : Prop where
  exchange : ∃ result session network,
    state.call .connect = (.answered (result.bind welcome), ⟨session, network⟩) ∧
      Exchanged (.new state.session.config) state.network.next.peer
        state.session.config.credentials.frame { state.released.advance with dialled := addresses }
        result session network
  held : ∃ farEnd, (state.step .connect).2.connections = state.connections ++ [farEnd] ∧
    ((state.step .connect).1.connected = true →
      (state.step .connect).2.session.stream = some farEnd)
  dialled : (state.step .connect).2.network.dialled = addresses

section

variable {state : State} {addresses : List Verdict}

/-- An attempt that opens nothing leaves nothing but the addresses that it dialled. -/
theorem unopened_of_openStream {error : ClientError}
    (opened : (openStream state.session.config : StateM Network _) state.released =
      (.error error, { state.released.advance with dialled := addresses })) :
    Unopened state error addresses := by
  have called : state.call .connect =
      (.answered (.error error),
        ⟨.new state.session.config, { state.released.advance with dialled := addresses }⟩) := by
    rw [State.call, connect_on, state.close_released]
    simp only [opened]
  have stepped : (state.step .connect).2 = (state.call .connect).2 := rfl
  have heard : (state.step .connect).2.heard = state.heard := by
    have kept : state.released.heard = state.heard := state.released_keeps.2.2
    rw [stepped, called, ← kept]
    exact List.append_nil _
  have unsent : (state.step .connect).1.sent = none := by
    change ((state.step .connect).2.heard.drop state.heard.length).head? = none
    rw [heard, List.drop_length, List.head?_nil]
  exact {
    outcome := by rw [State.step, called]
    disconnected := by
      change (state.step .connect).2.session.isConnected = false
      rw [stepped, called, isConnected, new, Option.isSome_none]
    unsent := unsent
    session := by rw [stepped, called]
    heard := heard
    connections := by
      rw [stepped, called, ← state.released_past]
      exact List.append_nil _
    dialled := by rw [stepped, called] }

/-- An attempt that opens a connection goes on with it. -/
theorem wentOn_of_openStream
    (opened : (openStream state.session.config : StateM Network _) state.released =
      (.ok state.network.next.peer, { state.released.advance with dialled := addresses })) :
    WentOn state addresses := by
  obtain ⟨result, session, network, made, exchanged⟩ :=
    exchange_exchanged (.new state.session.config) state.network.next.peer
      state.session.config.credentials.frame { state.released.advance with dialled := addresses }
  have called : state.call .connect = (.answered (result.bind welcome), ⟨session, network⟩) := by
    rw [State.call, connect_on, state.close_released]
    simp only [opened, made]
  have stepped : (state.step .connect).2 = (state.call .connect).2 := rfl
  have told : (state.step .connect).1.connected = (state.step .connect).2.session.isConnected := rfl
  obtain ⟨farEnd, connections, holds, dialled⟩ := exchanged.farEnd
  refine ⟨⟨result, session, network, called, exchanged⟩, ⟨farEnd, ?_, ?_⟩, ?_⟩
  · rw [stepped, called, ← state.released_past]
    exact connections
  · rw [told, stepped, called]
    exact holds
  · rw [stepped, called]
    exact dialled

end

/-- Connecting dials the addresses of the host in order and reports faithfully.

Whatever the session has been through and whatever the network does: if the host does not resolve,
connecting fails with that failure and dials nothing. If an address accepts, the ones before it and
this one have been dialled, and none behind it. Connecting then goes on with the connection opened,
unless this takes no limit on how long its calls may last: then connecting fails with that failure
of the socket. If no address accepts, all have been dialled in order, and the error is decided by
the last one alone, or by there being none. Wherever connecting opens nothing, the session is left
without a connection and nothing was sent. Opening a connection times out exactly if no address
accepts and the last one took too long. And on every network, also where each address leads to a far
end of its own, the connection that connecting goes on with is the one that the first accepting
address gave, with its limits and on the network as these left it. -/
theorem connect_dials_in_order (state : State) :
    let config := state.session.config
    let script := state.network.next
    let found := script.addresses config.host
    (∀ failure, found = .error failure →
        Unopened state (.connect config.address failure) []) ∧
      (found = .ok [] →
        Unopened state (.connect config.address ⟨.invalidInput, "no addresses resolved"⟩) []) ∧
      (∀ (failures : List Socket.Error) (last : Socket.Error),
        found = .ok ((failures ++ [last]).map .fail) →
        Unopened state
          (if last.kind = .timedOut ∨ last.kind = .wouldBlock then .timeout
            else .connect config.address last)
          ((failures ++ [last]).map .fail)) ∧
      (∀ (failures : List Socket.Error) (others : List Verdict),
        found = .ok (failures.map .fail ++ .pass :: others) →
        (script.limitFailure? = none → WentOn state (failures.map .fail ++ [.pass])) ∧
          ∀ failure, script.limitFailure? = some failure →
            Unopened state (.io failure) (failures.map .fail ++ [.pass])) ∧
      (((openStream config : StateM Network _) state.released).1 = .error .timeout ↔
        ∃ (failures : List Socket.Error) (last : Socket.Error),
          found = .ok ((failures ++ [last]).map .fail) ∧
            (last.kind = .timedOut ∨ last.kind = .wouldBlock)) ∧
      ∀ (σ Address Stream : Type) [Transport Address Stream (StateM σ)]
        (session closed : Session Stream) (start network reached before accepted left : σ)
        (refused others : List Address) (address : Address) (failures : List Socket.Error)
        (stream : Stream) (outcome : Except Socket.Error Stream),
        (session.close : StateM σ _) start = (closed, network) →
        (Transport.resolve closed.config.host closed.config.port : StateM σ _) network =
          (.ok (refused ++ address :: others), reached) →
        Refusals closed.config.timeout reached refused failures before →
        (Transport.dial address closed.config.timeout : StateM σ _) before =
          (.ok stream, accepted) →
        Limited closed.config.timeout stream accepted outcome left →
        (session.connect : StateM σ _) start =
          match outcome with
          | .error failure => ((.error (.io failure), closed), left)
          | .ok ready =>
            (do
              let (result, after) ← closed.exchange ready closed.config.credentials.frame
              return (result.bind welcome, after) : StateM σ _) left := by
  intro config script found
  have next : state.released.next.addresses config.host = found := by
    rw [state.released_next]
  have scripted {result : Except Socket.Error (List Verdict)} (same : found = result) :
      state.released.next.addresses state.session.config.host = result := next.trans same
  refine ⟨?_, ?_, ?_, ?_, ?_, ?_⟩
  · intro failure unresolved
    exact unopened_of_openStream (openStream_unknown (scripted unresolved))
  · intro empty
    have nowhere : state.released.next.addresses state.session.config.host =
        .ok (([] : List Socket.Error).map .fail) := scripted empty
    exact unopened_of_openStream (openStream_failures nowhere)
  · intro failures last refused
    have opened := openStream_failures (scripted refused)
    rw [unreachable_eq, List.getLastD_concat] at opened
    exact unopened_of_openStream opened
  · intro failures others accepted
    have opened := openStream_pass (scripted accepted)
    rw [state.released_next] at opened
    constructor
    · intro limits
      rw [limits] at opened
      exact wentOn_of_openStream opened
    · intro failure limits
      rw [limits] at opened
      exact unopened_of_openStream opened
  · rw [openStream_timeout_iff, next]
  · intro σ Address Stream _ session closed start network reached before accepted left refused
      others address failures stream outcome released resolved refusals accepts limits
    have opened := openStream_accepted resolved refusals accepts
    rw [limited_of_limits limits] at opened
    cases outcome with
    | error failure => exact connect_unopened released opened
    | ok ready => exact connect_opened released opened

end Conversation

end WorkflowClient
