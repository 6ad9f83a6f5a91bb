import WorkflowClient.Proofs.CallConditions
import WorkflowClient.Proofs.ReplyPairing

/-!
# What servers hear

A run of calls is told apart from what became of it: for each call, the attempt to connect that it
belongs to and whether a connection was open before it. From this alone it follows which frames are
due on which connection: the credentials first, and then the query of every workflow that was asked
for with a connection and a path. The far end of each connection hears exactly the due frames whose
transmission goes through, in their order and each once. A transmission that fails is the last one
on its connection.
-/

namespace WorkflowClient

/-- The verdicts that decide transmissions. -/
def decisive (verdicts : List Verdict) : List Verdict := verdicts.filter Verdict.decides

/-- A transmission takes the first decisive verdict, and without one it goes through. -/
theorem Peer.verdictOn_decisive (verdicts : List Verdict) :
    (verdictOn verdicts).1 = (decisive verdicts).head?.getD .pass ∧
      decisive (verdictOn verdicts).2 = (decisive verdicts).tail := by
  induction verdicts with
  | nil => exact ⟨rfl, rfl⟩
  | cons verdict others inductionHypothesis =>
    cases decides : verdict.decides with
    | true => simp [verdictOn, decisive, decides]
    | false => simpa [verdictOn, decisive, decides] using inductionHypothesis

/-- The frames that go through: each meets the next verdict, and when there is no verdict left it
goes through. -/
def carried : List Verdict → List (List UInt8) → List (List UInt8)
  | _, [] => []
  | [], frames => frames
  | .pass :: verdicts, frame :: frames => frame :: carried verdicts frames
  | .fail _ :: verdicts, _ :: frames => carried verdicts frames

/-- Without frames nothing is heard. -/
@[simp] theorem carried_nil (verdicts : List Verdict) : carried verdicts [] = [] := by
  cases verdicts <;> rfl

/-- A failed transmission is not followed by another frame. -/
def EndsAtFailure (verdicts : List Verdict) (frames : List (List UInt8)) : Prop :=
  ∀ number failure, verdicts[number]? = some (.fail failure) → frames.length ≤ number + 1

/-- A frame that goes through takes a verdict from the front, if there is one. -/
theorem carried_passed {verdicts : List Verdict} (passes : verdicts.head?.getD .pass = .pass)
    (frame : List UInt8) (frames : List (List UInt8)) :
    carried verdicts (frame :: frames) = frame :: carried verdicts.tail frames := by
  match verdicts with
  | [] => cases frames <;> rfl
  | .pass :: others => rfl
  | .fail failure :: others => simp at passes

/-- A frame that fails is not heard. -/
theorem carried_failed {verdicts : List Verdict} {failure : Socket.Error}
    (fails : verdicts.head?.getD .pass = .fail failure) (frame : List UInt8) :
    carried verdicts [frame] = [] := by
  match verdicts with
  | [] => simp at fails
  | .pass :: others => simp at fails
  | .fail _ :: others => cases others <;> rfl

/-- Of a single frame all or nothing is heard. -/
theorem carried_single (verdicts : List Verdict) (frame : List UInt8) :
    carried verdicts [frame] <+: [frame] := by
  match verdicts with
  | [] => simp [carried]
  | .pass :: others => simp [carried]
  | .fail _ :: others => simp [carried]

/-- If the first frame goes through, a failure among the others is the end of all of them. -/
theorem EndsAtFailure.cons {verdicts : List Verdict} (passes : verdicts.head?.getD .pass = .pass)
    {frames : List (List UInt8)} (ends : EndsAtFailure verdicts.tail frames) (frame : List UInt8) :
    EndsAtFailure verdicts (frame :: frames) := by
  intro number failure fails
  cases number with
  | zero =>
    rw [List.head?_eq_getElem?, fails] at passes
    simp at passes
  | succ number =>
    have within := ends number failure (by rw [List.getElem?_tail, fails])
    rw [List.length_cons]
    exact Nat.succ_le_succ within

/-- A single frame is always the last one. -/
theorem EndsAtFailure.single (verdicts : List Verdict) (frame : List UInt8) :
    EndsAtFailure verdicts [frame] := by
  intro number failure fails
  exact Nat.le_add_left 1 number

namespace Peer

open Socket

/-- A delivery leaves the verdicts on transmissions. -/
theorem deliver_sends (peer : Peer) (limit : Nat) : (peer.deliver limit).2.sends = peer.sends := by
  by_cases nothing : peer.pending = []
  · simp [deliver, nothing]
  · simp [deliver, nothing]

/-- A receive leaves the verdicts on transmissions. -/
theorem receive_sends (peer : Peer) : (Source.receive peer).2.sends = peer.sends := by
  simp only [Source.receive, receive]
  split
  · exact deliver_sends peer receiveLimit
  · next limit receives laid => exact deliver_sends { peer with receives } limit
  · rfl

/-- A read leaves the verdicts on transmissions. -/
theorem readLine_sends (reader : LineReader) (peer : Peer) :
    (reader.readLine peer).2.2.sends = peer.sends := by
  have ends := LineReader.readLine_ends reader peer
  generalize reader.readLine peer = result at ends
  cases ends with
  | line receives patient complete needed => exact receives.keeps receive_sends
  | failure receives patient failed unfinished => exact receives.keeps receive_sends

/-- A transmission that goes through has no failure first, and takes the first decisive verdict. -/
theorem transmit_passed {peer after : Peer} {frame : List UInt8}
    (sent : peer.transmit frame = (.ok (), after)) :
    (decisive peer.sends).head?.getD .pass = .pass ∧
      decisive after.sends = (decisive peer.sends).tail := by
  obtain ⟨first, others⟩ := verdictOn_decisive peer.sends
  rw [transmit] at sent
  split at sent
  · next sends decided =>
    rw [decided] at first others
    obtain ⟨-, rfl⟩ := Prod.mk.inj sent
    refine ⟨first.symm, ?_⟩
    simp only [hear]
    cases peer.replies with
    | nil => exact others
    | cons reply replies => exact others
  · simp at sent

/-- A transmission that fails has that failure first, and nothing is heard. -/
theorem transmit_failed {peer after : Peer} {frame : List UInt8} {failure : Socket.Error}
    (sent : peer.transmit frame = (.error failure, after)) :
    (decisive peer.sends).head?.getD .pass = .fail failure ∧ after.heard = peer.heard := by
  obtain ⟨first, -⟩ := verdictOn_decisive peer.sends
  rw [transmit] at sent
  split at sent
  · simp at sent
  · next other sends decided =>
    rw [decided] at first
    obtain ⟨same, rfl⟩ := Prod.mk.inj sent
    exact ⟨Except.error.inj same ▸ first.symm, rfl⟩

end Peer

namespace Session

/-- What an exchange and the frames due behind it come to on the wire: the far end hears those that
go through, whether the connection is kept or lost. -/
theorem Exchanged.carries {session after : Session Peer} {peer : Peer} {frame : List UInt8}
    {network left : Network} {result : Except ClientError Json}
    (exchanged : Exchanged session peer frame network result after left)
    {due : List (List UInt8)} (none : after.stream = none → due = []) :
    left.past.map Peer.heard ++
        after.stream.toList.map (fun last => last.heard ++ carried (decisive last.sends) due) =
      network.past.map Peer.heard ++ [peer.heard ++ carried (decisive peer.sends) (frame :: due)] ∧
    ((∀ last, after.stream = some last → EndsAtFailure (decisive last.sends) due) →
      EndsAtFailure (decisive peer.sends) (frame :: due)) := by
  cases exchanged with
  | refused sent =>
    obtain ⟨fails, silent⟩ := Peer.transmit_failed sent
    rw [none rfl]
    constructor
    · simp [new, Network.hangUp, silent, carried_failed fails]
    · intro _
      exact .single _ frame
  | @lost reached last reader error sent read =>
    obtain ⟨passes, -⟩ := Peer.transmit_passed sent
    have heard := Conversation.heard_left sent read
    rw [none rfl]
    constructor
    · simp [new, Network.hangUp, heard, carried_passed passes]
    · intro _
      exact .single _ frame
  | @replied reached last reader text sent read =>
    obtain ⟨passes, others⟩ := Peer.transmit_passed sent
    have heard := Conversation.heard_left sent read
    have sends : last.sends = reached.sends := by
      have kept := Peer.readLine_sends session.reader reached
      rwa [read] at kept
    constructor
    · simp [heard, sends, others, carried_passed passes]
    · intro ends
      refine .cons passes ?_ frame
      rw [← others, ← sends]
      exact ends last rfl

/-- An exchange adds to what has been heard its frame, if that goes through. -/
theorem Exchanged.heard {session after : Session Peer} {peer : Peer} {frame : List UInt8}
    {network left : Network} {result : Except ClientError Json}
    (exchanged : Exchanged session peer frame network result after left) :
    (⟨after, left⟩ : Conversation.State).heard =
      network.heard ++ (peer.heard ++ carried (decisive peer.sends) [frame]) := by
  have carries := congrArg List.flatten (exchanged.carries fun _ => rfl).1
  rw [Conversation.State.heard_connections, Conversation.State.connections, Network.heard,
    List.flatMap_append, List.flatMap_def, List.flatMap_def, List.flatMap_def]
  simpa [carried] using carries

/-- An exchange keeps the configuration and the scripts to come. -/
theorem Exchanged.keeps {session after : Session Peer} {peer : Peer} {frame : List UInt8}
    {network left : Network} {result : Except ClientError Json}
    (exchanged : Exchanged session peer frame network result after left) :
    after.config = session.config ∧ left.scripts = network.scripts ∧
      left.beyond = network.beyond := by
  cases exchanged with
  | refused sent => exact ⟨rfl, rfl, rfl⟩
  | lost sent read => exact ⟨rfl, rfl, rfl⟩
  | replied sent read => exact ⟨rfl, rfl, rfl⟩

end Session

namespace Conversation

open Session

/-- A call as it was asked for: on which attempt to connect, counted from one, and whether a
connection was open. -/
structure Asked where
  step : Step
  attempt : Nat
  connected : Bool

/-- The attempt that a call belongs to when so many were made before it. -/
def Step.attempt (step : Step) (before : Nat) : Nat :=
  match step with
  | .connect => before + 1
  | .run _ _ | .close | .config => before

/-- The calls of a run from a state, before which so many attempts to connect were made. -/
def State.asked (state : State) (before : Nat) : List Step → List Asked
  | [] => []
  | step :: steps =>
    ⟨step, step.attempt before, state.session.isConnected⟩ ::
      (state.step step).2.asked (step.attempt before) steps

/-- The attempt of a call that opens a connection. -/
def Asked.opening? (network : Network) (config : Config) (call : Asked) : Option Nat :=
  match call.step with
  | .connect =>
    if (network.scriptOf call.attempt).accepts config.host then some call.attempt else none
  | _ => none

/-- The query of a call for a workflow with a connection and a path. -/
def Asked.query? (call : Asked) : Option (List UInt8) :=
  match call.step with
  | .run path data =>
    if call.connected ∧ path ≠ "" then some (Envelope.make path data).frame else none
  | _ => none

/-- The attempts that open a connection, in their order. -/
def openings (network : Network) (config : Config) (calls : List Asked) : List Nat :=
  calls.filterMap (·.opening? network config)

/-- The queries on the connection of an attempt, in call order. -/
def queriesOn (attempt : Nat) (calls : List Asked) : List (List UInt8) :=
  (calls.filter (·.attempt = attempt)).filterMap Asked.query?

/-- The frames due on the connection of an attempt. -/
def framesOn (config : Config) (attempt : Nat) (calls : List Asked) : List (List UInt8) :=
  config.credentials.frame :: queriesOn attempt calls

/-- The frames that the far end of an attempt's connection hears. -/
def heardOn (network : Network) (config : Config) (calls : List Asked) (attempt : Nat) :
    List (List UInt8) :=
  carried (decisive (network.scriptOf attempt).sends) (framesOn config attempt calls)

/-- What is still to be asked for accounts for what the far ends have heard in the end: those of
closed connections have heard all they will, the open connection hears its queries, and each attempt
that opens a connection adds one. -/
structure Accounts (initial : Network) (before : Nat) (state : State) (calls : List Asked)
    (heard : List (List (List UInt8))) : Prop where
  heard_eq : heard =
    state.network.past.map Peer.heard ++
      state.session.stream.toList.map (fun peer =>
        peer.heard ++ carried (decisive peer.sends) (queriesOn before calls)) ++
      (openings initial state.session.config calls).map
        (heardOn initial state.session.config calls)
  later : ∀ attempt ∈ openings initial state.session.config calls, before < attempt
  ascending : (openings initial state.session.config calls).Pairwise (· < ·)
  placed : ∀ call ∈ calls, call.query?.isSome →
    call.attempt ∈ openings initial state.session.config calls ∨
      (call.attempt = before ∧ state.session.isConnected = true)
  ends : ∀ peer, state.session.stream = some peer →
    EndsAtFailure (decisive peer.sends) (queriesOn before calls)
  opened_ends : ∀ attempt ∈ openings initial state.session.config calls,
    EndsAtFailure (decisive (initial.scriptOf attempt).sends)
      (framesOn state.session.config attempt calls)

section

variable {initial : Network} {config : Config} {before attempt : Nat} {call : Asked}
  {calls : List Asked}

/-- A call that opens nothing leaves the attempts that do. -/
theorem openings_cons_none (silent : call.opening? initial config = none) :
    openings initial config (call :: calls) = openings initial config calls :=
  List.filterMap_cons_none silent

/-- A call without a query leaves the queries. -/
theorem queriesOn_cons_none (silent : call.query? = none) :
    queriesOn attempt (call :: calls) = queriesOn attempt calls := by
  by_cases here : call.attempt = attempt
  · simp [queriesOn, here, silent]
  · simp [queriesOn, here]

/-- A query on another connection leaves the queries. -/
theorem queriesOn_cons_elsewhere (elsewhere : call.attempt ≠ attempt) :
    queriesOn attempt (call :: calls) = queriesOn attempt calls := by
  simp [queriesOn, elsewhere]

/-- A query comes before those asked for later. -/
theorem queriesOn_cons_some {frame : List UInt8} (asks : call.query? = some frame) :
    queriesOn call.attempt (call :: calls) = frame :: queriesOn call.attempt calls := by
  simp [queriesOn, asks]

/-- A call without a query leaves what is heard. -/
theorem heardOn_cons_none (silent : call.query? = none) :
    heardOn initial config (call :: calls) = heardOn initial config calls := by
  funext attempt
  simp only [heardOn, framesOn, queriesOn_cons_none silent]

variable {state after : State} {heard : List (List (List UInt8))}

/-- On a connection that is gone no query is due: those asked for later belong to connections still
to be opened. -/
theorem Accounts.queriesOn_gone (accounts : Accounts initial before state calls heard)
    (past : attempt ≤ before)
    (gone : attempt = before → state.session.isConnected = false) :
    queriesOn attempt calls = [] := by
  rw [queriesOn, List.filterMap_eq_nil_iff]
  intro call member
  obtain ⟨present, same⟩ := List.mem_filter.mp member
  have here : call.attempt = attempt := of_decide_eq_true same
  cases asks : call.query? with
  | none => rfl
  | some frame =>
    rcases accounts.placed call present (Option.isSome_of_eq_some asks) with
      opened | ⟨own, connected⟩
    · have beyond := accounts.later call.attempt opened
      omega
    · have closed := gone (here.symm.trans own)
      exact absurd (closed.symm.trans connected) Bool.false_ne_true

/-- Without frames no failure is followed by one. -/
theorem endsAtFailure_nil (verdicts : List Verdict) : EndsAtFailure verdicts [] := by
  intro number failure fails
  exact Nat.zero_le (number + 1)

/-- A call that opens nothing and asks for nothing may come before those accounted for. -/
theorem Accounts.cons_silent (accounts : Accounts initial before state calls heard)
    (unopened : call.opening? initial state.session.config = none) (unasked : call.query? = none) :
    Accounts initial before state (call :: calls) heard := by
  constructor
  · rw [queriesOn_cons_none unasked, openings_cons_none unopened, heardOn_cons_none unasked]
    exact accounts.heard_eq
  · rw [openings_cons_none unopened]
    exact accounts.later
  · rw [openings_cons_none unopened]
    exact accounts.ascending
  · rw [openings_cons_none unopened]
    intro other member asks
    rcases List.mem_cons.mp member with rfl | present
    · simp [unasked] at asks
    · exact accounts.placed other present asks
  · rw [queriesOn_cons_none unasked]
    exact accounts.ends
  · rw [openings_cons_none unopened]
    simp only [framesOn, queriesOn_cons_none unasked]
    exact accounts.opened_ends

/-- What is asked for when a connection was let go accounts for the state before that: the
connection hears nothing more. -/
theorem Accounts.released {moved : Nat} (accounts : Accounts initial moved after calls heard)
    (later : before ≤ moved) (same : after.session = .new state.session.config)
    (past : after.network.past = state.connections) :
    Accounts initial before state calls heard := by
  have gone : after.session.isConnected = false := same ▸ rfl
  have kept : after.session.config = state.session.config := same ▸ rfl
  have quiet : queriesOn before calls = [] := accounts.queriesOn_gone later fun _ => gone
  constructor
  · rw [accounts.heard_eq, kept, past, same, quiet]
    simp [State.connections, new]
  · intro attempt opened
    exact Nat.lt_of_le_of_lt later (accounts.later attempt (kept ▸ opened))
  · rw [← kept]
    exact accounts.ascending
  · intro call member asks
    rcases accounts.placed call member asks with opened | ⟨-, connected⟩
    · exact .inl (kept ▸ opened)
    · exact absurd (gone.symm.trans connected) Bool.false_ne_true
  · intro peer connected
    rw [quiet]
    exact endsAtFailure_nil _
  · rw [← kept]
    exact accounts.opened_ends

/-- An attempt that opens a connection accounts for the frames that are due on it. -/
theorem Accounts.cons_opened {peer : Peer} {middle : Network} {result : Except ClientError Json}
    (accounts : Accounts initial (before + 1) after calls heard)
    (exchanged : Exchanged (.new state.session.config) peer
      state.session.config.credentials.frame middle result after.session after.network)
    (accepted : (initial.scriptOf (before + 1)).accepts state.session.config.host = true)
    (fresh : peer = (initial.scriptOf (before + 1)).peer) (past : middle.past = state.connections)
    (kept : after.session.config = state.session.config) :
    Accounts initial before state
      (⟨.connect, before + 1, state.session.isConnected⟩ :: calls) heard := by
  have opening : openings initial state.session.config
      (⟨.connect, before + 1, state.session.isConnected⟩ :: calls) =
        (before + 1) :: openings initial state.session.config calls := by
    simp [openings, Asked.opening?, accepted]
  have unasked : (⟨.connect, before + 1, state.session.isConnected⟩ : Asked).query? = none := rfl
  have quiet : queriesOn before calls = [] := by
    refine accounts.queriesOn_gone (Nat.le_succ before) ?_
    intro same
    exact absurd same (Nat.ne_of_lt (Nat.lt_succ_self before))
  have lost : after.session.stream = none → queriesOn (before + 1) calls = [] := by
    intro disconnected
    refine accounts.queriesOn_gone (Nat.le_refl _) ?_
    intro _
    rw [isConnected, disconnected, Option.isSome_none]
  obtain ⟨carries, ends⟩ := exchanged.carries lost
  constructor
  · rw [accounts.heard_eq, carries, past, kept, opening, heardOn_cons_none unasked,
      queriesOn_cons_none unasked, quiet, fresh]
    simp [State.connections, heardOn, framesOn, Script.peer]
  · rw [opening]
    intro attempt opened
    rcases List.mem_cons.mp opened with rfl | others
    · exact Nat.lt_succ_self before
    · exact Nat.lt_of_succ_lt (accounts.later attempt (kept ▸ others))
  · rw [opening, ← kept]
    exact List.pairwise_cons.mpr ⟨accounts.later, accounts.ascending⟩
  · rw [opening]
    intro call member asks
    rcases List.mem_cons.mp member with rfl | present
    · simp [unasked] at asks
    · rcases accounts.placed call present asks with opened | ⟨own, -⟩
      · exact .inl (List.mem_cons_of_mem _ (kept ▸ opened))
      · exact .inl (own ▸ List.mem_cons_self)
  · intro other connected
    rw [queriesOn_cons_none unasked, quiet]
    exact endsAtFailure_nil _
  · rw [opening]
    simp only [framesOn, queriesOn_cons_none unasked]
    intro attempt opened
    rcases List.mem_cons.mp opened with rfl | others
    · rw [← show peer.sends = (initial.scriptOf (before + 1)).sends from fresh ▸ rfl]
      exact ends accounts.ends
    · have within := accounts.opened_ends attempt (kept ▸ others)
      rwa [framesOn, kept] at within

/-- A workflow that is asked for with a connection and a path accounts for its query. -/
theorem Accounts.cons_query {peer : Peer} {path : String} {data : Option (Dictionary Json)}
    {result : Except ClientError Json} (accounts : Accounts initial before after calls heard)
    (connected : state.session.stream = some peer) (named : path ≠ "")
    (exchanged : Exchanged state.session peer (Envelope.make path data).frame state.network result
      after.session after.network)
    (kept : after.session.config = state.session.config) :
    Accounts initial before state (⟨.run path data, before, state.session.isConnected⟩ :: calls)
      heard := by
  have isOpen : state.session.isConnected = true := by
    rw [isConnected, connected, Option.isSome_some]
  have asks : (⟨.run path data, before, state.session.isConnected⟩ : Asked).query? =
      some (Envelope.make path data).frame := by
    simp [Asked.query?, isOpen, named]
  have unopened : (⟨.run path data, before, state.session.isConnected⟩ : Asked).opening? initial
      state.session.config = none := rfl
  have lost : after.session.stream = none → queriesOn before calls = [] := by
    intro disconnected
    refine accounts.queriesOn_gone (Nat.le_refl _) ?_
    intro _
    rw [isConnected, disconnected, Option.isSome_none]
  -- The query belongs to the open connection, so later connections are accounted for as before.
  have others {attempt : Nat} (opened : attempt ∈ openings initial state.session.config calls) :
      queriesOn attempt (⟨.run path data, before, state.session.isConnected⟩ :: calls) =
        queriesOn attempt calls :=
    queriesOn_cons_elsewhere (Nat.ne_of_lt (accounts.later attempt (kept ▸ opened)))
  obtain ⟨carries, ends⟩ := exchanged.carries lost
  constructor
  · rw [accounts.heard_eq, carries, kept, openings_cons_none unopened, queriesOn_cons_some asks,
      connected]
    congr 1
    refine List.map_congr_left ?_
    intro attempt opened
    simp only [heardOn, framesOn, others opened]
  · rw [openings_cons_none unopened, ← kept]
    exact accounts.later
  · rw [openings_cons_none unopened, ← kept]
    exact accounts.ascending
  · rw [openings_cons_none unopened, ← kept]
    intro call member due
    rcases List.mem_cons.mp member with rfl | present
    · exact .inr ⟨rfl, isOpen⟩
    · rcases accounts.placed call present due with opened | ⟨own, -⟩
      · exact .inl opened
      · exact .inr ⟨own, isOpen⟩
  · intro other same
    rw [connected] at same
    rw [← Option.some.inj same, queriesOn_cons_some asks]
    exact ends accounts.ends
  · rw [openings_cons_none unopened]
    intro attempt opened
    rw [framesOn, others opened]
    have within := accounts.opened_ends attempt (kept ▸ opened)
    rwa [framesOn, kept] at within

/-- The attempts made before a call and by the call itself add up. -/
theorem Step.attempt_eq (step : Step) (before : Nat) :
    step.attempt before = before + step.attempt 0 := by
  cases step with
  | connect => rfl
  | run path data => rfl
  | close => rfl
  | config => rfl

/-- A call keeps the configuration, and only an attempt to connect meets a script. -/
theorem Called.keeps {step : Step} {outcome : Outcome} (called : Called state step outcome after) :
    after.session.config = state.session.config ∧
      after.network.scripts = state.network.scripts.drop (step.attempt 0) ∧
      after.network.beyond = state.network.beyond := by
  obtain ⟨scripts, beyond, -⟩ := state.released_keeps
  cases called with
  | config => exact ⟨rfl, rfl, rfl⟩
  | close => exact ⟨rfl, scripts, beyond⟩
  | idle disconnected => exact ⟨rfl, rfl, rfl⟩
  | pathless connected => exact ⟨rfl, rfl, rfl⟩
  | ran connected exchanged => exact exchanged.keeps
  | unopened opened =>
    obtain ⟨met, others, -⟩ := opened.meets
    exact ⟨rfl, by rw [met, scripts, Step.attempt, List.drop_one], others.trans beyond⟩
  | connected opened exchanged =>
    obtain ⟨met, others, -⟩ := opened.meets
    obtain ⟨same, left, rest⟩ := exchanged.keeps
    exact ⟨same, by rw [left, met, scripts, Step.attempt, List.drop_one],
      rest.trans (others.trans beyond)⟩

/-- What is asked for behind a call, with the call before it, accounts for the state before it. -/
theorem Accounts.step {step : Step}
    (accounts : Accounts initial (step.attempt before) (state.step step).2 calls heard)
    (next : state.network.next = initial.scriptOf (before + 1)) :
    Accounts initial before state
      (⟨step, step.attempt before, state.session.isConnected⟩ :: calls) heard := by
  have kept := (step_called state step).keeps.1
  cases step with
  | config => exact accounts.cons_silent rfl rfl
  | close =>
    rw [step_close] at accounts
    exact (accounts.released (Nat.le_refl before) rfl state.released_past).cons_silent rfl rfl
  | run path data =>
    by_cases refused : state.session.isConnected = false ∨ path = ""
    · rw [step_run_refused data refused] at accounts
      refine accounts.cons_silent rfl ?_
      rcases refused with disconnected | unnamed
      · simp [Asked.query?, disconnected]
      · simp [Asked.query?, unnamed]
    · obtain ⟨isOpen, named⟩ := not_or.mp refused
      obtain ⟨peer, connected⟩ := Option.isSome_iff_exists.mp (eq_true_of_ne_false isOpen)
      obtain ⟨result, session, network, made, exchanged⟩ := call_run_exchanged connected named data
      have after : (state.step (.run path data)).2 = ⟨session, network⟩ := congrArg Prod.snd made
      rw [after] at accounts kept
      exact accounts.cons_query connected named exchanged kept
  | connect =>
    cases accepted : state.network.next.accepts state.session.config.host with
    | true =>
      obtain ⟨middle, result, session, network, made, opened, exchanged⟩ :=
        call_connect_opened state accepted
      have after : (state.step .connect).2 = ⟨session, network⟩ := congrArg Prod.snd made
      rw [after] at accounts kept
      exact accounts.cons_opened exchanged (next ▸ accepted) (next ▸ rfl)
        (opened.past.trans state.released_past) kept
    | false =>
      obtain ⟨error, middle, made, opened⟩ := call_connect_unopened state accepted
      have after : (state.step .connect).2 = ⟨.new state.session.config, middle⟩ :=
        congrArg Prod.snd made
      rw [after] at accounts
      have unopened : (⟨.connect, before + 1, state.session.isConnected⟩ : Asked).opening? initial
          state.session.config = none := by
        simp [Asked.opening?, ← next, accepted]
      exact (accounts.released (Nat.le_succ before) rfl
        (opened.past.trans state.released_past)).cons_silent unopened rfl

/-- A run accounts for what the far ends have heard behind it. -/
theorem run_accounts (initial : Network) (steps : List Step) {before : Nat} {state : State}
    (scripts : state.network.scripts = initial.scripts.drop before)
    (beyond : state.network.beyond = initial.beyond) :
    Accounts initial before state (state.asked before steps)
      ((state.run steps).2.connections.map Peer.heard) := by
  induction steps generalizing before state with
  | nil =>
    constructor
    · simp [State.run, State.asked, State.connections, queriesOn, openings]
    · simp [State.asked, openings]
    · simp [State.asked, openings]
    · simp [State.asked]
    · intro peer connected
      exact endsAtFailure_nil _
    · simp [State.asked, openings]
  | cons step steps inductionHypothesis =>
    have next : state.network.next = initial.scriptOf (before + 1) := by
      rw [Network.next, scripts, beyond, List.head?_drop, Network.scriptOf, Nat.add_sub_cancel]
    obtain ⟨-, met, others⟩ := (step_called state step).keeps
    have scriptsLeft : (state.step step).2.network.scripts =
        initial.scripts.drop (step.attempt before) := by
      rw [met, scripts, List.drop_drop, step.attempt_eq before]
    exact (inductionHypothesis scriptsLeft (others.trans beyond)).step next

end

section

variable {state last : State} {outcome : Outcome}

/-- Connecting adds the credentials to what has been heard, if it opens a connection and they go
through. -/
theorem connect_heard (made : state.call .connect = (outcome, last)) :
    last.heard = state.heard ++
      if state.network.next.accepts state.session.config.host then
        carried (decisive state.network.next.sends) [state.session.config.credentials.frame]
      else [] := by
  have kept : state.released.heard = state.heard := state.released_keeps.2.2
  cases accepted : state.network.next.accepts state.session.config.host with
  | false =>
    obtain ⟨error, middle, failed, opened⟩ := call_connect_unopened state accepted
    obtain ⟨-, rfl⟩ := Prod.mk.inj (failed.symm.trans made)
    have heard : middle.heard = state.heard := opened.meets.2.2.1.trans kept
    rw [if_neg Bool.false_ne_true, ← heard]
    rfl
  | true =>
    obtain ⟨middle, result, session, after, connected, opened, exchanged⟩ :=
      call_connect_opened state accepted
    obtain ⟨-, rfl⟩ := Prod.mk.inj (connected.symm.trans made)
    have heard : middle.heard = state.heard := opened.meets.2.2.1.trans kept
    rw [exchanged.heard, heard]
    rfl

/-- A workflow adds its query to what has been heard, if it has a path and the query goes through,
and nothing else. -/
theorem run_heard {path : String} {data : Option (Dictionary Json)}
    (made : state.call (.run path data) = (outcome, last)) :
    ∃ frames, last.heard = state.heard ++ frames ∧ frames <+: [(Envelope.make path data).frame] ∧
      (path = "" → frames = []) := by
  by_cases refused : state.session.isConnected = false ∨ path = ""
  · have unchanged : last = state := by
      rw [← step_run_refused data refused]
      exact (congrArg Prod.snd made).symm
    exact ⟨[], by simp [unchanged], List.nil_prefix, fun _ => rfl⟩
  · obtain ⟨isOpen, named⟩ := not_or.mp refused
    obtain ⟨peer, connected⟩ := Option.isSome_iff_exists.mp (eq_true_of_ne_false isOpen)
    obtain ⟨result, session, after, ran, exchanged⟩ := call_run_exchanged connected named data
    obtain ⟨-, rfl⟩ := Prod.mk.inj (ran.symm.trans made)
    refine ⟨_, ?_, carried_single (decisive peer.sends) _, fun unnamed => absurd unnamed named⟩
    rw [exchanged.heard]
    simp [State.heard, connected]

end

/-- The far ends hear exactly the frames due on their connections whose transmission goes through,
in every run of calls, on whatever network.

The connections there are in the end are those that were there before the run and, in order, one for
each attempt to connect that opened one. On each of them the credentials of the configuration are
due first and then the queries of the workflows that were asked for with that connection open and
with a path, in call order; no other call has a frame due. A frame meets the next verdict on
transmissions that is no interruption, and is heard if it goes through. One that fails is the last
frame due on its connection. -/
theorem wire_language (config : Config) (network : Network) (steps : List Step) :
    let calls := (State.start config network).asked 0 steps
    ((State.start config network).run steps).2.connections.map Peer.heard =
        network.past.map Peer.heard ++
          (openings network config calls).map (heardOn network config calls) ∧
      (openings network config calls).Pairwise (· < ·) ∧
      (∀ call ∈ calls, call.query?.isSome → call.attempt ∈ openings network config calls) ∧
      ∀ attempt ∈ openings network config calls,
        EndsAtFailure (decisive (network.scriptOf attempt).sends)
          (framesOn config attempt calls) := by
  intro calls
  have accounts : Accounts network 0 (State.start config network) calls
      (((State.start config network).run steps).2.connections.map Peer.heard) :=
    run_accounts network steps rfl rfl
  refine ⟨?_, accounts.ascending, ?_, accounts.opened_ends⟩
  · rw [accounts.heard_eq]
    simp [State.start, new]
  · intro call member asks
    rcases accounts.placed call member asks with opened | ⟨-, connected⟩
    · exact opened
    · exact absurd connected Bool.false_ne_true

end Conversation

end WorkflowClient
