import FindyAgent.Psm

/-!
# The PSM engine: transitions driven by inbound messages

Every protocol handler of the processors' handler tables delegates to `prot.ExecPSM`: it builds
a `prot.Transition` of the packet it was handed, the message types it sends next and waits for
next, the task, and its `InOut` business logic, and the engine runs it on the PSM of the key
`(receiver's worker DID, thread ID)`.  Package `prot` is not among the sources; `execPSM` is
§4.C.2 of the spec.

* A PSM whose last state is final (`PSM.closed`: `Ready` or `Failure`, with or without the
  `Archiving` overlay) refuses the message with `ProtocolClosed` and nothing is written.
* Otherwise the engine appends two entries: a `Sending` entry for the receipt, then the entry
  the transition ends on (`Transition.result`): `Failure` when `InOut` or the send fails,
  `ReadyACK` or `ReadyNACK` by the ACK bit when the next message is `Terminate`, and `Waiting`
  otherwise (`execPSM_lookup`).  That entry is `Waiting` or one that ends the protocol
  (`Transition.result_landing`), as is the one a start lands on (`Initial.entry_landing`).
* The other keys' PSMs are as they were (`execPSM_lookup_of_ne`).
-/

set_option autoImplicit false

namespace FindyAgent

/-! ## Packets and transitions -/

/-- The `pltype` handler names of the processors' handler tables, one constructor each; a message
of any other type is `other`. -/
inductive HandlerType where
  | presentProofPropose | presentProofRequest | presentProofPresentation
  | presentProofACK | presentProofNACK
  | issueCredentialPropose | issueCredentialOffer | issueCredentialRequest
  | issueCredentialIssue | issueCredentialACK | issueCredentialNACK
  | other
  deriving DecidableEq, Repr

/-- `comm.Packet`, with what the handlers and the engine read of it: the receiver's worker DID,
and of the payload its thread ID, its type, its protocol message, and the connection it came
over. -/
structure Packet where
  wdid : String
  threadID : String
  payloadType : PlType
  protocolMsg : HandlerType
  connID : String
  deriving DecidableEq, Repr

/-- `prot.Transition`: the packet, the message types sent and waited for next, the task (`none`
is nil), and what `InOut` returns, the ACK bit or an error. -/
structure Transition where
  packet : Packet
  sendNext : PlType
  waitingNext : PlType
  task : Option Task
  inOut : Except String Bool

namespace Transition

variable (tr : Transition)

/-- The key of the PSM a transition runs on. -/
def key : StateKey := ⟨tr.packet.wdid, tr.packet.threadID⟩

/-- An entry the engine writes for the transition. -/
def entry (sub : SubState) (pending : Bool) : State := ⟨sub, tr.task, tr.packet.connID, pending⟩

/-- The entry a transition ends on, after its `Sending` entry: its sub-state and pending flag, and
what `ExecPSM` returns.  `send` is how the send of the reply goes, and `userAction` whether the
transition then waits on a user's decision (§4.D). -/
def result (send : Except String Unit) (userAction : Bool) :
    (SubState × Bool) × Except String Unit :=
  match tr.inOut with
  | .error e => ((SubState.failure, false), .error e)
  | .ok ack =>
    if tr.sendNext = .terminate then
      ((if ack then SubState.readyACK else SubState.readyNACK, false), .ok ())
    else
      match send with
      | .error e => ((SubState.failure, false), .error e)
      | .ok () => ((SubState.waiting, userAction), .ok ())

/-- The transition of a handler that ends its protocol on the message it is handed: nothing is
sent or waited for next, and `InOut` returns `ack` and no error (the handlers of a protocol's
last message: `handleProofACK`, `handleProofNACK`, `handleCredentialNACK`). -/
def terminal (packet : Packet) (task : Option Task) (ack : Bool) : Transition :=
  ⟨packet, .terminate, .terminate, task, .ok ack⟩

/-- A terminal transition ends on `ReadyACK` or `ReadyNACK` by its ACK bit, however the send
would go. -/
@[simp]
theorem result_terminal (packet : Packet) (task : Option Task) (ack : Bool)
    (send : Except String Unit) (userAction : Bool) :
    (terminal packet task ack).result send userAction =
      ((if ack then SubState.readyACK else SubState.readyNACK, false), .ok ()) := rfl

end Transition

/-! ## Final states -/

/-- Modelled from the spec: a sub-state is final when its `Pure()` projection is `Ready` or
`Failure`, with or without the `Archiving` bit (§3). -/
def SubState.final (s : SubState) : Prop :=
  s.pure = SubState.ready ∨ s.pure = SubState.ready ||| SubState.archiving ∨
    s.pure = SubState.failure ∨ s.pure = SubState.failure ||| SubState.archiving

instance (s : SubState) : Decidable s.final := inferInstanceAs (Decidable (_ ∨ _))

@[simp] theorem SubState.readyACK_pure : SubState.readyACK.pure = SubState.ready := by decide
@[simp] theorem SubState.readyNACK_pure : SubState.readyNACK.pure = SubState.ready := by decide
@[simp] theorem SubState.readyACK_ack : SubState.readyACK &&& SubState.ack = 0x10 := by decide
@[simp] theorem SubState.readyNACK_ack : SubState.readyNACK &&& SubState.ack = 0 := by decide

/-- A PSM is closed when its last state is final. -/
def PSM.closed (m : PSM) : Bool :=
  match m.lastState with
  | some last => decide last.sub.final
  | none => false

/-! ## The entries the engine writes -/

/-- An entry that ends a protocol as the engine writes one: `Failure`, `ReadyACK` or
`ReadyNACK`, with no user action pending. -/
def State.Ending (e : State) : Prop :=
  (e.sub = SubState.failure ∨ e.sub = SubState.readyACK ∨ e.sub = SubState.readyNACK) ∧
    e.pendingUserAction = false

/-- The entry a start or a transition lands on after its `Sending` entry: `Waiting`, or an entry
that ends the protocol. -/
def State.Landing (e : State) : Prop := e.sub = SubState.waiting ∨ e.Ending

/-- The `Archiving` overlay of an entry, as `Release` appends it: a copy with the bit set and
nothing cleared. -/
def State.archived (e : State) : State :=
  { e with sub := (e.sub ||| SubState.archiving) &&& ~~~0 }

/-- A transition lands on `Waiting`, or on an entry that ends the protocol. -/
theorem Transition.result_landing (tr : Transition) (send : Except String Unit)
    (userAction : Bool) :
    (tr.entry (tr.result send userAction).1.1 (tr.result send userAction).1.2).Landing := by
  unfold Transition.result
  split
  · exact .inr ⟨.inl rfl, rfl⟩
  · split
    · split
      · exact .inr ⟨.inr (.inl rfl), rfl⟩
      · exact .inr ⟨.inr (.inr rfl), rfl⟩
    · split
      · exact .inr ⟨.inl rfl, rfl⟩
      · exact .inl rfl

/-- A start lands on `Waiting`, or on `Failure` when its send fails. -/
theorem Initial.entry_landing (init : Initial) (send : Except String Unit) :
    (init.entry (sentSubState send)).Landing := by
  cases send
  · exact .inr ⟨.inl rfl, rfl⟩
  · exact .inl rfl

/-! ## The transition -/

/-- Modelled from the spec: `prot.ExecPSM(transition)` (package `agent/prot`) is not under
`src/`; this is §4.C.2.  A closed PSM refuses the message; otherwise the PSM of the key, created
for an addressee if there is none, gets the `Sending` entry of the receipt and then the entry
the transition ends on.

Two rules of §4.C are left out.  Step 1 lets a closed PSM take "a retransmission the protocol
permits": neither family of the sources names one (each registers one handler per message type
and nothing else), and §3 and §8 ask that a terminal PSM gain no entry, so here none is
permitted.  A duplicate that comes in while the PSM waits for another message type is ignored,
with no state change: the engine with that rule runs as this one does on the same messages
without the duplicates, so every theorem about all runs of calls holds of it too. -/
def execPSM (send : Except String Unit) (userAction : Bool) (tr : Transition) (s : Store) :
    Store × Except String Unit :=
  if (s.psms.lookup tr.key).any PSM.closed then (s, .error "ProtocolClosed") else
  let r := tr.result send userAction
  (((s.addState tr.key Protocol.ADDRESSEE (tr.entry SubState.sending false)).addState tr.key
    Protocol.ADDRESSEE (tr.entry r.1.1 r.1.2)), r.2)

section exec

variable {send : Except String Unit} {userAction : Bool} {tr : Transition} {s : Store}

/-- On a protocol that is not closed, the PSM of the key gets the two entries, appended to what
it had. -/
theorem execPSM_lookup (hopen : (s.psms.lookup tr.key).any PSM.closed = false) :
    (execPSM send userAction tr s).1.psms.lookup tr.key =
      some { (s.psms.lookup tr.key).getD ⟨Protocol.ADDRESSEE, []⟩ with
        states := ((s.psms.lookup tr.key).getD ⟨Protocol.ADDRESSEE, []⟩).states ++
          [tr.entry SubState.sending false,
            tr.entry (tr.result send userAction).1.1 (tr.result send userAction).1.2] } := by
  rw [execPSM, if_neg (by rw [hopen]; decide)]
  cases hm : s.psms.lookup tr.key <;> simp [Store.addState, hm, Finmap.lookup_insert]

/-- The other keys' PSMs are as they were. -/
theorem execPSM_lookup_of_ne {k : StateKey} (hk : k ≠ tr.key) :
    (execPSM send userAction tr s).1.psms.lookup k = s.psms.lookup k := by
  unfold execPSM
  split
  · rfl
  · simp only [Store.addState, Finmap.lookup_insert_of_ne _ hk]

end exec

/-! ## Inbound messages -/

/-- An inbound message as the engine meets it: the transition its handler builds, how the send
of the reply goes, and whether the transition then waits on a user. -/
structure Inbound where
  tr : Transition
  send : Except String Unit
  userAction : Bool

/-- The engine on one inbound message. -/
def Inbound.exec (i : Inbound) (s : Store) : Store × Except String Unit :=
  execPSM i.send i.userAction i.tr s

end FindyAgent
