import FindyAgent.Api

/-!
# Protocol state machines and their store

Every protocol instance has a record, a PSM, kept under the key `(worker DID, nonce)`: the list
of states it has been in, each with its sub-state bits and the task that drove it.  Beside it each
family keeps its own representation record under the same key, written by the protocol's
starter.  `Store` holds the three tables.

The package `psm`, the task package of present proof, `prot.StartPSM` and
`prot.AddAndSetFlagUpdatePSM` are not among the sources.  What the modelled code needs of them is
taken from the spec:

* the sub-state bit field, its composites, and `Pure()`, which drops the ACK and NACK bits;
* a PSM's last state, its connection label, and its pending-user-action flag;
* `startPSM`, the spec's `StartPSM`: a new key only, the starter's setup first (a failing setup
  writes nothing), then a `Sending` entry, then `Failure` or `Waiting` as the send goes;
* `addAndSetFlagUpdatePSM`: a copy of the last state with some bits set, appended.

`startPSM_fst` is what a start on a new key with a setup that succeeds leaves: the setup's
writes and the two entries, of which the second is the PSM's last state (`addState_lastState`).

The tasks a PSM holds are a `Task`: the present-proof task, the issue-credential task, or a task
of another family.  A single-valued type assertion on one of them is a match on this type.
-/

set_option autoImplicit false

namespace FindyAgent

/-! ## Sub-states -/

/-- Modelled from the spec: `psm.SubState`, a bit field over `Sending`, `Waiting`, `Ready`,
`Failure`, `ACK`, `NACK` and `Archiving`, one bit each in that order. -/
abbrev SubState := BitVec 8

namespace SubState

def sending : SubState := 0x01
def waiting : SubState := 0x02
def ready : SubState := 0x04
def failure : SubState := 0x08
def ack : SubState := 0x10
def nack : SubState := 0x20
def archiving : SubState := 0x40
def readyACK : SubState := ready ||| ack
def readyNACK : SubState := ready ||| nack

/-- Modelled from the spec: `Pure()`, the sub-state without its ACK and NACK bits. -/
def pure (s : SubState) : SubState := s &&& ~~~(ack ||| nack)

end SubState

/-! ## Tasks -/

/-- `comm.TaskHeader`, with what the modelled code reads of it. -/
structure TaskHeader where
  taskID : String
  typeID : PlType
  connID : String
  /-- `UserActionType()`: the question the task waits on a user for. -/
  userActionType : PlType
  deriving DecidableEq, Repr

/-- `task.AcceptRequest` and its siblings: the user decision a present-proof task waits for. -/
inductive ActionType where
  | acceptRequest
  | acceptPropose
  | acceptValues
  deriving DecidableEq, Repr

/-- `task.TaskPresentProof`. -/
structure TaskPresentProof where
  header : TaskHeader
  comment : String
  proofAttrs : List ProofAttribute
  proofPredicates : List ProofPredicate
  actionType : ActionType
  deriving DecidableEq, Repr

/-- `taskIssueCredential`. -/
structure TaskIssueCredential where
  header : TaskHeader
  comment : String
  credentialAttrs : List CredentialAttribute
  credDefID : String
  deriving DecidableEq, Repr

/-- A `comm.Task` as a PSM stores it, by its dynamic type. -/
inductive Task where
  | presentProof (t : TaskPresentProof)
  | issueCredential (t : TaskIssueCredential)
  /-- A task of another family. -/
  | other (header : TaskHeader)
  deriving DecidableEq, Repr

/-- The header every task carries. -/
def Task.header : Task → TaskHeader
  | .presentProof t => t.header
  | .issueCredential t => t.header
  | .other h => h

/-- Whether the task is an issue-credential task. -/
def Task.isIssueCredential : Task → Bool
  | .issueCredential _ => true
  | _ => false

/-- Whether the task is a present-proof task. -/
def Task.isPresentProof : Task → Bool
  | .presentProof _ => true
  | _ => false

/-! ## PSM records -/

/-- `psm.StateKey`. -/
structure StateKey where
  DID : String
  nonce : String
  deriving DecidableEq, Repr

/-- One entry of a PSM: what the spec lists a state entry as carrying, less the timestamp.  A
nil task `T` is `none`. -/
structure State where
  sub : SubState
  T : Option Task
  pwName : String
  pendingUserAction : Bool
  deriving DecidableEq, Repr

/-- `psm.PSM`. -/
structure PSM where
  /-- The role of this end, a `pb.Protocol_Role`. -/
  role : BitVec 32
  states : List State
  deriving DecidableEq, Repr

namespace PSM

/-- `LastState()`; `none` is nil. -/
def lastState (m : PSM) : Option State := m.states.getLast?

/-- Modelled from the spec: `PendingUserAction()`, the flag of the last state. -/
def pendingUserAction (m : PSM) : Bool := (m.lastState.map State.pendingUserAction).getD false

/-- Modelled from the spec: `PairwiseName()`, the connection label of the last state. -/
def pairwiseName (m : PSM) : String := (m.lastState.map State.pwName).getD ""

end PSM

/-! ## Representation records -/

/-- `data.IssueCredRep`, without the coded values, which no modelled function reads. -/
structure IssueCredRep where
  key : StateKey
  credDefID : String
  /-- The indy credential offer, a JSON text; empty until an offer is made. -/
  credOffer : String
  attributes : List CredentialAttribute
  deriving DecidableEq, Repr

/-- `psm.PresentProofRep`; `proofReq` is `none` for the empty JSON text a prover stores. -/
structure PresentProofRep where
  key : StateKey
  values : String
  weProposed : Bool
  proofReq : Option ProofRequest
  attributes : List ProofAttribute

/-- The durable store: PSMs and the two families' records, all under the same keys. -/
structure Store where
  psms : GoMap StateKey PSM
  issueCredReps : GoMap StateKey IssueCredRep
  presentProofReps : GoMap StateKey PresentProofRep

namespace Store

/-- A store with nothing in it. -/
def empty : Store := ⟨∅, ∅, ∅⟩

/-- `psm.GetPSM(key)`: the record, nil when there is none. -/
def getPSM (s : Store) (key : StateKey) : Except String (Option PSM) := .ok (s.psms.lookup key)

/-- `data.GetIssueCredRep(key)`. -/
def getIssueCredRep (s : Store) (key : StateKey) : Except String (Option IssueCredRep) :=
  .ok (s.issueCredReps.lookup key)

/-- `psm.AddRep(rep)` for an issue-credential record. -/
def addIssueCredRep (rep : IssueCredRep) (s : Store) : Store :=
  { s with issueCredReps := s.issueCredReps.insert rep.key rep }

/-- `psm.AddPresentProofRep(rep)`. -/
def addPresentProofRep (rep : PresentProofRep) (s : Store) : Store :=
  { s with presentProofReps := s.presentProofReps.insert rep.key rep }

/-- Appends an entry to the PSM under `key`, creating it with the role `role`. -/
def addState (key : StateKey) (role : BitVec 32) (st : State) (s : Store) : Store :=
  let m := (s.psms.lookup key).getD ⟨role, []⟩
  { s with psms := s.psms.insert key { m with states := m.states ++ [st] } }

@[simp] theorem addPresentProofRep_psms (rep : PresentProofRep) (s : Store) :
    (s.addPresentProofRep rep).psms = s.psms := rfl

@[simp] theorem addPresentProofRep_issueCredReps (rep : PresentProofRep) (s : Store) :
    (s.addPresentProofRep rep).issueCredReps = s.issueCredReps := rfl

@[simp] theorem addIssueCredRep_psms (rep : IssueCredRep) (s : Store) :
    (s.addIssueCredRep rep).psms = s.psms := rfl

@[simp] theorem addIssueCredRep_presentProofReps (rep : IssueCredRep) (s : Store) :
    (s.addIssueCredRep rep).presentProofReps = s.presentProofReps := rfl

@[simp] theorem addState_issueCredReps (key : StateKey) (role : BitVec 32) (st : State)
    (s : Store) : (s.addState key role st).issueCredReps = s.issueCredReps := rfl

@[simp] theorem addState_presentProofReps (key : StateKey) (role : BitVec 32) (st : State)
    (s : Store) : (s.addState key role st).presentProofReps = s.presentProofReps := rfl

/-- The PSM under `key` after an entry is appended to it: the entry is its last state. -/
theorem addState_lastState (key : StateKey) (role : BitVec 32) (st : State) (s : Store) :
    ((s.addState key role st).psms.lookup key).bind PSM.lastState = some st := by
  simp [addState, Finmap.lookup_insert, PSM.lastState]

end Store

/-! ## Starting a protocol -/

/-- `prot.Initial`: what a starter hands to `StartPSM`.  The outbound message is left out; the
setup's writes to it go to the peer, and nothing modelled reads them. -/
structure Initial where
  sendNext : PlType
  waitingNext : PlType
  /-- The worker DID of the CA that starts. -/
  wdid : String
  T : Task
  /-- `Setup(key, msg)`, as its writes to the store. -/
  setup : StateKey → Store → Except String Store

namespace Initial

variable (init : Initial)

/-- The key of the protocol a starter starts: the worker DID and the task's nonce. -/
def key : StateKey := ⟨init.wdid, init.T.header.taskID⟩

/-- An entry of the starting PSM: the sub-state, the task, and the connection. -/
def entry (sub : SubState) : State := ⟨sub, some init.T, init.T.header.connID, false⟩

end Initial

/-- What a starter's setup may write: one record of its task's family, under the key it is
given, and no PSM. -/
def Initial.SetupWrites (init : Initial) : Prop :=
  ∀ s s', init.setup init.key s = .ok s' →
    (init.T.isIssueCredential ∧
      ∃ rep : IssueCredRep, rep.key = init.key ∧ s' = s.addIssueCredRep rep) ∨
    (init.T.isPresentProof ∧
      ∃ rep : PresentProofRep, rep.key = init.key ∧ s' = s.addPresentProofRep rep)

/-- Modelled from the spec: `prot.StartPSM` (package `agent/prot`) is not under `src/`; this is
§4.C.1 of the spec.  The key is the worker DID and the task's nonce; an existing key is a
`DuplicateProtocol`; a failing setup aborts with no change; then the initiator's `Sending`
entry is written, and `Failure` or `Waiting` after it as the send (`send`) fails or not. -/
def startPSM (send : Except String Unit) (init : Initial) (s : Store) : Store × Except String Unit :=
  if init.key ∈ s.psms then (s, .error "DuplicateProtocol") else
  match init.setup init.key s with
  | .error e => (s, .error e)
  | .ok s =>
    let s := s.addState init.key Protocol.INITIATOR (init.entry SubState.sending)
    match send with
    | .error e => (s.addState init.key Protocol.INITIATOR (init.entry SubState.failure), .error e)
    | .ok () => (s.addState init.key Protocol.INITIATOR (init.entry SubState.waiting), .ok ())

/-- The sub-state `startPSM` ends a new protocol in: `Waiting`, or `Failure` if the send fails. -/
def sentSubState (send : Except String Unit) : SubState :=
  match send with
  | .ok () => SubState.waiting
  | .error _ => SubState.failure

/-- **What a start leaves**: on a new key whose setup succeeds, the setup's writes and the two
entries of the new PSM. -/
theorem startPSM_fst {send : Except String Unit} {init : Initial} {s s' : Store}
    (hfresh : init.key ∉ s.psms) (hsetup : init.setup init.key s = .ok s') :
    (startPSM send init s).1 =
      (s'.addState init.key Protocol.INITIATOR (init.entry SubState.sending)).addState init.key
        Protocol.INITIATOR (init.entry (sentSubState send)) := by
  unfold startPSM
  rw [if_neg hfresh, hsetup]
  cases send <;> rfl

/-- The PSMs after a start on a new key whose setup writes no PSM: the new PSM, with its two
entries, beside the others. -/
theorem startPSM_psms_lookup (send : Except String Unit) {init : Initial} {s s' : Store}
    (hfresh : init.key ∉ s.psms) (hsetup : init.setup init.key s = .ok s') (hpsms : s'.psms = s.psms)
    (k : StateKey) :
    (startPSM send init s).1.psms.lookup k =
      if k = init.key then
        some ⟨Protocol.INITIATOR, [init.entry SubState.sending, init.entry (sentSubState send)]⟩
      else s.psms.lookup k := by
  have hnone : s.psms.lookup init.key = none := Finmap.lookup_eq_none.mpr hfresh
  rw [startPSM_fst hfresh hsetup]
  simp only [Store.addState, hpsms, hnone, Option.getD_none, GoMap.lookup_insert_eq_ite, if_true,
    Option.getD_some, List.nil_append, List.singleton_append]
  split <;> rfl

/-! ## Setting a flag -/

/-- Modelled from the spec: `prot.AddAndSetFlagUpdatePSM(key, flag, clear)` (package `agent/prot`)
is not under `src/`.  §3 has a PSM append-only, its last entry the current state, and allows an
`Archiving` overlay on a terminal state: this appends a copy of the last state with the bits
`flag` set and the bits `clear` cleared.  A key with no PSM, or a PSM with no state, is an
error. -/
def addAndSetFlagUpdatePSM (key : StateKey) (flag clear : SubState) (s : Store) :
    Except String Store :=
  match s.psms.lookup key with
  | none => .error "PSM not found"
  | some m =>
    match m.lastState with
    | none => .error "PSM has no state"
    | some last => .ok (s.addState key m.role { last with sub := (last.sub ||| flag) &&& ~~~clear })

/-- **What a flag update writes**: one entry, a copy of the last state with the new bits, on the
PSM that is there. -/
theorem addAndSetFlagUpdatePSM_ok {key : StateKey} {flag clear : SubState} {s s' : Store}
    (h : addAndSetFlagUpdatePSM key flag clear s = .ok s') :
    ∃ m last, s.psms.lookup key = some m ∧ m.lastState = some last ∧
      s' = s.addState key m.role { last with sub := (last.sub ||| flag) &&& ~~~clear } := by
  unfold addAndSetFlagUpdatePSM at h
  split at h
  · cases h
  · rename_i m hm
    split at h
    · cases h
    · exact ⟨m, _, hm, ‹_›, (Except.ok.inj h).symm⟩

/-- The PSMs after an entry is appended to one that is there: that PSM with the entry, beside
the others. -/
theorem Store.addState_lookup {key : StateKey} {m : PSM} {s : Store} (role : BitVec 32)
    (st : State) (hm : s.psms.lookup key = some m) (k : StateKey) :
    (s.addState key role st).psms.lookup k =
      if k = key then some { m with states := m.states ++ [st] } else s.psms.lookup k := by
  simp only [Store.addState, hm, Option.getD_some, GoMap.lookup_insert_eq_ite]

end FindyAgent
