import FindyAgent.Server.DidCommServer
import FindyAgent.Server.Run

/-!
# The protocol lifecycle over whole runs

The calls that write the PSMs of an agency are the two starters, `Release`, and the engine on an
inbound message: present proof's `handleProtocol`, issue credential's `handleCredentialNACK`, or
the transition of any other handler (`EngineOp`).  What one of them may do to the PSM under a key
is said once, by `KeyWrite`: leave it, create it, put the `Archiving` overlay on its last state,
or append entries to it when it is not closed (`EngineOp.keyWrite`).  Everything else is derived
from that, for every run of calls from every store (`EngineOp.run`):

* **A closed protocol only gains the overlay**: a PSM whose last state is final gets nothing but
  copies of that state with `Archiving` set (`run_closed_log`).  This is §3's "`ReadyACK` and
  `ReadyNACK` are absorbing for protocol logic but still permit an `Archiving` overlay".
* **Every log has one shape**: entries of a running protocol, then at most one entry that ends
  it, then only its overlays (`LogShape`, `logShape_of_run`).
* **A finished protocol keeps its answer**: once `Status` reports `OK`, `NACK` or `ERR` for a
  protocol of a family without a status filler, it answers the same after any run
  (`status_final_stable`).  Underneath, the log is append-only (`run_appendOnly`) and the state
  `calcProtocolState` reads off a finished PSM never changes (`run_final_code`).
* **`Run` and `Status` agree**: when the loop of `Run` ends on the states the bus hands it, some
  of them possibly dropped, `Status` reports the code it ended with, then and after any later
  run (`status_of_runLoop`); when the loop receives every state, it ends once the protocol has
  (`run_runLoop_ends`).
* **The prover's end**: on the verifier's ACK or NACK, `handleProtocol` ends the prover's
  protocol, and from then on `Status` reports `OK` or `NACK` as the message says
  (`status_after_handleProtocol`).

The status filler of issue credential is the exception to the two results on `Status`: it can
answer nil (`DidCommServer.status_holder_nil`), so they are stated for the other families.
-/

set_option autoImplicit false

namespace FindyAgent

open Protocol

variable {dec : IssueCredential.ObjectDecoder} {nilPairwiseName : Go String}

/-! ## What a call may do to one PSM -/

/-- What one call may do to the PSM under a key: nothing; create it with a `Sending` entry and the
entry the start or the transition lands on; put the `Archiving` overlay on its last state (as
`Release` does); or, when it is not closed, append two such entries to it. -/
inductive KeyWrite : Option PSM → Option PSM → Prop
  | same (o : Option PSM) : KeyWrite o o
  | create (role : BitVec 32) {e₁ e₂ : State} (h₁ : e₁.sub = SubState.sending)
      (h₂ : e₂.Landing) : KeyWrite none (some ⟨role, [e₁, e₂]⟩)
  | archive {m : PSM} {last : State} (hlast : m.lastState = some last) :
      KeyWrite (some m) (some { m with states := m.states ++ [last.archived] })
  | append {m : PSM} (hopen : m.closed = false) {e₁ e₂ : State}
      (h₁ : e₁.sub = SubState.sending) (h₂ : e₂.Landing) :
      KeyWrite (some m) (some { m with states := m.states ++ [e₁, e₂] })

section writes

variable {s : Store} (k : StateKey)

theorem KeyWrite.of_startPSM (send : Except String Unit) {init : Initial}
    (hinit : init.SetupWrites) :
    KeyWrite (s.psms.lookup k) ((startPSM send init s).1.psms.lookup k) := by
  by_cases hfresh : init.key ∈ s.psms
  · rw [startPSM, if_pos hfresh]
    exact .same _
  cases hsetup : init.setup init.key s with
  | error e =>
    simp only [startPSM, if_neg hfresh, hsetup]
    exact .same _
  | ok s' =>
    rw [startPSM_psms_lookup send hfresh hsetup (hinit.psms hsetup)]
    split
    · rw [‹k = init.key›, Finmap.lookup_eq_none.mpr hfresh]
      exact .create _ rfl (init.entry_landing send)
    · exact .same _

theorem KeyWrite.of_release (auth : Except String String) (id : ProtocolID) :
    KeyWrite (s.psms.lookup k) ((DidCommServer.release auth s id).1.psms.lookup k) := by
  cases auth with
  | error e => exact .same _
  | ok wdid =>
    simp only [DidCommServer.release]
    split
    · exact .same _
    · obtain ⟨m, last, hm, hlast, rfl⟩ := addAndSetFlagUpdatePSM_ok ‹_›
      rw [Store.addState_lookup _ _ hm]
      split
      · rw [‹k = _›, hm]
        exact .archive hlast
      · exact .same _

theorem KeyWrite.of_execPSM (send : Except String Unit) (userAction : Bool) (tr : Transition) :
    KeyWrite (s.psms.lookup k) ((execPSM send userAction tr s).1.psms.lookup k) := by
  by_cases hk : k = tr.key
  · subst hk
    cases hc : (s.psms.lookup tr.key).any PSM.closed
    · rw [execPSM_lookup hc]
      have hl := tr.result_landing send userAction
      cases hm : s.psms.lookup tr.key with
      | none => exact .create _ rfl hl
      | some m => exact .append (by simpa [hm] using hc) rfl hl
    · rw [execPSM, if_pos hc]
      exact .same _
  · rw [execPSM_lookup_of_ne hk]
    exact .same _

end writes

/-! ## The calls, and runs of them -/

/-- A call that writes the PSMs: a start by either family's starter, `Release`, or an inbound
message, handled by present proof's `handleProtocol`, by issue credential's
`handleCredentialNACK`, or by any other handler as the transition it runs (the handlers of
packages `issuer`, `holder`, `verifier` and `prover` are not among the sources). -/
inductive EngineOp where
  | proof (send : Except String Unit) (nonce wdid : String) (t : Task)
  | issue (createOffer : String → Except String String) (send : Except String Unit)
      (wdid : String) (t : Task)
  | release (auth : Except String String) (id : ProtocolID)
  | presentProof (h : PresentProof.Handlers) (send : Except String Unit) (userAction : Bool)
      (packet : Packet)
  | credentialNACK (send : Except String Unit) (userAction : Bool) (packet : Packet)
  | exec (i : Inbound)

namespace EngineOp

/-- The store a call leaves. -/
def apply : EngineOp → Store → Store
  | .proof send nonce wdid t, s => PresentProof.startProofProtocol send nonce wdid t s
  | .issue createOffer send wdid t, s =>
    IssueCredential.startIssueCredentialByPropose createOffer send wdid t s
  | .release auth id, s => (DidCommServer.release auth s id).1
  | .presentProof h send userAction packet, s =>
    (PresentProof.handleProtocol h send userAction packet s).1
  | .credentialNACK send userAction packet, s =>
    (execPSM send userAction (IssueCredential.handleCredentialNACK packet) s).1
  | .exec i, s => (i.exec s).1

/-- The store a sequence of calls leaves, one after another. -/
def run (ops : List EngineOp) (s : Store) : Store :=
  ops.foldl (fun s op => op.apply s) s

/-- **What a call can do to the PSM under any key**: one of the writes of `KeyWrite`. -/
theorem keyWrite (op : EngineOp) (s : Store) (k : StateKey) :
    KeyWrite (s.psms.lookup k) ((op.apply s).psms.lookup k) := by
  cases op with
  | proof send nonce wdid t =>
    rcases PresentProof.startProofProtocol_cases send nonce wdid t s with h | ⟨init, hinit, h⟩
    · rw [apply, h]; exact .same _
    · rw [apply, h]; exact .of_startPSM k send hinit
  | issue createOffer send wdid t =>
    rcases IssueCredential.startIssueCredentialByPropose_cases createOffer send wdid t s with
      h | ⟨init, hinit, h⟩
    · rw [apply, h]; exact .same _
    · rw [apply, h]; exact .of_startPSM k send hinit
  | release auth id => exact .of_release k auth id
  | presentProof h send userAction packet =>
    rcases PresentProof.handleProtocol_cases h send userAction packet with h' | ⟨tr, -, h'⟩
    · rw [apply, h']; exact .same _
    · rw [apply, h']; exact .of_execPSM k send userAction tr
  | credentialNACK send userAction packet => exact .of_execPSM k send userAction _
  | exec i => exact .of_execPSM k i.send i.userAction i.tr

end EngineOp

/-! ### A run to check the results on -/

/-- The prover's PSM after the verifier's ACK: the receipt, then `ReadyACK`. -/
def scenarioProverPSM : PSM :=
  ⟨Protocol.ADDRESSEE, [⟨SubState.sending, none, "conn-1", false⟩,
    ⟨SubState.readyACK, none, "conn-1", false⟩]⟩

/-- A store with the prover's finished protocol. -/
def scenarioProverStore : Store :=
  ⟨Finmap.singleton ⟨"did:worker", "nonce-1"⟩ scenarioProverPSM, ∅, ∅⟩

/-- A NACK that comes in late for the finished protocol. -/
def scenarioLateNACK : Packet :=
  ⟨"did:worker", "nonce-1", .presentProofPresentation, .presentProofNACK, "conn-1"⟩

/-- The client releases the protocol, then the late NACK comes in. -/
def scenarioReleaseAndNACK : List EngineOp :=
  [.release (.ok "did:worker") ⟨0, 0, "nonce-1"⟩,
    .credentialNACK (.ok ()) false scenarioLateNACK]

/-- The prover's end of a protocol on a new key: the verifier's request comes in and waits on the
user, then the verifier's ACK ends it. -/
def scenarioProverRun : List EngineOp :=
  [.exec ⟨⟨⟨"did:worker", "nonce-1", .presentProofRequest, .presentProofRequest, "conn-1"⟩,
      .presentProofPresentation, .terminate, none, .ok true⟩, .ok (), true⟩,
    .exec ⟨.terminal ⟨"did:worker", "nonce-1", .presentProofPresentation, .presentProofACK,
      "conn-1"⟩ none true, .ok (), false⟩]

/-- The log that run writes. -/
def scenarioProverLog : PSM :=
  ⟨Protocol.ADDRESSEE, [⟨SubState.sending, none, "conn-1", false⟩,
    ⟨SubState.waiting, none, "conn-1", true⟩, ⟨SubState.sending, none, "conn-1", false⟩,
    ⟨SubState.readyACK, none, "conn-1", false⟩]⟩

/-! ## The log is append-only -/

/-- A write keeps the PSM that was there, with its role and its entries first. -/
theorem KeyWrite.appends {o o' : Option PSM} (hw : KeyWrite o o') {m : PSM} (hm : o = some m) :
    ∃ m', o' = some m' ∧ m'.role = m.role ∧ ∃ es, m'.states = m.states ++ es := by
  cases hw with
  | same => exact ⟨m, hm, rfl, [], (List.append_nil _).symm⟩
  | create => cases hm
  | archive | append => cases hm; exact ⟨_, rfl, rfl, _, rfl⟩

/-- Every run keeps every PSM, with its role, and its entries followed by new ones. -/
theorem run_appendOnly (ops : List EngineOp) {s : Store} {k : StateKey} {m : PSM}
    (hm : s.psms.lookup k = some m) :
    ∃ m', (EngineOp.run ops s).psms.lookup k = some m' ∧ m'.role = m.role ∧
      ∃ es, m'.states = m.states ++ es := by
  induction ops generalizing s m with
  | nil => exact ⟨m, hm, rfl, [], (List.append_nil _).symm⟩
  | cons op ops ih =>
    obtain ⟨m₁, hm₁, hrole₁, es₁, hes₁⟩ := (op.keyWrite s k).appends hm
    obtain ⟨m', hm', hrole, es, hes⟩ := ih hm₁
    exact ⟨m', hm', hrole.trans hrole₁, es₁ ++ es, by rw [hes, hes₁, List.append_assoc]⟩

/-! ## A closed protocol only gains the overlay -/

/-- The `Archiving` overlay keeps a final sub-state final: checked on each of the 256. -/
theorem final_archiving : ∀ sub : SubState,
    sub.final → ((sub ||| SubState.archiving) &&& ~~~0).final := by
  decide

/-- The overlay of an overlay is the overlay: checked on each of the 256 sub-states. -/
theorem archiving_archiving : ∀ sub : SubState,
    (((sub ||| SubState.archiving) &&& ~~~0) ||| SubState.archiving) &&& ~~~0 =
      (sub ||| SubState.archiving) &&& ~~~0 := by
  decide

theorem State.archived_archived (e : State) : e.archived.archived = e.archived := by
  simp only [State.archived, archiving_archiving]

/-- The overlay of an entry that is the final one or its overlay is the final one's overlay. -/
theorem State.archived_ite (f : State) (n : Nat) :
    (if n = 0 then f else f.archived).archived = f.archived := by
  split
  · rfl
  · exact f.archived_archived

/-- A PSM whose last state is a final entry, or its overlay, is closed. -/
theorem PSM.closed_of_overlaid {m : PSM} {f : State} {n : Nat} (hf : f.sub.final)
    (hl : m.lastState = some (if n = 0 then f else f.archived)) : m.closed := by
  rw [PSM.closed, hl, decide_eq_true_eq]
  split
  · exact hf
  · exact final_archiving _ hf

/-- The PSM `m` with `n` overlays of `last` after its entries. -/
def PSM.archived (m : PSM) (last : State) (n : Nat) : PSM :=
  { m with states := m.states ++ List.replicate n last.archived }

section archived

variable {m : PSM} {last : State}

end archived

/-- The state codes of a finished protocol. -/
def StateCode.final : StateCode → Bool
  | .OK | .NACK | .ERR => true
  | _ => false

/-- A PSM whose state reads as finished is closed. -/
theorem closed_of_final {m : PSM} (h : (calcProtocolState (some m)).final) : m.closed := by
  rw [PSM.closed]
  cases hl : m.lastState with
  | none =>
    simp only [calcProtocolState, hl] at h
    split_ifs at h <;> exact absurd h (by decide)
  | some last =>
    simp only [calcProtocolState, hl] at h
    simp only [SubState.final, decide_eq_true_eq]
    split_ifs at h <;> first | exact absurd h (by decide) | tauto

/-- A write to a PSM whose state reads as finished leaves the state as it reads. -/
theorem KeyWrite.code {o o' : Option PSM} (hw : KeyWrite o o')
    (hf : (calcProtocolState o).final) : calcProtocolState o' = calcProtocolState o := by
  cases hw with
  | same => rfl
  | create => simp [calcProtocolState, StateCode.final] at hf
  | archive hlast => exact calcProtocolState_archiving hlast
  | append hopen => simp [closed_of_final hf] at hopen

/-- **A finished protocol keeps its answer**: once the state of a PSM reads `OK`, `NACK` or `ERR`,
it reads the same after any run of calls. -/
theorem run_final_code (ops : List EngineOp) {s : Store} {k : StateKey}
    (hf : (calcProtocolState (s.psms.lookup k)).final) :
    calcProtocolState ((EngineOp.run ops s).psms.lookup k) =
      calcProtocolState (s.psms.lookup k) := by
  induction ops generalizing s with
  | nil => rfl
  | cons op ops ih =>
    have hstep := (op.keyWrite s k).code hf
    exact (ih (hstep ▸ hf)).trans hstep

/-! ## What `Status` reports of a finished protocol -/

/-- For a family without a filler, `status` answers a finished protocol's generic status after
any run. -/
theorem status_run_of_final (ops : List EngineOp) {s : Store} {wdid : String} {id : ProtocolID}
    {family : PlType} (hfam : protocolNameAt id.typeID = .ok family)
    (hgen : family ≠ .protocolIssueCredential) {m : PSM}
    (hm : s.psms.lookup ⟨wdid, id.ID⟩ = some m) (hf : (calcProtocolState (some m)).final) :
    DidCommServer.status dec nilPairwiseName (.ok wdid) (EngineOp.run ops s) id =
      .ok (.ok (some (genericStatus id (some m)))) := by
  obtain ⟨m', hm', hrole, -⟩ := run_appendOnly ops hm
  have hcode := run_final_code ops (k := ⟨wdid, id.ID⟩) (by rwa [hm])
  rw [hm', hm] at hcode
  rw [DidCommServer.status_of_generic hm' hfam hgen]
  simp only [genericStatus, Option.map_some', Option.getD_some, hrole, hcode]

/-- **Once `Status` reports a protocol finished, it answers the same after any run**: for a
family without a status filler, a status whose state is `OK`, `NACK` or `ERR` is the answer
again after every later run of starts, releases and inbound messages. -/
theorem status_final_stable (ops : List EngineOp) {s : Store} {wdid : String} {id : ProtocolID}
    {family : PlType} {ps : ProtocolStatus} (hfam : protocolNameAt id.typeID = .ok family)
    (hgen : family ≠ .protocolIssueCredential)
    (hps : DidCommServer.status dec nilPairwiseName (.ok wdid) s id = .ok (.ok (some ps)))
    (hf : ps.state.state.final) :
    DidCommServer.status dec nilPairwiseName (.ok wdid) (EngineOp.run ops s) id =
      .ok (.ok (some ps)) := by
  cases hm : s.psms.lookup ⟨wdid, id.ID⟩ with
  | none =>
    rw [DidCommServer.status_state_of_none hm hfam hgen hps] at hf
    cases hf
  | some m =>
    rw [DidCommServer.status_of_generic hm hfam hgen] at hps
    cases hps
    exact status_run_of_final ops hfam hgen hm hf

/-- The prover's finished protocol, asked for by its client, after a release and a late NACK. -/
theorem status_final_stable_prover :
    protocolNameAt PROOF = .ok .protocolPresentProof ∧
      PlType.protocolPresentProof ≠ .protocolIssueCredential ∧
      DidCommServer.status emptyObjectDecoder (.ok "") (.ok "did:worker") scenarioProverStore
          ⟨PROOF, ADDRESSEE, "nonce-1"⟩ =
        .ok (.ok (some (genericStatus ⟨PROOF, ADDRESSEE, "nonce-1"⟩ (some scenarioProverPSM)))) ∧
      (genericStatus ⟨PROOF, ADDRESSEE, "nonce-1"⟩ (some scenarioProverPSM)).state.state.final ∧
      DidCommServer.status emptyObjectDecoder (.ok "") (.ok "did:worker")
          (EngineOp.run scenarioReleaseAndNACK scenarioProverStore) ⟨PROOF, ADDRESSEE, "nonce-1"⟩ =
        .ok (.ok (some (genericStatus ⟨PROOF, ADDRESSEE, "nonce-1"⟩ (some scenarioProverPSM)))) :=
  have hps : DidCommServer.status emptyObjectDecoder (.ok "") (.ok "did:worker")
      scenarioProverStore ⟨PROOF, ADDRESSEE, "nonce-1"⟩ =
        .ok (.ok (some (genericStatus ⟨PROOF, ADDRESSEE, "nonce-1"⟩ (some scenarioProverPSM)))) := by
    decide
  ⟨rfl, by decide, hps, by decide,
    status_final_stable scenarioReleaseAndNACK rfl (by decide) hps (by decide)⟩

/-! ## Run and Status agree

`Run` learns how a protocol ends from the states the bus hands its loop, `Status` from the PSM's
last state.  The bus passes on the entries of the PSM as they are written, in order, and may drop
some (§4.E: best-effort delivery), so every state `Run`'s loop receives is the state of an entry
of the PSM.  Every log the calls write has one shape (`LogShape`): entries of a running
protocol, then, once it ends, the entry that ends it and nothing but its overlays
(`run_logShape`).  The only state of such a log that breaks the loop is the entry that ends the
protocol, so a `Run` that ends reports what `Status` reads (`status_of_runLoop`), and a `Run`
that receives every state ends once the protocol has (`run_runLoop_ends`). -/

/-- A sub-state of a protocol that has not ended: `Sending` or `Waiting`, with or without the
overlay. -/
def SubState.running (x : SubState) : Prop :=
  x = SubState.sending ∨ x = SubState.waiting ∨
    x = (SubState.sending ||| SubState.archiving) &&& ~~~0 ∨
    x = (SubState.waiting ||| SubState.archiving) &&& ~~~0

instance (x : SubState) : Decidable x.running := inferInstanceAs (Decidable (_ ∨ _))

/-- The shape of every log the calls write: entries of a running protocol, then, once it ends,
the entry that ends it, followed by nothing but overlays of it. -/
def LogShape (l : List State) : Prop :=
  (∀ e ∈ l, e.sub.running) ∨
    ∃ pre f n, l = pre ++ f :: List.replicate n f.archived ∧ (∀ e ∈ pre, e.sub.running) ∧
      f.Ending

/-- The state code `calcProtocolState` reads off a last state with no user action pending. -/
def subCode (x : SubState) : StateCode :=
  if x.pure = SubState.ready ∨ x.pure = SubState.ready ||| SubState.archiving then
    if x &&& SubState.ack ≠ 0 then .OK else .NACK
  else if x.pure = SubState.failure ∨ x.pure = SubState.failure ||| SubState.archiving then .ERR
  else .RUNNING

theorem calcProtocolState_of_lastState {m : PSM} {e : State} (hl : m.lastState = some e)
    (hp : e.pendingUserAction = false) : calcProtocolState (some m) = subCode e.sub := by
  simp only [calcProtocolState, PSM.pendingUserAction, hl, Option.map_some', Option.getD_some, hp,
    subCode, Bool.false_eq_true, if_false]

/-! ### The sub-states, one by one -/

theorem running_archived :
    ∀ x : SubState, x.running → ((x ||| SubState.archiving) &&& ~~~0).running := by
  rintro x (rfl | rfl | rfl | rfl) <;> decide

theorem running_not_final : ∀ x : SubState, x.running → ¬x.final := by
  rintro x (rfl | rfl | rfl | rfl) <;> decide

theorem running_breakCode : ∀ x : SubState, x.running → breakCode x = none := by
  rintro x (rfl | rfl | rfl | rfl) <;> decide

theorem State.Ending.final {f : State} (hf : f.Ending) : f.sub.final := by
  rcases hf with ⟨h | h | h, -⟩ <;> rw [h] <;> decide

/-- The entry that ends a protocol breaks the loop with the code its PSM reads. -/
theorem State.Ending.breakCode_eq_some {f : State} (hf : f.Ending) :
    breakCode f.sub = some (subCode f.sub) := by
  rcases hf with ⟨h | h | h, -⟩ <;> rw [h] <;> decide

/-- Its overlay does not break the loop. -/
theorem State.Ending.breakCode_archived {f : State} (hf : f.Ending) :
    breakCode f.archived.sub = none := by
  rcases hf with ⟨h | h | h, -⟩ <;> simp only [State.archived, h] <;> decide

theorem subCode_archived (e : State) : subCode e.archived.sub = subCode e.sub :=
  archiving_overlay_code e.sub

/-! ### The shape of the logs -/

theorem getLast?_overlays (pre : List State) (f : State) (n : Nat) :
    (pre ++ f :: List.replicate n f.archived).getLast? =
      some (if n = 0 then f else f.archived) := by
  rw [← List.singleton_append, ← List.append_assoc, List.getLast?_append,
    List.getLast?_replicate]
  split <;> simp

/-- A log whose last entry ends its protocol is the log of a closed PSM. -/
theorem closed_of_overlays {m : PSM} {pre : List State} {f : State} {n : Nat}
    (hm : m.states = pre ++ f :: List.replicate n f.archived) (hf : f.Ending) : m.closed :=
  PSM.closed_of_overlaid hf.final (by rw [PSM.lastState, hm, getLast?_overlays])

/-- A running protocol's log with a `Sending` entry and a landing entry after it. -/
theorem LogShape.landing {l : List State} (hl : ∀ e ∈ l, e.sub.running) {e₁ e₂ : State}
    (h₁ : e₁.sub = SubState.sending) (h₂ : e₂.Landing) : LogShape (l ++ [e₁, e₂]) := by
  have he₁ : e₁.sub.running := .inl h₁
  rcases h₂ with hw | hend
  · refine .inl fun e he => ?_
    simp only [List.mem_append, List.mem_cons, List.mem_singleton, List.not_mem_nil,
      or_false] at he
    rcases he with he | rfl | rfl
    · exact hl e he
    · exact he₁
    · exact .inr (.inl hw)
  · refine .inr ⟨l ++ [e₁], e₂, 0, by simp, fun e he => ?_, hend⟩
    rcases List.mem_append.mp he with he | he
    · exact hl e he
    · rw [List.mem_singleton.mp he]; exact he₁

/-- A log with the overlay of its last entry after it. -/
theorem LogShape.archive {l : List State} (hl : LogShape l) {last : State}
    (hlast : l.getLast? = some last) : LogShape (l ++ [last.archived]) := by
  rcases hl with hr | ⟨pre, f, n, rfl, hpre, hf⟩
  · refine .inl fun e he => ?_
    rcases List.mem_append.mp he with he | he
    · exact hr e he
    · rw [List.mem_singleton.mp he]
      exact running_archived _ (hr last (List.mem_of_getLast?_eq_some hlast))
  · refine .inr ⟨pre, f, n + 1, ?_, hpre, hf⟩
    rw [getLast?_overlays, Option.some.injEq] at hlast
    rw [← hlast, State.archived_ite, List.replicate_succ']
    simp

/-- Every write keeps the shape of the log under a key. -/
theorem KeyWrite.logShape {o o' : Option PSM} (hw : KeyWrite o o')
    (h : ∀ m, o = some m → LogShape m.states) :
    ∀ m', o' = some m' → LogShape m'.states := by
  cases hw with
  | same => exact h
  | create role h₁ h₂ =>
    rintro _ ⟨⟩
    exact LogShape.landing (l := []) (fun _ he => nomatch he) h₁ h₂
  | archive hlast =>
    rintro _ ⟨⟩
    exact (h _ rfl).archive hlast
  | append hopen h₁ h₂ =>
    rintro _ ⟨⟩
    rcases h _ rfl with hr | ⟨pre, f, n, hm, -, hf⟩
    · exact .landing hr h₁ h₂
    · simp [closed_of_overlays hm hf] at hopen

/-- **Every log the calls write has the shape**: over any run, from a store whose PSM under the
key has it, or that has none there. -/
theorem run_logShape (ops : List EngineOp) {s : Store} {k : StateKey}
    (h : ∀ m, s.psms.lookup k = some m → LogShape m.states) :
    ∀ m, (EngineOp.run ops s).psms.lookup k = some m → LogShape m.states := by
  induction ops generalizing s with
  | nil => exact h
  | cons op ops ih => exact ih ((op.keyWrite s k).logShape h)

/-- **Every log written from the empty store has the shape**: entries of a running protocol,
then at most one entry that ends it, and after that only its `Archiving` overlays. -/
theorem logShape_of_run (ops : List EngineOp) (k : StateKey) {m : PSM}
    (hm : (EngineOp.run ops Store.empty).psms.lookup k = some m) : LogShape m.states :=
  run_logShape ops (fun _ h => by simp [Store.empty] at h) m hm

theorem logShape_of_run_prover :
    (EngineOp.run scenarioProverRun Store.empty).psms.lookup ⟨"did:worker", "nonce-1"⟩ =
        some scenarioProverLog ∧ LogShape scenarioProverLog.states :=
  ⟨by decide, logShape_of_run scenarioProverRun ⟨"did:worker", "nonce-1"⟩ (by decide)⟩

/-! ### The loop of `Run` -/

/-- The codes the loop of `Run` breaks with are those of a finished protocol. -/
theorem breakCode_final {x : SubState} {c : StateCode} (h : breakCode x = some c) : c.final := by
  unfold breakCode at h
  split_ifs at h <;> cases h <;> rfl

/-- In a log of the shape, a status that breaks `Run`'s loop is that of the entry that ends the
protocol, and the code it breaks with is the state the PSM reads. -/
theorem LogShape.breakCode_eq {m : PSM} (hl : LogShape m.states) {e : State} (he : e ∈ m.states)
    {c : StateCode} (hb : breakCode e.sub = some c) : calcProtocolState (some m) = c := by
  rcases hl with hr | ⟨pre, f, n, hm, hpre, hf⟩
  · rw [running_breakCode _ (hr e he)] at hb; cases hb
  have hlast : m.lastState = some (if n = 0 then f else f.archived) := by
    rw [PSM.lastState, hm, getLast?_overlays]
  have hcode : calcProtocolState (some m) = subCode f.sub := by
    rw [calcProtocolState_of_lastState hlast (by split <;> exact hf.2)]
    split
    · rfl
    · exact subCode_archived f
  rw [hm] at he
  simp only [List.mem_append, List.mem_cons] at he
  rcases he with he | rfl | he
  · rw [running_breakCode _ (hpre e he)] at hb; cases hb
  · rw [hf.breakCode_eq_some, Option.some.injEq] at hb
    rw [hcode, hb]
  · rw [List.eq_of_mem_replicate he, hf.breakCode_archived] at hb; cases hb

/-- **What `Run` reports, `Status` reads**: for a protocol of a family without a status filler,
started on a key with no PSM, if `Run`'s loop ends on the states the bus hands it (any of the
PSM's entries' states, some dropped, with user actions between them), `Status` on the protocol
reports the code the loop ended with, and goes on reporting it after any later run. -/
theorem status_of_runLoop (ops ops' : List EngineOp) {s : Store} {wdid : String}
    {id : ProtocolID} {family : PlType} (hfam : protocolNameAt id.typeID = .ok family)
    (hgen : family ≠ .protocolIssueCredential) (hk : s.psms.lookup ⟨wdid, id.ID⟩ = none)
    {m : PSM} (hm : (EngineOp.run ops s).psms.lookup ⟨wdid, id.ID⟩ = some m)
    (send : ℕ → ProtocolState → Except String Unit) (taskID : String) {evs : List Event}
    (hevs : ∀ x, Event.status x ∈ evs → ∃ e ∈ m.states, e.sub = x) {c : StateCode} {n : ℕ}
    (hdone : runLoop send taskID 0 evs = .done c n) :
    ∃ ps, DidCommServer.status dec nilPairwiseName (.ok wdid)
        (EngineOp.run ops' (EngineOp.run ops s)) id = .ok (.ok (some ps)) ∧ ps.state.state = c := by
  obtain ⟨x, hx, hb⟩ := runLoop_done hdone
  obtain ⟨e, he, rfl⟩ := hevs x hx
  have hc : calcProtocolState (some m) = c :=
    (run_logShape ops (by simp [hk]) m hm).breakCode_eq he hb
  exact ⟨_, status_run_of_final ops' hfam hgen hm (hc ▸ breakCode_final hb), hc⟩

/-- What `Run`'s loop receives of it: the user action, and the last state; the bus dropped the
rest. -/
def scenarioRunEvents : List Event := [.userAction SubState.waiting, .status SubState.readyACK]

theorem status_of_runLoop_prover :
    protocolNameAt PROOF = .ok .protocolPresentProof ∧
      PlType.protocolPresentProof ≠ .protocolIssueCredential ∧
      Store.empty.psms.lookup ⟨"did:worker", "nonce-1"⟩ = none ∧
      (EngineOp.run scenarioProverRun Store.empty).psms.lookup ⟨"did:worker", "nonce-1"⟩ =
        some scenarioProverLog ∧
      (∀ x, Event.status x ∈ scenarioRunEvents →
        ∃ e ∈ scenarioProverLog.states, e.sub = x) ∧
      runLoop (fun _ _ => .ok ()) "nonce-1" 0 scenarioRunEvents = .done .OK 1 ∧
      ∃ ps, DidCommServer.status emptyObjectDecoder (.ok "") (.ok "did:worker")
          (EngineOp.run scenarioReleaseAndNACK (EngineOp.run scenarioProverRun Store.empty))
          ⟨PROOF, ADDRESSEE, "nonce-1"⟩ = .ok (.ok (some ps)) ∧ ps.state.state = .OK :=
  have hm : (EngineOp.run scenarioProverRun Store.empty).psms.lookup ⟨"did:worker", "nonce-1"⟩ =
      some scenarioProverLog := by decide
  have hdone : runLoop (fun _ _ => .ok ()) "nonce-1" 0 scenarioRunEvents = .done .OK 1 := by
    decide
  ⟨rfl, by decide, rfl, hm, by decide, hdone,
    status_of_runLoop scenarioProverRun scenarioReleaseAndNACK
      (rfl : protocolNameAt (ProtocolID.typeID ⟨PROOF, ADDRESSEE, "nonce-1"⟩) = .ok .protocolPresentProof)
      (by decide) (rfl : Store.empty.psms.lookup ⟨"did:worker", "nonce-1"⟩ = none) hm _ _ (by decide)
      hdone⟩

/-- **A `Run` that receives every state ends once the protocol has**, with the state the PSM
reads. -/
theorem run_runLoop_ends (ops : List EngineOp) {s : Store} {k : StateKey}
    (hk : s.psms.lookup k = none) {m : PSM} (hm : (EngineOp.run ops s).psms.lookup k = some m)
    (send : ℕ → ProtocolState → Except String Unit) (taskID : String)
    (hf : (calcProtocolState (some m)).final) :
    runLoop send taskID 0 (m.states.map fun e => .status e.sub) =
      .done (calcProtocolState (some m)) 0 := by
  have hl := run_logShape ops (by simp [hk]) m hm
  rcases id hl with hr | ⟨pre, f, n, hstates, hpre, hend⟩
  · have hclosed := closed_of_final hf
    rw [PSM.closed] at hclosed
    split at hclosed
    · exact absurd (of_decide_eq_true hclosed)
        (running_not_final _ (hr _ (List.mem_of_getLast?_eq_some ‹_›)))
    · cases hclosed
  · have hcode := hl.breakCode_eq
      (hstates ▸ List.mem_append_right pre (List.mem_cons_self f _)) hend.breakCode_eq_some
    rw [hcode, hstates, List.map_append, List.map_cons,
      runLoop_statuses 0 _ fun e he => running_breakCode _ (hpre e he), runLoop_status,
      hend.breakCode_eq_some]

theorem run_runLoop_ends_prover :
    Store.empty.psms.lookup ⟨"did:worker", "nonce-1"⟩ = none ∧
      (EngineOp.run scenarioProverRun Store.empty).psms.lookup ⟨"did:worker", "nonce-1"⟩ =
        some scenarioProverLog ∧
      (calcProtocolState (some scenarioProverLog)).final ∧
      runLoop (fun _ _ => .ok ()) "nonce-1" 0
          (scenarioProverLog.states.map fun e => .status e.sub) =
        .done (calcProtocolState (some scenarioProverLog)) 0 :=
  ⟨rfl, by decide, by decide, run_runLoop_ends scenarioProverRun
    (rfl : Store.empty.psms.lookup ⟨"did:worker", "nonce-1"⟩ = none) (by decide) _ _
    (by decide)⟩

/-! ## The last message of a protocol -/

/-- **A terminal transition ends an open protocol as its ACK bit says**: the engine answers no
error, and the PSM's state reads `OK` or `NACK`. -/
theorem execPSM_terminal (send : Except String Unit) (userAction : Bool) (packet : Packet)
    (task : Option Task) (ack : Bool) {s : Store}
    (hopen : (s.psms.lookup ⟨packet.wdid, packet.threadID⟩).any PSM.closed = false) :
    (execPSM send userAction (.terminal packet task ack) s).2 = .ok () ∧
      calcProtocolState ((execPSM send userAction (.terminal packet task ack) s).1.psms.lookup
        ⟨packet.wdid, packet.threadID⟩) = if ack then .OK else .NACK := by
  have hk : (Transition.terminal packet task ack).key = ⟨packet.wdid, packet.threadID⟩ := rfl
  rw [← hk] at hopen ⊢
  refine ⟨by rw [execPSM, if_neg (by rw [hopen]; decide)]; rfl, ?_⟩
  rw [execPSM_lookup hopen]
  cases ack <;> simp [calcProtocolState, PSM.pendingUserAction, PSM.lastState, Transition.entry]

/-- On the verifier's ACK or NACK for a protocol that is not closed, `handleProtocol` answers no
error, and the protocol's state then reads `OK` or `NACK` as the message says. -/
theorem handleProtocol_code (h : PresentProof.Handlers) (send : Except String Unit)
    (userAction : Bool) {packet : Packet} {s : Store}
    (hmsg : packet.protocolMsg = .presentProofACK ∨ packet.protocolMsg = .presentProofNACK)
    (hopen : (s.psms.lookup ⟨packet.wdid, packet.threadID⟩).any PSM.closed = false) :
    (PresentProof.handleProtocol h send userAction packet s).2 = .ok () ∧
      calcProtocolState ((PresentProof.handleProtocol h send userAction packet s).1.psms.lookup
        ⟨packet.wdid, packet.threadID⟩) =
        if packet.protocolMsg = .presentProofACK then .OK else .NACK := by
  rw [PresentProof.handleProtocol_terminal h send userAction hmsg]
  simpa using
    execPSM_terminal send userAction packet _ (packet.protocolMsg = .presentProofACK) hopen

/-- **The prover's end, as its client sees it**: on the verifier's ACK or NACK for a protocol that
is not closed, `handleProtocol` answers no error, and from then on, after any run of calls,
`Status` asked about the present-proof protocol reports `OK` or `NACK` as the message says. -/
theorem status_after_handleProtocol (h : PresentProof.Handlers) (send : Except String Unit)
    (userAction : Bool) {packet : Packet} {s : Store}
    (hmsg : packet.protocolMsg = .presentProofACK ∨ packet.protocolMsg = .presentProofNACK)
    (hopen : (s.psms.lookup ⟨packet.wdid, packet.threadID⟩).any PSM.closed = false)
    (ops : List EngineOp) (role : BitVec 32) :
    (PresentProof.handleProtocol h send userAction packet s).2 = .ok () ∧
      ∃ ps, DidCommServer.status dec nilPairwiseName (.ok packet.wdid)
          (EngineOp.run ops (PresentProof.handleProtocol h send userAction packet s).1)
          ⟨PROOF, role, packet.threadID⟩ = .ok (.ok (some ps)) ∧
        ps.state.state = if packet.protocolMsg = .presentProofACK then .OK else .NACK := by
  obtain ⟨hok, hcode⟩ := handleProtocol_code h send userAction hmsg hopen
  refine ⟨hok, ?_⟩
  cases hm : (PresentProof.handleProtocol h send userAction packet s).1.psms.lookup
      ⟨packet.wdid, packet.threadID⟩ with
  | none => rw [hm] at hcode; split at hcode <;> cases hcode
  | some m =>
    rw [hm] at hcode
    have hf : (calcProtocolState (some m)).final := by rw [hcode]; split <;> rfl
    exact ⟨_, status_run_of_final ops (show protocolNameAt PROOF = .ok .protocolPresentProof from rfl)
      (by decide) hm hf, hcode⟩

/-- Handlers that end every message they are handed with an ACK. -/
def scenarioHandlers : PresentProof.Handlers :=
  ⟨fun p _ => .terminal p none true, fun p _ => .terminal p none true,
    fun p _ => .terminal p none true, fun _ _ => rfl, fun _ _ => rfl, fun _ _ => rfl⟩

/-- The verifier's NACK on a new thread, then a release and the late NACK again: `Status` reports
`NACK`. -/
theorem status_after_handleProtocol_NACK :
    (scenarioLateNACK.protocolMsg = .presentProofACK ∨
        scenarioLateNACK.protocolMsg = .presentProofNACK) ∧
      (Store.empty.psms.lookup ⟨"did:worker", "nonce-1"⟩).any PSM.closed = false ∧
      (PresentProof.handleProtocol scenarioHandlers (.ok ()) false scenarioLateNACK Store.empty).2 =
          .ok () ∧
        ∃ ps, DidCommServer.status emptyObjectDecoder (.ok "") (.ok "did:worker")
            (EngineOp.run scenarioReleaseAndNACK (PresentProof.handleProtocol scenarioHandlers
              (.ok ()) false scenarioLateNACK Store.empty).1)
            ⟨PROOF, ADDRESSEE, "nonce-1"⟩ = .ok (.ok (some ps)) ∧
          ps.state.state = if scenarioLateNACK.protocolMsg = .presentProofACK then .OK else .NACK :=
  ⟨.inr rfl, rfl, status_after_handleProtocol scenarioHandlers (.ok ()) false
    (.inr (rfl : scenarioLateNACK.protocolMsg = .presentProofNACK))
    (rfl : (Store.empty.psms.lookup ⟨"did:worker", "nonce-1"⟩).any PSM.closed = false)
    scenarioReleaseAndNACK ADDRESSEE⟩

end FindyAgent
