import FindyAgent.Server.TaskFrom
import FindyAgent.Protocol.PresentProof
import FindyAgent.Protocol.Reach

/-!
# The protocol service: status, release and resume

Three unary calls of `didCommServer` read or write the store of a client's CA; they are
`DidCommServer.status`, `DidCommServer.release` and `DidCommServer.resume` here.

`Status(id)` answers the state of the protocol `id.ID`: `calcProtocolState` of its PSM, with the
PSM's role, and the family's part, which the family's status provider fills in
(`prot.FillStatus`).  Before that, its log line reads `protocolName[id.TypeID]`.

* `status_of_psm`: on a store with a PSM, the answer is the generic status as the family's
  filler leaves it; for a family without a filler that is the generic status itself, its state
  `calcProtocolState` of the PSM (`status_of_generic`), and without a PSM its state is
  `RUNNING` (`status_state_of_none`).
* `status_out_of_range`: a `TypeID` outside `protocolName` is a runtime panic that `err2.Return`
  does not stop.
* `status_holder_nil`: right after a holder starts an issue-credential protocol, `Status` on it
  answers a nil status with a nil error, and out of range it panics.
* `status_nil_of_reach`: on every reachable store, `Status` asked with the type `ISSUE` about a
  present-proof protocol answers a nil status with a nil error.

`Release(id)` archives the protocol: `prot.AddAndSetFlagUpdatePSM` appends a copy of its last
state with the `Archiving` bit set.

* `calcProtocolState_archiving`: the bit changes no state `calcProtocolState` answers, which is
  why its `switch` lists `Ready | Archiving` and `Failure | Archiving` beside `Ready` and
  `Failure`.
* `status_release`: after any release, `Status` answers every request as before
  (`status_congr` says what of a store `Status` reads).

`Resume(state)` hands the decision on to `prot.Resume`, which calls the continuator registered for
the task type `uniqueTypeID` gives: present proof's or issue credential's.  The two do not guard
alike.  Issue credential's stops every panic; present proof's reads the last task of the PSM at
the thread through an unchecked type assertion and stops nothing.

* `continuator_wrong_family`: a resume of type `PROOF` aimed at the protocol a holder has just
  started to get a credential selects present proof's continuator, which panics with a runtime
  error (`continueProtocol_holder`).
* `resume_of_reach`: the same panic out of `Resume`, on every store that starts and flag updates
  reach, for every issue-credential protocol in it.

`prot.FillStatus`, `prot.AddAndSetFlagUpdatePSM` and `prot.Resume` are not among the sources;
what they do is taken from the spec and from the registrations in the families' `init()`
functions.
-/

set_option autoImplicit false

namespace FindyAgent

open Protocol

/-! ## The state of a protocol -/

/-- `calcProtocolState(m)`; `none` is a nil PSM. -/
def calcProtocolState (m : Option PSM) : StateCode :=
  match m with
  | none => .RUNNING
  | some m =>
    if m.pendingUserAction then .WAIT_ACTION else
    match m.lastState with
    | none => .RUNNING
    | some last =>
      if last.sub.pure = SubState.ready ∨ last.sub.pure = SubState.ready ||| SubState.archiving then
        if last.sub &&& SubState.ack ≠ 0 then .OK else .NACK
      else if last.sub.pure = SubState.failure ∨
          last.sub.pure = SubState.failure ||| SubState.archiving then .ERR
      else .RUNNING

/-! ## Status -/

/-- Modelled from the spec: `prot.FillStatus(family, key, ps)` (package `agent/prot`) is not
under `src/`.  The spec has each family's status provider add its part; of the providers the
`init()` functions register, only issue credential's sets a filler, and the status of every other
family is the generic one. -/
def fillStatus (dec : IssueCredential.ObjectDecoder) (s : Store) (family : PlType)
    (key : StateKey) (ps : Option ProtocolStatus) : Go (Option ProtocolStatus) :=
  if family = .protocolIssueCredential then
    IssueCredential.fillIssueCredentialStatus dec s key.DID key.nonce ps
  else .ok ps

/-- The generic status `tryProtocolStatus` builds before the family fills it in: the ID with the
PSM's role, or `UNKNOWN` without a PSM, and the state of the PSM. -/
def genericStatus (id : ProtocolID) (m : Option PSM) : ProtocolStatus :=
  ⟨⟨some { id with role := (m.map PSM.role).getD UNKNOWN }, calcProtocolState m, ""⟩, .unset⟩

/-- `tryProtocolStatus(id, key)`.  `PairwiseName()` is called on the PSM before it is checked
for nil; what it does on nil is not among the sources, and is `nilPairwiseName`. -/
def tryProtocolStatus (dec : IssueCredential.ObjectDecoder) (nilPairwiseName : Go String)
    (s : Store) (id : ProtocolID) (key : StateKey) : Go (Option ProtocolStatus × String) :=
  (Go.tryTo (s.getPSM key)).bind fun m =>
    (match m with
      | some m => (.ok m.pairwiseName : Go String)
      | none => nilPairwiseName).bind fun connID =>
    (protocolNameAt id.typeID).bind fun family =>
      (fillStatus dec s family key (some (genericStatus id m))).map fun ps => (ps, connID)

/-- The holder's task of the spec's second scenario: a credential for `email` under `cd:1`. -/
def scenarioHolderTask : TaskIssueCredential :=
  ⟨⟨"nonce-1", .caCredRequest, "conn-1", .nothing⟩, "", [⟨"email", "a@b", ""⟩], "cd:1"⟩

/-- A JSON decoder that reads every non-empty text as the empty object. -/
def emptyObjectDecoder : IssueCredential.ObjectDecoder :=
  ⟨fun j => if j = "" then .error "unexpected end of JSON input" else .ok ∅, ⟨_, rfl⟩⟩

variable {dec : IssueCredential.ObjectDecoder} {nilPairwiseName : Go String} {s : Store}

namespace DidCommServer

/-- `Status(ctx, id)`.  `auth` is what `ca(ctx)` gives: the worker DID of the caller's CA, or an
error.  The log line evaluates `protocolName[id.TypeID]` whatever the log level. -/
def status (dec : IssueCredential.ObjectDecoder) (nilPairwiseName : Go String)
    (auth : Except String String) (s : Store) (id : ProtocolID) :
    Go (Except String (Option ProtocolStatus)) :=
  Go.returnErr <|
    (Go.tryTo auth).bind fun wdid =>
      (protocolNameAt id.typeID).bind fun _ =>
        (tryProtocolStatus dec nilPairwiseName s id ⟨wdid, id.ID⟩).map fun r => .ok r.1

/-- **What `status` answers** for a protocol with a PSM: the generic status, as the family's
filler leaves it. -/
theorem status_of_psm {wdid : String} {id : ProtocolID} {m : PSM} {family : PlType}
    (hm : s.psms.lookup ⟨wdid, id.ID⟩ = some m) (hfam : protocolNameAt id.typeID = .ok family) :
    status dec nilPairwiseName (.ok wdid) s id =
      Go.returnErr ((fillStatus dec s family ⟨wdid, id.ID⟩ (some (genericStatus id (some m)))).map
        .ok) := by
  simp only [status, tryProtocolStatus, Go.tryTo_ok, Store.getPSM, Except.bind_ok, hm, hfam]
  cases fillStatus dec s family ⟨wdid, id.ID⟩ (some (genericStatus id (some m))) <;> rfl

/-- For a family without a filler, `status` answers the generic status: the PSM's role and
`calcProtocolState` of it. -/
theorem status_of_generic {wdid : String} {id : ProtocolID} {m : PSM} {family : PlType}
    (hm : s.psms.lookup ⟨wdid, id.ID⟩ = some m) (hfam : protocolNameAt id.typeID = .ok family)
    (hgen : family ≠ .protocolIssueCredential) :
    status dec nilPairwiseName (.ok wdid) s id = .ok (.ok (some (genericStatus id (some m)))) := by
  rw [status_of_psm hm hfam, fillStatus, if_neg hgen]
  rfl

/-- For a family without a filler, a status `status` answers without a PSM says `RUNNING`. -/
theorem status_state_of_none {wdid : String} {id : ProtocolID} {family : PlType}
    {ps : ProtocolStatus} (hm : s.psms.lookup ⟨wdid, id.ID⟩ = none)
    (hfam : protocolNameAt id.typeID = .ok family) (hgen : family ≠ .protocolIssueCredential)
    (hps : status dec nilPairwiseName (.ok wdid) s id = .ok (.ok (some ps))) :
    ps.state.state = .RUNNING := by
  simp only [status, tryProtocolStatus, Go.tryTo_ok, Store.getPSM, Except.bind_ok, hm, hfam,
    fillStatus, if_neg hgen] at hps
  rcases nilPairwiseName with (_ | _ | _) | c <;> cases hps
  rfl

/-- A `TypeID` outside `protocolName` is a runtime panic, which `err2.Return` lets through. -/
theorem status_out_of_range (wdid : String) {id : ProtocolID}
    (hout : ¬(0 ≤ id.typeID.toInt ∧ id.typeID.toInt < 6)) :
    status dec nilPairwiseName (.ok wdid) s id = .error (.runtime .indexOutOfRange) := by
  simp only [status, Go.tryTo_ok, Except.bind_ok, protocolNameAt_of_out_of_range hout,
    Except.bind_error]
  rfl

/-- **A nil status with a nil error, and a panic**: right after a holder starts an
issue-credential protocol on a new key, `status` on it answers nil, and a `TypeID` outside
`protocolName` makes `status` panic with a runtime error, on every store. -/
theorem status_holder_nil (createOffer : String → Except String String) (send : Except String Unit)
    (wdid : String) (credTask : TaskIssueCredential) (role : BitVec 32)
    (hT : credTask.header.typeID = .caCredRequest)
    (hfresh : ⟨wdid, credTask.header.taskID⟩ ∉ s.psms) :
    status dec nilPairwiseName (.ok wdid)
        (IssueCredential.startIssueCredentialByPropose createOffer send wdid
          (.issueCredential credTask) s) ⟨ISSUE, role, credTask.header.taskID⟩ = .ok (.ok none) ∧
      ∀ (s' : Store) (id : ProtocolID), ¬(0 ≤ id.typeID.toInt ∧ id.typeID.toInt < 6) →
        status dec nilPairwiseName (.ok wdid) s' id = .error (.runtime .indexOutOfRange) := by
  refine ⟨?_, fun s' id hout => status_out_of_range (s := s') wdid hout⟩
  obtain ⟨hrep, hlast⟩ :=
    IssueCredential.startIssueCredentialByPropose_holder createOffer send wdid credTask s hT hfresh
  obtain ⟨m, hm, -⟩ := Option.bind_eq_some.mp hlast
  rw [status_of_psm hm (show protocolNameAt ISSUE = .ok .protocolIssueCredential from rfl),
    fillStatus, if_pos rfl, IssueCredential.fillIssueCredentialStatus_empty_offer _ hrep rfl]
  rfl

/-- The spec's second scenario, asked for its status right after the holder's start. -/
theorem status_holder_nil_scenario :
    scenarioHolderTask.header.typeID = .caCredRequest ∧
      (⟨"did:worker", scenarioHolderTask.header.taskID⟩ : StateKey) ∉ Store.empty.psms ∧
      (status emptyObjectDecoder (.ok "") (.ok "did:worker")
          (IssueCredential.startIssueCredentialByPropose (fun _ => .error "no wallet") (.ok ())
            "did:worker" (.issueCredential scenarioHolderTask) Store.empty)
          ⟨ISSUE, ADDRESSEE, scenarioHolderTask.header.taskID⟩ = .ok (.ok none) ∧
        ∀ (s' : Store) (id : ProtocolID), ¬(0 ≤ id.typeID.toInt ∧ id.typeID.toInt < 6) →
          status emptyObjectDecoder (.ok "") (.ok "did:worker") s' id =
            .error (.runtime .indexOutOfRange)) :=
  ⟨rfl, Finmap.not_mem_empty, status_holder_nil _ _ _ _ _ rfl Finmap.not_mem_empty⟩

/-- **A nil status with a nil error, on every run**: on any store that starts and releases
reach, `status` asked with `TypeID` `ISSUE` about a present-proof protocol answers nil.  Issue
credential's filler finds no record there, and its `err2.CatchTrace` stops the nil
dereference. -/
theorem status_nil_of_reach {wdid nonce : String} {rep : PresentProofRep} (role : BitVec 32)
    (hreach : Reach s) (hrep : s.presentProofReps.lookup ⟨wdid, nonce⟩ = some rep) :
    status dec nilPairwiseName (.ok wdid) s ⟨ISSUE, role, nonce⟩ = .ok (.ok none) := by
  obtain ⟨-, m, hm, -⟩ := hreach.wellFormed.presentProofReps _ rep hrep
  rw [status_of_psm hm (show protocolNameAt ISSUE = .ok .protocolIssueCredential from rfl),
    fillStatus, if_pos rfl,
    IssueCredential.fillIssueCredentialStatus_no_record _ (issueCredRep_none_of_reach hreach hrep)]
  rfl

/-- The task of a verifier who asks for nothing. -/
def scenarioVerifierTask : TaskPresentProof := ⟨PresentProof.verifierHeader, "", [], [], .acceptRequest⟩

/-- The store a verifier's start leaves. -/
def scenarioVerifierStore : Store :=
  (StoreOp.proof (.ok ()) "n" "did:worker" (.presentProof scenarioVerifierTask)).apply Store.empty

/-- A verifier's protocol, asked for as an issue-credential one. -/
theorem status_nil_of_reach_verifier :
    Reach scenarioVerifierStore ∧
      scenarioVerifierStore.presentProofReps.lookup ⟨"did:worker", "nonce-1"⟩ =
        some ⟨⟨"did:worker", "nonce-1"⟩, "", false,
          some (PresentProof.generateProofRequest scenarioVerifierTask "n"), []⟩ ∧
      status emptyObjectDecoder (.ok "") (.ok "did:worker") scenarioVerifierStore
          ⟨ISSUE, INITIATOR, "nonce-1"⟩ = .ok (.ok none) :=
  have hreach : Reach scenarioVerifierStore := .step _ .empty
  have hrep : scenarioVerifierStore.presentProofReps.lookup ⟨"did:worker", "nonce-1"⟩ =
      some ⟨⟨"did:worker", "nonce-1"⟩, "", false,
        some (PresentProof.generateProofRequest scenarioVerifierTask "n"), []⟩ := rfl
  ⟨hreach, hrep, status_nil_of_reach _ hreach hrep⟩

/-! ## Release -/

/-- `Release(ctx, id)`: the store it leaves and its answer.  `auth` is what `ca(ctx)` gives.  The
key is the caller's worker DID and `id.ID`; the update sets `Archiving` and clears nothing. -/
def release (auth : Except String String) (s : Store) (id : ProtocolID) :
    Store × Go (Except String ProtocolID) :=
  match auth with
  | .error e => (s, Go.returnErr (.error (.error e)))
  | .ok wdid =>
    match addAndSetFlagUpdatePSM ⟨wdid, id.ID⟩ SubState.archiving 0 s with
    | .error e => (s, Go.returnErr (.error (.error e)))
    | .ok s' => (s', .ok (.ok id))

end DidCommServer

/-- The state code `calcProtocolState` reads off a last state is the same with the `Archiving`
overlay: checked on each of the 256 sub-states. -/
theorem archiving_overlay_code : ∀ sub : SubState,
    (if ((sub ||| SubState.archiving) &&& ~~~0).pure = SubState.ready ∨
          ((sub ||| SubState.archiving) &&& ~~~0).pure = SubState.ready ||| SubState.archiving then
        if (sub ||| SubState.archiving) &&& ~~~0 &&& SubState.ack ≠ 0 then StateCode.OK else .NACK
      else if ((sub ||| SubState.archiving) &&& ~~~0).pure = SubState.failure ∨
          ((sub ||| SubState.archiving) &&& ~~~0).pure = SubState.failure ||| SubState.archiving then
        .ERR
      else .RUNNING) =
    (if sub.pure = SubState.ready ∨ sub.pure = SubState.ready ||| SubState.archiving then
        if sub &&& SubState.ack ≠ 0 then StateCode.OK else .NACK
      else if sub.pure = SubState.failure ∨ sub.pure = SubState.failure ||| SubState.archiving then
        .ERR
      else .RUNNING) := by
  decide

/-- **The `Archiving` overlay is invisible to `calcProtocolState`**: a PSM whose last state is
copied with the bit set is in the state it was in. -/
theorem calcProtocolState_archiving {m : PSM} {last : State} (hlast : m.lastState = some last) :
    calcProtocolState (some { m with states := m.states ++
        [{ last with sub := (last.sub ||| SubState.archiving) &&& ~~~0 }] }) =
      calcProtocolState (some m) := by
  rw [PSM.lastState] at hlast
  simp only [calcProtocolState, PSM.pendingUserAction, PSM.lastState, List.getLast?_append,
    List.getLast?_singleton, hlast, Option.or_some, Option.map_some', Option.getD_some]
  rw [archiving_overlay_code]

namespace DidCommServer

/-- `status` reads a store through the generic status it builds of the PSM it is asked for,
whether there is that PSM, and the issue-credential records. -/
theorem status_congr {s₁ s₂ : Store} (auth : Except String String) (id : ProtocolID)
    (hpsm : ∀ wdid, genericStatus id (s₁.psms.lookup ⟨wdid, id.ID⟩) =
        genericStatus id (s₂.psms.lookup ⟨wdid, id.ID⟩) ∧
      (s₁.psms.lookup ⟨wdid, id.ID⟩).isSome = (s₂.psms.lookup ⟨wdid, id.ID⟩).isSome)
    (hreps : s₁.issueCredReps = s₂.issueCredReps) :
    status dec nilPairwiseName auth s₁ id = status dec nilPairwiseName auth s₂ id := by
  have hfill : fillStatus dec s₁ = fillStatus dec s₂ := by
    funext family key ps
    simp only [fillStatus, IssueCredential.fillIssueCredentialStatus, Store.getIssueCredRep, hreps]
  cases auth with
  | error e => rfl
  | ok wdid =>
    obtain ⟨hgen, hsome⟩ := hpsm wdid
    simp only [status, tryProtocolStatus, Go.tryTo_ok, Store.getPSM, Except.bind_ok, hfill, hgen]
    rcases h₁ : s₁.psms.lookup ⟨wdid, id.ID⟩ with _ | m₁ <;>
      rcases h₂ : s₂.psms.lookup ⟨wdid, id.ID⟩ with _ | m₂ <;>
      simp only [h₁, h₂, Option.isSome_none, Option.isSome_some, Bool.false_eq_true,
        Bool.true_eq_false] at hsome ⊢
    -- both PSMs are there: the pairwise names `Status` drops may differ
    cases protocolNameAt id.typeID with
    | error p => rfl
    | ok family =>
      simp only [Except.bind_ok]
      cases fillStatus dec s₂ family ⟨wdid, id.ID⟩ (some (genericStatus id (some m₂))) <;> rfl

/-- **Releasing a protocol changes no status**: after any `release`, `status` answers every
request as before. -/
theorem status_release (auth auth' : Except String String) (s : Store) (id id' : ProtocolID) :
    status dec nilPairwiseName auth' (release auth s id).1 id' =
      status dec nilPairwiseName auth' s id' := by
  cases auth with
  | error e => rfl
  | ok wdid =>
    simp only [release]
    split
    · rfl
    · rename_i s' h
      obtain ⟨m, last, hm, hlast, rfl⟩ := addAndSetFlagUpdatePSM_ok h
      refine status_congr auth' id' (fun wdid' => ?_) rfl
      rw [Store.addState_lookup _ _ hm]
      split_ifs with hk
      · rw [hk, hm]
        refine ⟨?_, rfl⟩
        simp only [genericStatus, Option.map_some', calcProtocolState_archiving hlast]
      · exact ⟨rfl, rfl⟩

end DidCommServer

/-! ## Resume -/

/-- The continuators the `init()` functions register with `prot.AddContinuator`: present proof's
under `CAContinuePresentProofProtocol`, issue credential's under
`CAContinueIssueCredentialProtocol`. -/
def continuator (ppc : PresentProof.Continuators) (icc : IssueCredential.Continuators) :
    PlType → Option (Store → String → Msg → Go Unit)
  | .caContinuePresentProofProtocol => some (PresentProof.continueProtocol ppc)
  | .caContinueIssueCredentialProtocol => some (IssueCredential.continueProtocol icc)
  | _ => none

/-- Modelled from the spec: `prot.Resume(rcvr, typeID, protocolID, ack)` (package `agent/prot`)
is not under `src/`.  As §4.C.3 has it, it resumes the handler blocked on the user's decision:
it calls the continuator registered for the task type with a message on the protocol's thread
carrying the decision, and a panic of the continuator goes on.  A type with no continuator is
taken to do nothing. -/
def protResume (ppc : PresentProof.Continuators) (icc : IssueCredential.Continuators)
    (s : Store) (wdid : String) (typeID : PlType) (protocolID : String) (ack : Bool) : Go Unit :=
  match continuator ppc icc typeID with
  | some k => k s wdid ⟨protocolID, ack, "", .none⟩
  | none => .ok ()

namespace DidCommServer

/-- `Resume(ctx, state)`.  `auth` is what `ca(ctx)` gives.  The log line reads
`state.ProtocolID.TypeID`, a nil dereference when the state carries no ID. -/
def resume (ppc : PresentProof.Continuators) (icc : IssueCredential.Continuators)
    (auth : Except String String) (s : Store) (state : ProtocolState) :
    Go (Except String ProtocolID) :=
  Go.returnErr <|
    (Go.tryTo auth).bind fun wdid =>
      match state.protocolID with
      | none => .error (.runtime .nilDereference)
      | some id =>
        (uniqueTypeID id.role id.typeID).bind fun typeID =>
          (protResume ppc icc s wdid typeID id.ID (state.state = .ACK)).map fun () => .ok id

end DidCommServer

/-- Resuming present proof on the thread of a holder's new issue-credential protocol: the
unchecked type assertion fails, whatever the continuations would do. -/
theorem continueProtocol_holder (ppc : PresentProof.Continuators)
    (createOffer : String → Except String String) (send : Except String Unit) (wdid : String)
    (credTask : TaskIssueCredential) (im : Msg) (hT : credTask.header.typeID = .caCredRequest)
    (hfresh : ⟨wdid, credTask.header.taskID⟩ ∉ s.psms) (hne : credTask.header.taskID ≠ "")
    (him : im.threadID = credTask.header.taskID) :
    PresentProof.continueProtocol ppc (IssueCredential.startIssueCredentialByPropose createOffer
      send wdid (.issueCredential credTask) s) wdid im = .error (.runtime .typeAssertion) := by
  obtain ⟨-, hlast⟩ :=
    IssueCredential.startIssueCredentialByPropose_holder createOffer send wdid credTask s hT hfresh
  rw [← him] at hlast hne
  exact PresentProof.continueProtocol_other_family ppc hne hlast (fun _ h => by cases h)

/-- The task type of a resume of role `RESUME` and type `PROOF`. -/
theorem uniqueTypeID_resume_proof :
    uniqueTypeID RESUME PROOF = .ok .caContinuePresentProofProtocol :=
  uniqueTypeID_typeIDPairs ((RESUME, PROOF), .caContinuePresentProofProtocol) (by decide)

/-- **A resume aimed at another family.**  After a holder starts an issue-credential protocol
on a new key, a resume of role `RESUME` and type `PROOF` on its thread selects present proof's
continuator, which panics with a runtime error, whatever the continuations would do. -/
theorem continuator_wrong_family (ppc : PresentProof.Continuators)
    (icc : IssueCredential.Continuators) (createOffer : String → Except String String)
    (send : Except String Unit) (wdid : String) (credTask : TaskIssueCredential) (im : Msg)
    (hT : credTask.header.typeID = .caCredRequest)
    (hfresh : ⟨wdid, credTask.header.taskID⟩ ∉ s.psms) (hne : credTask.header.taskID ≠ "")
    (him : im.threadID = credTask.header.taskID) :
    (uniqueTypeID RESUME PROOF).map (fun typeID => (continuator ppc icc typeID).map fun k =>
        k (IssueCredential.startIssueCredentialByPropose createOffer send wdid
          (.issueCredential credTask) s) wdid im) =
      .ok (some (.error (.runtime .typeAssertion))) := by
  rw [uniqueTypeID_resume_proof, Except.map_ok, continuator, Option.map_some',
    continueProtocol_holder ppc createOffer send wdid credTask im hT hfresh hne him]

/-- Continuations that accept everything. -/
def acceptingContinuators : PresentProof.Continuators × IssueCredential.Continuators :=
  (⟨fun _ => .ok (), fun _ => .ok (), fun _ => .ok ()⟩, ⟨fun _ => .ok (), fun _ => .ok ()⟩)

/-- The spec's second scenario, resumed as a present-proof protocol. -/
theorem continuator_wrong_family_scenario :
    scenarioHolderTask.header.typeID = .caCredRequest ∧
      (⟨"did:worker", scenarioHolderTask.header.taskID⟩ : StateKey) ∉ Store.empty.psms ∧
      scenarioHolderTask.header.taskID ≠ "" ∧
      (⟨"nonce-1", true, "", .none⟩ : Msg).threadID = scenarioHolderTask.header.taskID ∧
      (uniqueTypeID RESUME PROOF).map (fun typeID =>
          (continuator acceptingContinuators.1 acceptingContinuators.2 typeID).map fun k =>
            k (IssueCredential.startIssueCredentialByPropose (fun _ => .error "no wallet") (.ok ())
              "did:worker" (.issueCredential scenarioHolderTask) Store.empty) "did:worker"
              ⟨"nonce-1", true, "", .none⟩) =
        .ok (some (.error (.runtime .typeAssertion))) :=
  ⟨rfl, Finmap.not_mem_empty, by decide, rfl,
    continuator_wrong_family _ _ _ _ _ _ _ rfl Finmap.not_mem_empty (by decide) rfl⟩

namespace DidCommServer

/-- **A resume aimed at another family, on every run**: on any store the starters reach, a
resume of role `RESUME` and type `PROOF` on the thread of an issue-credential protocol ends
`resume` in a runtime panic. -/
theorem resume_of_reach (ppc : PresentProof.Continuators) (icc : IssueCredential.Continuators)
    {wdid nonce : String} {rep : IssueCredRep} (ack : StateCode) (hreach : Reach s)
    (hne : nonce ≠ "") (hrep : s.issueCredReps.lookup ⟨wdid, nonce⟩ = some rep) :
    resume ppc icc (.ok wdid) s ⟨some ⟨PROOF, RESUME, nonce⟩, ack, ""⟩ =
      .error (.runtime .typeAssertion) := by
  have hk : PresentProof.continueProtocol ppc s wdid ⟨nonce, ack = .ACK, "", .none⟩ =
      .error (.runtime .typeAssertion) := continueProtocol_of_issueCredRep hreach ppc hne hrep
  simp only [resume, Go.tryTo_ok, Except.bind_ok, uniqueTypeID_resume_proof, protResume, continuator,
    hk]
  rfl

/-- The store of the spec's second scenario, reached by the holder's start. -/
def scenarioHolderStore : Store :=
  (StoreOp.issue (fun _ => .error "no wallet") (.ok ()) "did:worker"
    (.issueCredential scenarioHolderTask)).apply Store.empty

/-- The spec's second scenario, resumed as a present-proof protocol, as a run of the starters. -/
theorem resume_of_reach_scenario :
    Reach scenarioHolderStore ∧ "nonce-1" ≠ "" ∧
      scenarioHolderStore.issueCredReps.lookup ⟨"did:worker", "nonce-1"⟩ =
        some ⟨⟨"did:worker", "nonce-1"⟩, "cd:1", "", [⟨"email", "a@b", "text/plain"⟩]⟩ ∧
      resume acceptingContinuators.1 acceptingContinuators.2 (.ok "did:worker") scenarioHolderStore
          ⟨some ⟨PROOF, RESUME, "nonce-1"⟩, .ACK, ""⟩ =
        .error (.runtime .typeAssertion) :=
  have hreach : Reach scenarioHolderStore := .step _ .empty
  have hrep : scenarioHolderStore.issueCredReps.lookup ⟨"did:worker", "nonce-1"⟩ =
      some ⟨⟨"did:worker", "nonce-1"⟩, "cd:1", "", [⟨"email", "a@b", "text/plain"⟩]⟩ := by decide
  ⟨hreach, by decide, hrep, resume_of_reach _ _ _ hreach (by decide) hrep⟩

end DidCommServer

end FindyAgent
