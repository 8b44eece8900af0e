import FindyAgent.Engine

/-!
# Issue credential: the task, the start, the NACK, the continuation, and the status

The issuer starts an issue-credential protocol by offering a credential, the holder by proposing
one; either way `startIssueCredentialByPropose` writes the protocol's `IssueCredRep` in the setup
it hands to `StartPSM`.  The issuer's record carries the indy credential offer, a JSON text; the
holder's has none yet, and its `CredOffer` is the empty text until the issuer's offer comes in
(`startIssueCredentialByPropose_holder`).

`createIssueCredentialTask` makes the task from a client's request.  The starter gives every
attribute without a MIME type the type `text/plain` (`withMimeTypes`), and the PSM stores the task
with them.

`handleCredentialNACK`, the handler of the issuer's NACK, ends the holder's protocol with no
task set: its transition is the engine's terminal one with the NACK.

`fillIssueCredentialStatus` adds the family's part to a protocol status: the credential
definition, the attributes, and the schema ID, which it reads from the stored offer.  It decodes
the offer with `dto.FromJSONStr`, which panics on what is not JSON, and reads `schema_id` with an
unchecked type assertion; its `defer err2.CatchTrace` stops either panic, and since its result is
not named it then returns nil.  `fillIssueCredentialStatus_empty_offer` is the holder's record:
the status it was given comes back nil.

`continueProtocol` resumes the protocol at the message's thread by the user action its last task
waits for.  Every panic on the way, from a missing thread ID to a task of another family, is
stopped by its `defer err2.CatchTrace`.
-/

set_option autoImplicit false

namespace FindyAgent

namespace IssueCredential

/-! ## Creating the task -/

/-- `createIssueCredentialTask(header, protocol)`; `none` is a nil request, which makes a task
with no attributes and no credential definition.  `decode` is `dto.FromJSONStr` into the
attributes, which panics with the decoding error. -/
def createIssueCredentialTask (decode : String → Except String (List CredentialAttribute))
    (header : TaskHeader) (protocol : Option ProtocolMsg) : Go (Except String TaskIssueCredential) :=
  Go.annotate "createIssueCredentialTask" <|
    match protocol with
    | none => .ok (.ok ⟨header, "", [], ""⟩)
    | some protocol =>
      match protocol.issueCredential with
      | none => .error (.error "issue credential data missing")
      | some cred =>
        (Go.assertP (protocol.role == Protocol.INITIATOR || protocol.role == Protocol.ADDRESSEE)
          "role is needed for issuing protocol").bind fun () =>
        (if cred.getAttributesJSON ≠ "" then Go.tryTo (decode cred.getAttributesJSON)
          else match cred.getAttributes with
            | none => .error (.error "issue credential attributes data missing")
            | some l => .ok (l.map fun a => ⟨a.name, a.value, ""⟩)).map fun credAttrs =>
        .ok ⟨header, "", credAttrs, cred.credDefID⟩

/-! ## Starting -/

/-- The loop of `startIssueCredentialByPropose` that gives every attribute without a MIME type
the type `text/plain`. -/
def withMimeTypes (attrs : List CredentialAttribute) : List CredentialAttribute :=
  attrs.map fun attr => if attr.mimeType = "" then { attr with mimeType := "text/plain" } else attr

/-- `startIssueCredentialByPropose(ca, t)`.  `createOffer` is
`anoncreds.IssuerCreateCredentialOffer` on the CA's wallet, `send` how the first send goes, and
`wdid` the worker DID of `ca`.  The MIME types are set in the task itself, through the pointer
`credTask`, so the PSM stores the task with them.  Encoding the attributes as JSON cannot fail.
The deferred `err2.CatchTrace` stops every panic, the failed assertion on a task of another
family and a failed `StartPSM` among them, so the call always returns, leaving what `StartPSM`
wrote. -/
def startIssueCredentialByPropose (createOffer : String → Except String String)
    (send : Except String Unit) (wdid : String) (t : Task) (s : Store) : Store :=
  match t with
  | .issueCredential credTask =>
    let credTask := { credTask with credentialAttrs := withMimeTypes credTask.credentialAttrs }
    match credTask.header.typeID with
    | .caCredOffer =>
      (startPSM send ⟨.issueCredentialOffer, .issueCredentialRequest, wdid,
        .issueCredential credTask, fun key s =>
          match createOffer credTask.credDefID with
          | .error e => .error ("start issuing prot: " ++ e)
          | .ok credOffer =>
            .ok (s.addIssueCredRep ⟨key, credTask.credDefID, credOffer, credTask.credentialAttrs⟩)⟩
        s).1
    | .caCredRequest =>
      (startPSM send ⟨.issueCredentialPropose, .issueCredentialOffer, wdid,
        .issueCredential credTask, fun key s =>
          .ok (s.addIssueCredRep ⟨key, credTask.credDefID, "", credTask.credentialAttrs⟩)⟩ s).1
    | _ => s
  | _ => s

/-- **What the starter does to the store**: nothing, or a start whose setup writes one
issue-credential record under the protocol's key. -/
theorem startIssueCredentialByPropose_cases (createOffer : String → Except String String)
    (send : Except String Unit) (wdid : String) (t : Task) (s : Store) :
    startIssueCredentialByPropose createOffer send wdid t s = s ∨
      ∃ init : Initial, init.SetupWrites ∧
        startIssueCredentialByPropose createOffer send wdid t s = (startPSM send init s).1 := by
  simp only [startIssueCredentialByPropose]
  split
  · split
    · refine .inr ⟨_, ?_, rfl⟩
      intro _ _ h
      refine .inl ⟨rfl, ?_⟩
      split at h
      · cases h
      · exact ⟨_, rfl, (Except.ok.inj h).symm⟩
    · refine .inr ⟨_, ?_, rfl⟩
      exact fun _ _ h => .inl ⟨rfl, _, rfl, (Except.ok.inj h).symm⟩
    · exact .inl rfl
  · exact .inl rfl

/-- **The holder's start**, on a new key: the record has no credential offer, and the PSM's last
state holds the task, with its MIME types set. -/
theorem startIssueCredentialByPropose_holder (createOffer : String → Except String String)
    (send : Except String Unit) (wdid : String) (credTask : TaskIssueCredential) (s : Store)
    (hT : credTask.header.typeID = .caCredRequest)
    (hfresh : ⟨wdid, credTask.header.taskID⟩ ∉ s.psms) :
    (startIssueCredentialByPropose createOffer send wdid (.issueCredential credTask) s
        ).issueCredReps.lookup ⟨wdid, credTask.header.taskID⟩ =
      some ⟨⟨wdid, credTask.header.taskID⟩, credTask.credDefID, "",
        withMimeTypes credTask.credentialAttrs⟩ ∧
    ((startIssueCredentialByPropose createOffer send wdid (.issueCredential credTask) s
        ).psms.lookup ⟨wdid, credTask.header.taskID⟩).bind PSM.lastState =
      some ⟨sentSubState send, some (.issueCredential
        { credTask with credentialAttrs := withMimeTypes credTask.credentialAttrs }),
        credTask.header.connID, false⟩ := by
  simp only [startIssueCredentialByPropose, hT]
  rw [startPSM_fst hfresh rfl]
  exact ⟨by simp [Store.addIssueCredRep, Initial.key, Task.header, Finmap.lookup_insert],
    Store.addState_lastState _ _ _ _⟩

/-! ## The holder's end on a NACK -/

/-- The transition `handleCredentialNACK(packet)` runs with `prot.ExecPSM`, the handler the family
registers for the issuer's NACK: nothing is sent or waited for next, no task is set, and `InOut`
returns the NACK. -/
def handleCredentialNACK (packet : Packet) : Transition :=
  .terminal packet none false

/-! ## Continuing -/

/-- The continuations the user actions of issue credential go to, as calls that return or panic:
`issuer.ContinueCredentialPropose` and `holder.UserActionCredential`, which are not among the
sources. -/
structure Continuators where
  continueCredentialPropose : Msg → Go Unit
  userActionCredential : Msg → Go Unit

/-- The map `continuators` of `continueProtocol`, from the user action a task waits for. -/
def Continuators.lookup (c : Continuators) : PlType → Option (Msg → Go Unit)
  | .saIssueCredentialAcceptPropose => some c.continueCredentialPropose
  | .caNotifyUserAction => some c.userActionCredential
  | _ => none

/-- `continueProtocol(ca, im)`, for the CA with worker DID `wdid`.  The assertions are
`assert.D`, which panic with a string; reading the last state of a PSM with none is a nil
dereference, and a last task of another family, or none, a failed type assertion. -/
def continueProtocol (c : Continuators) (s : Store) (wdid : String) (im : Msg) : Go Unit :=
  Go.catchTrace () <|
    if im.threadID = "" then
      .error (.value "continue issue credential, packet thread ID missing")
    else
      (Go.tryTo (s.getPSM ⟨wdid, im.threadID⟩)).bind fun state =>
        match state with
        | none => .error (.value "continue issue credential, task not found")
        | some state =>
          match state.lastState with
          | none => .error (.runtime .nilDereference)
          | some last =>
            match last.T with
            | some (.issueCredential credTask) =>
              match c.lookup credTask.header.userActionType with
              | some continuator => continuator im
              | none => .error (.value "no continuator in issue credential processor")
            | _ => .error (.runtime .typeAssertion)

/-! ## The status -/

/-- A JSON value, as far as the code looks into one: a string, or anything else. -/
inductive JsonValue where
  | str (s : String)
  | other
  deriving DecidableEq, Repr

/-- `dto.FromJSONStr` into a `map[string]interface{}`, that is `json.Unmarshal`: the decoded
object, or the decoding error, which `FromJSONStr` panics with.  The decoder is not among the
sources; it is taken with the one property the proofs use, that the empty text is not JSON. -/
structure ObjectDecoder where
  decode : String → Except String (GoMap String JsonValue)
  decode_empty : ∃ e, decode "" = .error e

/-- The `IssueCredentialStatus` `fillIssueCredentialStatus` builds from a record and a schema
ID. -/
def credentialStatus (credRep : IssueCredRep) (schemaID : String) : IssueCredentialStatus :=
  ⟨credRep.credDefID, schemaID, credRep.attributes.map fun a => ⟨a.name, a.value⟩⟩

/-- `fillIssueCredentialStatus(workerDID, taskID, ps)`; `none` is a nil status.  A missing record
is a nil dereference, and a `schema_id` that is missing or not a string a failed type assertion.
The deferred `err2.CatchTrace` stops every panic, and the result is not named, so after a panic
the call returns nil. -/
def fillIssueCredentialStatus (dec : ObjectDecoder) (s : Store) (workerDID taskID : String)
    (ps : Option ProtocolStatus) : Go (Option ProtocolStatus) :=
  Go.catchTrace none <|
    match ps with
    | none => .error (.value "assertion violation")
    | some ps =>
      (Go.tryTo (s.getIssueCredRep ⟨workerDID, taskID⟩)).bind fun credRep =>
        match credRep with
        | none => .error (.runtime .nilDereference)
        | some credRep =>
          (Go.tryTo (dec.decode credRep.credOffer)).bind fun credOfferMap =>
            match credOfferMap.lookup "schema_id" with
            | some (.str schemaID) =>
              .ok (some { ps with status := .issueCredential (credentialStatus credRep schemaID) })
            | _ => .error (.runtime .typeAssertion)

variable {dec : ObjectDecoder} {s : Store} {workerDID taskID : String}

/-- Without a record the status is a nil dereference, which `err2.CatchTrace` turns into nil. -/
theorem fillIssueCredentialStatus_no_record (ps : ProtocolStatus)
    (hrep : s.issueCredReps.lookup ⟨workerDID, taskID⟩ = none) :
    fillIssueCredentialStatus dec s workerDID taskID (some ps) = .ok none := by
  simp only [fillIssueCredentialStatus, Store.getIssueCredRep, hrep, Go.tryTo_ok, Except.bind_ok]
  rfl

/-- **A record with no offer loses the status**: the empty offer is not JSON, and the status
given comes back nil. -/
theorem fillIssueCredentialStatus_empty_offer {credRep : IssueCredRep} (ps : Option ProtocolStatus)
    (hrep : s.issueCredReps.lookup ⟨workerDID, taskID⟩ = some credRep)
    (hoffer : credRep.credOffer = "") :
    fillIssueCredentialStatus dec s workerDID taskID ps = .ok none := by
  obtain ⟨e, he⟩ := dec.decode_empty
  cases ps <;>
    simp [fillIssueCredentialStatus, Store.getIssueCredRep, hrep, hoffer, he, Except.bind,
      Go.catchTrace]

end IssueCredential

end FindyAgent
