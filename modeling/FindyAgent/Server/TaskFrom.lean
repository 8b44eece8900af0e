import FindyAgent.Api
import Mathlib.Tactic.Ring

/-!
# From a gRPC request to a task type

A client starts a protocol with a `Protocol` message and resumes one with a `ProtocolID`; both
carry a protocol type and a role, which are proto3 enums and so arrive as arbitrary `int32`
values.  `uniqueTypeID(role, type)` turns the pair into the agency's task type by looking up the
key `10*role + type`, computed in `int32`, in the table `typeID`, and panics when the key is not
there.  `taskFrom` builds a task with that type and then fills it in by a `switch` on the
protocol type.

The key is not a function of the pair alone on the table's nine pairs: `uniqueTypeID_shift` shows
that the pair `(role - 1, type + 10)` always has the same key as `(role, type)`, whatever values
the enum gives its names, and `uniqueTypeID_off_table` is the instance `(0, 12)` of the issuer's
pair `(1, 2)`, which the table does not list and which comes back as `CACredOffer`.  `taskFrom`
then gives the task an issuing type, while its `switch` on type 12 handles no family.

`protocolName` is the array of family names indexed by the protocol type; an index outside it
is a runtime error (`protocolNameAt`).

Int32 values are `BitVec 32`: arithmetic wraps, and equality is equality of `int32`s.
-/

set_option autoImplicit false

namespace FindyAgent

open Protocol

/-! ## The task type -/

/-- The key of a `(role, type)` pair: `int32(10*role) + int32(id)`. -/
def typeKey (role id : BitVec 32) : BitVec 32 := 10 * role + id

/-- The nine `(role, type)` pairs `typeID` lists, with their task types. -/
def typeIDPairs : List ((BitVec 32 × BitVec 32) × PlType) :=
  [((INITIATOR, CONNECT), .caPairwiseCreate),
   ((INITIATOR, ISSUE), .caCredOffer),
   ((ADDRESSEE, ISSUE), .caCredRequest),
   ((INITIATOR, PROOF), .caProofRequest),
   ((ADDRESSEE, PROOF), .caProofPropose),
   ((INITIATOR, TRUST_PING), .caTrustPing),
   ((INITIATOR, BASIC_MESSAGE), .caBasicMessage),
   ((RESUME, ISSUE), .caContinueIssueCredentialProtocol),
   ((RESUME, PROOF), .caContinuePresentProofProtocol)]

/-- `typeID`: the look-up table from keys to task types. -/
def typeID : List (BitVec 32 × PlType) := typeIDPairs.map fun e => (typeKey e.1.1 e.1.2, e.2)

/-- `uniqueTypeID(role, id)`: the task type under the pair's key, or a panic with a string. -/
def uniqueTypeID (role id : BitVec 32) : Go PlType :=
  match typeID.lookup (typeKey role id) with
  | some s => .ok s
  | none => .error (.value
      ("cannot find typeid for (" ++ toString role.toInt ++ "+" ++ toString id.toInt ++ ")"))

/-- **The key forgets a shift**: `(role - 1, type + 10)` has the key of `(role, type)`, for any
values of the enum's names. -/
theorem typeKey_shift (role id : BitVec 32) : typeKey (role - 1) (id + 10) = typeKey role id := by
  unfold typeKey; ring

theorem uniqueTypeID_shift {role id : BitVec 32} {s : PlType} (h : uniqueTypeID role id = .ok s) :
    uniqueTypeID (role - 1) (id + 10) = .ok s := by
  unfold uniqueTypeID at h ⊢
  rw [typeKey_shift]
  split at h
  · exact h
  · cases h

/-- Every pair the table lists comes back as its own task type: its nine keys are distinct. -/
theorem uniqueTypeID_typeIDPairs : ∀ e ∈ typeIDPairs, uniqueTypeID e.1.1 e.1.2 = .ok e.2 := by
  decide

/-- The protocol family a task type belongs to, as a `Protocol_Type` value. -/
def taskFamily : PlType → Option (BitVec 32)
  | .caPairwiseCreate => some CONNECT
  | .caCredOffer | .caCredRequest | .caContinueIssueCredentialProtocol => some ISSUE
  | .caProofRequest | .caProofPropose | .caContinuePresentProofProtocol => some PROOF
  | .caTrustPing => some TRUST_PING
  | .caBasicMessage => some BASIC_MESSAGE
  | _ => none

/-- The role `UNKNOWN` with the type 12, a pair `typeID` does not list, comes back as the
issuer's `CACredOffer`. -/
theorem uniqueTypeID_off_table :
    uniqueTypeID UNKNOWN 12 = .ok .caCredOffer ∧ (UNKNOWN, 12) ∉ typeIDPairs.map Prod.fst ∧
      taskFamily .caCredOffer ≠ some 12 :=
  ⟨uniqueTypeID_shift (uniqueTypeID_typeIDPairs ((INITIATOR, ISSUE), .caCredOffer) (by decide)),
    by decide, by decide⟩

/-! ## Protocol families -/

/-- `protocolName`: the family of each protocol type, by position. -/
def protocolName : List PlType :=
  [.nothing, .ariesProtocolConnection, .protocolIssueCredential, .protocolPresentProof,
   .protocolTrustPing, .protocolBasicMessage]

/-- `protocolName[id]`: an index outside the array is a runtime error.  An `int32` below zero is
at least `2^31` as an unsigned index, so one bound check covers both ends. -/
def protocolNameAt (id : BitVec 32) : Go PlType :=
  match protocolName[id.toNat]? with
  | some s => .ok s
  | none => .error (.runtime .indexOutOfRange)

theorem protocolNameAt_ok_iff (id : BitVec 32) :
    (∃ s, protocolNameAt id = .ok s) ↔ 0 ≤ id.toInt ∧ id.toInt < 6 := by
  have hlt : id.toNat < 2 ^ 32 := id.isLt
  have hidx : (∃ s, protocolNameAt id = .ok s) ↔ id.toNat < 6 := by
    unfold protocolNameAt
    cases h : protocolName[id.toNat]? with
    | none =>
      simp only [reduceCtorEq, exists_false, false_iff, not_lt]
      exact List.getElem?_eq_none_iff.mp h
    | some s =>
      simp only [Except.ok.injEq, exists_eq', true_iff]
      exact (List.getElem?_eq_some_iff.mp h).1
  rw [hidx, BitVec.toInt]
  split <;> omega

/-- An index outside the array is a runtime error. -/
theorem protocolNameAt_of_out_of_range {id : BitVec 32} (hout : ¬(0 ≤ id.toInt ∧ id.toInt < 6)) :
    protocolNameAt id = .error (.runtime .indexOutOfRange) := by
  cases h : protocolName[id.toNat]? with
  | none => simp [protocolNameAt, h]
  | some family => exact absurd ((protocolNameAt_ok_iff id).mp ⟨family, by simp [protocolNameAt, h]⟩) hout

/-! ## The task -/

/-- `comm.Task`, as `taskFrom` fills it. -/
structure CommTask where
  nonce : String
  typeID : PlType
  message : String
  info : String
  connectionInvitation : Option Invitation
  credDefID : Option String
  credentialAttrs : Option (List CredentialAttribute)
  proofAttrs : Option (List ProofAttribute)
  deriving DecidableEq, Repr

/-- What `dto.FromJSONStr` decodes for `taskFrom`; a decoding error makes it panic. -/
structure JSONDecoders where
  invitation : String → Except String Invitation
  credentialAttrs : String → Except String (List CredentialAttribute)
  proofAttrs : String → Except String (List ProofAttribute)

/-- The `switch` of `taskFrom` on the protocol type, filling in the task it is given. -/
def fillTask (dec : JSONDecoders) (protocol : Protocol) (task : CommTask) : Go CommTask :=
  if protocol.typeId = TRUST_PING then .ok task
  else if protocol.typeId = BASIC_MESSAGE then .ok { task with info := protocol.getBasicMessage }
  else if protocol.typeId = CONNECT then
    match protocol.getConnAttr with
    | none => .error (.error "connection attrs cannot be nil")
    | some c => (Go.tryTo (dec.invitation c.invitationJson)).map fun inv =>
        { task with connectionInvitation := some inv, info := c.label, nonce := inv.ID }
  else if protocol.typeId = ISSUE then
    if protocol.role = INITIATOR then
      match protocol.getCredDef with
      | none => .error (.error "cred def cannot be nil for issuing protocol")
      | some credDef =>
        let task := { task with credDefID := some credDef.credDefId }
        match credDef.attrs with
        | some (.attrs l) =>
          .ok { task with credentialAttrs := some (l.map fun a => ⟨a.name, a.value, ""⟩) }
        | some (.attributesJson json) =>
          if json ≠ "" then
            (Go.tryTo (dec.credentialAttrs json)).map fun attrs =>
              { task with credentialAttrs := some attrs }
          else .ok task
        | none => .ok task
    else .ok task
  else if protocol.typeId = PROOF then
    if protocol.role = INITIATOR then
      match protocol.getProofReq with
      | some (.attributesJson json) =>
        if json ≠ "" then
          (Go.tryTo (dec.proofAttrs json)).map fun attrs => { task with proofAttrs := some attrs }
        else .ok task
      | some (.attrs l) =>
        .ok { task with proofAttrs := some (l.map fun a => ⟨"", a.name, a.credDefId, a.predicate⟩) }
      | none => .ok task
    else .ok task
  else .ok task

/-- `taskFrom(protocol)`: a task with a fresh nonce (`utils.UUID()`, here `uuid`), the task type
of the role and the protocol type, and the connection as its message, filled in by the
`switch`.  Its `defer err2.Return` turns the `error` panics into an error result; the string
panic of `uniqueTypeID` goes on. -/
def taskFrom (dec : JSONDecoders) (uuid : String) (protocol : Protocol) :
    Go (Except String CommTask) :=
  Go.returnErr <|
    (uniqueTypeID protocol.role protocol.typeId).bind fun typeID =>
      (fillTask dec protocol
        { nonce := uuid, typeID := typeID, message := protocol.connectionId, info := "",
          connectionInvitation := none, credDefID := none, credentialAttrs := none,
          proofAttrs := none }).map .ok

end FindyAgent
