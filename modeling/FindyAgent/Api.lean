import FindyAgent.Didcomm
import Mathlib.Data.BitVec

/-!
# The gRPC API

The messages of the agency's gRPC protocol service that the modelled code reads and writes: the
`Protocol` a client starts a protocol with, the `ProtocolID` it resumes or queries one by, and
the `ProtocolState` and `ProtocolStatus` it is answered with.

The protocol type and the role are proto3 enums, so they arrive as any `int32`; they are
`BitVec 32` here, and their named values are plain constants.  Those of `Protocol_Type` are the
positions `protocolName` gives them; those of `Protocol_Role` are the ones the generated code,
which is not among the sources, declares.  A `oneof` is an `Option` of an inductive, and its
getters answer the zero value for a field that is not set.
-/

set_option autoImplicit false

namespace FindyAgent

/-! ## The request -/

/-- `didexchange.Invitation`, of which `taskFrom` reads only the ID. -/
structure Invitation where
  ID : String
  deriving DecidableEq, Repr

/-- `ConnAttr`. -/
structure ConnAttr where
  invitationJson : String
  label : String
  deriving DecidableEq, Repr

/-- An attribute of `Protocol_IssuingAttributes`. -/
structure IssuingAttribute where
  name : String
  value : String
  deriving DecidableEq, Repr

/-- The attributes of a credential to issue: the `oneof` of a list and a JSON text. -/
inductive IssuingAttrs where
  | attrs (l : List IssuingAttribute)
  | attributesJson (json : String)
  deriving DecidableEq, Repr

/-- `Protocol_Issuing`, the `CredDef` of a request; `attrs` is `none` when the `oneof` is unset. -/
structure Issuing where
  credDefId : String
  attrs : Option IssuingAttrs
  deriving DecidableEq, Repr

/-- An attribute of a proof request. -/
structure ProofReqAttribute where
  name : String
  credDefId : String
  predicate : String
  deriving DecidableEq, Repr

/-- The attributes of a proof request: the `oneof` of a JSON text and a list. -/
inductive ProofReqAttrs where
  | attributesJson (json : String)
  | attrs (l : List ProofReqAttribute)
  deriving DecidableEq, Repr

/-- The `oneof` `start_msg` of a `Protocol`. -/
inductive StartMsg where
  | connAttr (c : ConnAttr)
  | basicMessage (s : String)
  | credDef (c : Issuing)
  | proofReq (attrs : Option ProofReqAttrs)
  deriving DecidableEq, Repr

/-- `pb.Protocol`; `startMsg` is `none` when the `oneof` is unset. -/
structure Protocol where
  typeId : BitVec 32
  role : BitVec 32
  connectionId : String
  startMsg : Option StartMsg
  deriving DecidableEq, Repr

namespace Protocol

def NONE : BitVec 32 := 0
def CONNECT : BitVec 32 := 1
def ISSUE : BitVec 32 := 2
def PROOF : BitVec 32 := 3
def TRUST_PING : BitVec 32 := 4
def BASIC_MESSAGE : BitVec 32 := 5

def UNKNOWN : BitVec 32 := 0
def INITIATOR : BitVec 32 := 1
def ADDRESSEE : BitVec 32 := 2
def RESUME : BitVec 32 := 3

/-- `GetConnAttr()`. -/
def getConnAttr (p : Protocol) : Option ConnAttr :=
  match p.startMsg with
  | some (.connAttr c) => some c
  | _ => none

/-- `GetBasicMessage()`. -/
def getBasicMessage (p : Protocol) : String :=
  match p.startMsg with
  | some (.basicMessage s) => s
  | _ => ""

/-- `GetCredDef()`. -/
def getCredDef (p : Protocol) : Option Issuing :=
  match p.startMsg with
  | some (.credDef c) => some c
  | _ => none

/-- `GetProofReq()`, read through its nil-safe getters: `none` for a nil request. -/
def getProofReq (p : Protocol) : Option ProofReqAttrs :=
  match p.startMsg with
  | some (.proofReq a) => a
  | _ => none

end Protocol

/-! ## The processors' request

The protocol processors' creators read the `pb.Protocol` of package `agency/v1`: its role and
the start message of their family.  Each attribute list there is a `oneof` of a JSON text and a
list, read through the getters `GetAttributesJSON()` (the empty text when the list is set) and
`GetAttributes()` (nil when the text is set). -/

/-- `Protocol_Proof_Attribute`. -/
structure ProofAttr where
  ID : String
  name : String
  credDefID : String
  deriving DecidableEq, Repr

/-- `Protocol_Predicates_Predicate`. -/
structure ProofPred where
  ID : String
  name : String
  pType : String
  pValue : Int
  deriving DecidableEq, Repr

/-- The `oneof` of a present-proof request's attributes. -/
inductive ProofAttrsFmt where
  | attributesJSON (json : String)
  | attributes (l : List ProofAttr)
  deriving DecidableEq, Repr

/-- The `oneof` of a present-proof request's predicates. -/
inductive PredicatesFmt where
  | predicatesJSON (json : String)
  | predicates (l : List ProofPred)
  deriving DecidableEq, Repr

/-- `Protocol_PresentProofMsg`; a `oneof` that is not set is `none`. -/
structure PresentProofMsg where
  attrFmt : Option ProofAttrsFmt
  predFmt : Option PredicatesFmt
  deriving DecidableEq, Repr

/-- `Protocol_IssueCredentialMsg`. -/
structure IssueCredentialMsg where
  credDefID : String
  attrFmt : Option IssuingAttrs
  deriving DecidableEq, Repr

/-- The `pb.Protocol` of package `agency/v1`, with what the creators read of it: its role, and
what `GetIssueCredential()` and `GetPresentProof()` return (`none` is nil). -/
structure ProtocolMsg where
  role : BitVec 32
  issueCredential : Option IssueCredentialMsg
  presentProof : Option PresentProofMsg
  deriving DecidableEq, Repr

namespace PresentProofMsg

variable (m : PresentProofMsg)

/-- `GetAttributesJSON()`. -/
def getAttributesJSON : String :=
  match m.attrFmt with
  | some (.attributesJSON json) => json
  | _ => ""

/-- `GetAttributes().GetAttributes()`, `none` when `GetAttributes()` is nil. -/
def getAttributes : Option (List ProofAttr) :=
  match m.attrFmt with
  | some (.attributes l) => some l
  | _ => none

/-- `GetPredicatesJSON()`. -/
def getPredicatesJSON : String :=
  match m.predFmt with
  | some (.predicatesJSON json) => json
  | _ => ""

/-- `GetPredicates().GetPredicates()`, `none` when `GetPredicates()` is nil. -/
def getPredicates : Option (List ProofPred) :=
  match m.predFmt with
  | some (.predicates l) => some l
  | _ => none

end PresentProofMsg

namespace IssueCredentialMsg

variable (m : IssueCredentialMsg)

/-- `GetAttributesJSON()`. -/
def getAttributesJSON : String :=
  match m.attrFmt with
  | some (.attributesJson json) => json
  | _ => ""

/-- `GetAttributes().GetAttributes()`, `none` when `GetAttributes()` is nil. -/
def getAttributes : Option (List IssuingAttribute) :=
  match m.attrFmt with
  | some (.attrs l) => some l
  | _ => none

end IssueCredentialMsg

/-! ## Answers -/

/-- `pb.ProtocolID`. -/
structure ProtocolID where
  typeID : BitVec 32
  role : BitVec 32
  ID : String
  deriving DecidableEq, Repr

/-- `pb.ProtocolState_State`. -/
inductive StateCode where
  | RUNNING
  | WAIT_ACTION
  | OK
  | NACK
  | ERR
  | ACK
  deriving DecidableEq, Repr

/-- `pb.ProtocolState`; `protocolID` is `none` when it is not set. -/
structure ProtocolState where
  protocolID : Option ProtocolID
  state : StateCode
  info : String
  deriving DecidableEq, Repr

/-- `pb.ProtocolStatus_IssueCredentialStatus`. -/
structure IssueCredentialStatus where
  credDefID : String
  schemaID : String
  attributes : List IssuingAttribute
  deriving DecidableEq, Repr

/-- The `oneof` `Status` of a `pb.ProtocolStatus`, as far as the modelled code sets it. -/
inductive FamilyStatus where
  | unset
  | issueCredential (s : IssueCredentialStatus)
  deriving DecidableEq, Repr

/-- `pb.ProtocolStatus`. -/
structure ProtocolStatus where
  state : ProtocolState
  status : FamilyStatus
  deriving DecidableEq, Repr

end FindyAgent
