import FindyAgent.Go

/-!
# Payload types, messages, and the records they carry

The vocabulary the agency passes between its parts: the `pltype` constants that name payload
types, protocol families and task types; the fields of a `didcomm.Msg` that the modelled code
reads or writes; and the attribute and proof-request records of `didcomm` and `anoncreds`.

`pltype` is not part of the sources at hand, and the code uses its constants only by name and
compares them only with each other, so `PlType` is the set of those names, one constructor each.
-/

set_option autoImplicit false

namespace FindyAgent

/-- The `pltype` constants the modelled code uses. -/
inductive PlType where
  -- task types a client starts or resumes
  | caPairwiseCreate | caCredOffer | caCredRequest | caProofRequest | caProofPropose
  | caTrustPing | caBasicMessage
  | caContinueIssueCredentialProtocol | caContinuePresentProofProtocol
  -- notifications and questions to the service agent
  | caNotifyStatus | caNotifyUserAction
  | saPing | saIssueCredentialAcceptPropose | saPresentProofAcceptPropose
  | saPresentProofAcceptValues
  -- a payload reporting a failed connection
  | connectionError
  -- protocol families
  | nothing | ariesProtocolConnection | protocolIssueCredential | protocolPresentProof
  | protocolTrustPing | protocolBasicMessage
  -- protocol messages a starter sends or waits for
  | issueCredentialPropose | issueCredentialOffer | issueCredentialRequest
  | presentProofPropose | presentProofRequest | presentProofPresentation
  | terminate
  deriving DecidableEq, Repr

/-! ## Attributes, predicates and proof requests -/

/-- `didcomm.CredentialAttribute`. -/
structure CredentialAttribute where
  name : String
  value : String
  mimeType : String
  deriving DecidableEq, Repr

/-- `didcomm.ProofAttribute`. -/
structure ProofAttribute where
  ID : String
  name : String
  credDefID : String
  predicate : String
  deriving DecidableEq, Repr

/-- `didcomm.ProofPredicate`. -/
structure ProofPredicate where
  ID : String
  name : String
  pType : String
  /-- An `int32` in the wire format; the code widens it to `int` losslessly. -/
  pValue : Int
  deriving DecidableEq, Repr

/-- `anoncreds.Filter`, of which the code sets only the credential definition. -/
structure Filter where
  credDefID : String
  deriving DecidableEq, Repr

/-- `anoncreds.AttrInfo`. -/
structure AttrInfo where
  name : String
  restrictions : List Filter
  deriving DecidableEq, Repr

/-- `anoncreds.PredicateInfo`. -/
structure PredicateInfo where
  name : String
  pType : String
  pValue : Int
  deriving DecidableEq, Repr

/-- `anoncreds.ProofRequest`. -/
structure ProofRequest where
  name : String
  version : String
  nonce : String
  requestedAttributes : GoMap String AttrInfo
  requestedPredicates : GoMap String PredicateInfo

/-! ## Messages -/

/-- The protocol-specific payload of a message (`SubMsg`), as far as the modelled code sets it. -/
inductive SubMsg where
  | none
  | proofRequest (r : ProofRequest)

/-- A `didcomm.Msg`, with what the modelled code reads or writes of it: `Thread().ID`, `Ready()`
(the service agent's yes or no), `Info()` and `SubMsg()`, with their setters. -/
structure Msg where
  threadID : String
  ready : Bool
  info : String
  subMsg : SubMsg

end FindyAgent
