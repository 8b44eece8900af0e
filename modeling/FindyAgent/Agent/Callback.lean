import FindyAgent.Agent.Cloud

/-!
# Calling the service agent

`CallEA(plType, im)` (here `callEA`) is how a protocol asks the CA's service agent (SA) a
question: accept this proposal, these values, this ping.  It picks the way to call with
`callableEA` and then calls either the SA implementation named by `SAImplID` (`sa.Get(SAImplID)`)
or the legacy endpoint of the EA (Go's `callEA`, here `callEAEndp`).  Its `defer err2.Handle`
rewrites every failure — an error the callee returned, or one thrown by `err2.Check` — into the
inbound message with `Ready` false and a nil error, so that the protocol goes on and tells the
other end no.

`callEA_nack_on_failure` is that contract, for every CA, every registry of implementations,
every behaviour of the legacy endpoint, and every question: `callEA` never returns an error, a
failed call gives back `im` with `Ready` false, and a reply comes back unchanged.  In fact
`callableEA` never chooses the endpoint — `checkSAImpl` always answers `callTypeImplID`, after
installing the default implementation if there is none (`callableEA_of_isCA`) — so the legacy
branch is dead code; the theorem holds whatever it would do.

`sa.Get` is not among the sources; it is modelled from the spec, which calls a service agent
that does not answer a `CallbackFailure` and resolves it to NACK.
-/

set_option autoImplicit false

namespace FindyAgent

/-- `sa.Handler`: an implementation's answer `(om, err)` to the question `plType` about `im`,
asked for the worker DID `WDID`; `none` is a nil message. -/
abbrev SAHandler := String → PlType → Msg → Except String (Option Msg)

/-- Modelled from the spec: `sa.Get` (package `agent/sa`) is not under `src/`.  It returns the
implementation registered under the ID; under an ID with nothing registered there is nobody to
answer, which the spec counts as a `CallbackFailure`, an error of the call. -/
def saGet (impls : GoMap String SAHandler) (implID : String) : SAHandler :=
  match impls.lookup implID with
  | some h => h
  | none => fun _ _ _ => .error ("no SA implementation " ++ implID)

/-- The proof request the permissive SA answers a proposal with. -/
def firstProofReq (nonce : String) : ProofRequest where
  name := "FirstProofReq"
  version := "0.1"
  nonce := nonce
  requestedAttributes := Finmap.singleton "attr1_referent" ⟨"email", []⟩
  requestedPredicates := ∅

/-- `permissiveHandler`, registered as `PermissiveSA`: it says yes to every question it knows,
and answers nil to the others.  `nonce` is what `utils.NewNonceStr()` draws. -/
def permissiveHandler (nonce : String) : SAHandler := fun _ plType im =>
  match plType with
  | .saPing => .ok (some { im with ready := true, info := "SA ping OK" })
  | .saIssueCredentialAcceptPropose => .ok (some { im with ready := true })
  | .saPresentProofAcceptPropose =>
    .ok (some { im with subMsg := .proofRequest (firstProofReq nonce), ready := true })
  | .saPresentProofAcceptValues => .ok (some { im with ready := true })
  | _ => .ok none

/-- What `Tr.DIDComCallEndp` brings back from the EA's endpoint. -/
inductive Payload where
  /-- A payload of type `pltype.ConnectionError`, with its message's `Error()`. -/
  | connectionError (err : String)
  /-- Any other payload, with its message. -/
  | reply (m : Option Msg)

namespace CloudAgent

/-- `callEA(plType, msg)`: the legacy call to the EA's own endpoint, `Tr.DIDComCallEndp` being
`callEndp`.  The endpoint is read through `EAEndp` first, nil or not.  The name `callEA` is the
model's `CallEA`. -/
def callEAEndp (callEndp : String → PlType → Msg → Except String Payload) (plType : PlType)
    (msg : Msg) (a : CloudAgent) : Go (Except String (Option Msg)) :=
  Go.returnErr <|
    match a.eaEndp with
    | none => .error (.runtime .nilDereference)
    | some endp =>
      (Go.tryTo (callEndp endp.endp plType msg)).bind fun ipl =>
        match ipl with
        | .connectionError e => .ok (.error ("call ea api: " ++ e))
        | .reply m => .ok (.ok m)

/-- `CallEA(plType, im)`.  Its deferred handler and its default case both answer `om = im` with
`om.SetReady(false)`. -/
def callEA (env : Env) (grpcSA : String) (impls : GoMap String SAHandler)
    (callEndp : String → PlType → Msg → Except String Payload) (plType : PlType) (im : Msg)
    (a : CloudAgent) : GoSt CloudAgent (Except String (Option Msg)) :=
  let r := GoSt.andThen (callableEA env grpcSA a) fun a ct =>
    match ct with
    | .endp => (a, callEAEndp callEndp plType im a)
    | .implID => (a, .ok (saGet impls a.saImplID a.wdid plType im))
    | .none =>
      (a, .ok (.ok (some { im with ready := false, info := "no SA endpoint or implementation ID set" })))
  (r.1, Go.handle (fun _ => .ok (.ok (some { im with ready := false }))) r.2)

/-! ## What `callEA` returns -/

/-- The implementation `callEA` asks: the CA's own, or the default that `checkSAImpl` installs. -/
def selectedSA (grpcSA : String) (a : CloudAgent) : String :=
  if a.saImplID = "" then grpcSA else a.saImplID

variable {env : Env} {grpcSA : String} {a : CloudAgent}

/-- What `callableEA` does to a CA: it chooses the implementation, installs it, and may read an
endpoint back into `EAEndp`; nothing else changes. -/
theorem callableEA_of_isCA (ha : a.isCA = true) :
    ∃ a', callableEA env grpcSA a = (a', .ok .implID) ∧ a'.saImplID = selectedSA grpcSA a ∧
      a'.isCA = a.isCA ∧ a'.worker = a.worker ∧ a'.payloadPipe = a.payloadPipe := by
  unfold callableEA checkSAImpl selectedSA
  simp only [ha, not_true_eq_false, if_false]
  split_ifs with h₁ h₂ h₂ <;> (try split) <;> simp_all

/-- **A failed callback is a NACK.**  For every CA, every registry of implementations and every
behaviour of the legacy endpoint, `callEA` returns a nil error: the reply of the selected
implementation when it answers, and `im` with `Ready` false when it fails. -/
theorem callEA_nack_on_failure (impls : GoMap String SAHandler)
    (callEndp : String → PlType → Msg → Except String Payload) (plType : PlType) (im : Msg)
    (ha : a.isCA = true) :
    (callEA env grpcSA impls callEndp plType im a).2 =
      .ok (.ok (match saGet impls (selectedSA grpcSA a) a.wdid plType im with
        | .ok om => om
        | .error _ => some { im with ready := false })) := by
  obtain ⟨a', h, hs, -, -, hp⟩ := @callableEA_of_isCA env grpcSA a ha
  simp only [callEA, h, GoSt.andThen_ok, hs, wdid, hp]
  cases saGet impls (selectedSA grpcSA a) a.payloadPipe.Out.did plType im <;> rfl

/-- A ping to a fresh CA whose default implementation is not registered: a NACK. -/
theorem callEA_nack_on_failure_unregistered :
    fresh.isCA = true ∧
      (fresh.callEA ⟨.ok "key", true, .ok (), .ok [], .ok (), none⟩ "grpc" ∅
          (fun _ _ _ => .error "unreachable") .saPing ⟨"thread", true, "hello", .none⟩).2 =
        .ok (.ok (match saGet ∅ (selectedSA "grpc" fresh) fresh.wdid .saPing
            ⟨"thread", true, "hello", .none⟩ with
          | .ok om => om
          | .error _ => some { (⟨"thread", true, "hello", .none⟩ : Msg) with ready := false })) :=
  ⟨rfl, callEA_nack_on_failure _ _ _ _ rfl⟩

end CloudAgent

end FindyAgent
