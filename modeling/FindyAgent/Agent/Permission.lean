import FindyAgent.Agent.Callback

/-!
# Auto-permission of a CA and its worker, over a CA's life

The CA and its worker each answer `AutoPermission()` from their own `SAImplID`, and the
agency relies on the two agreeing.  `Reach ok` is the set of states a CA reaches from a fresh
start — no implementation, no worker — under any sequence of `AttachSAImpl`, `CallEA` and
`WEA` calls, in which every call meets a wallet and an enclave that answer as an `Env` with
`ok env` says.

* `autoInSync_reach`: when every wallet and enclave step succeeds (`Env.Succeeds`) and the
  default implementation `sa.GRPCSA` is not the permissive one, the two agree in every
  reachable state (`AutoInSync`).  The step lemmas are one per call: `wea_of_succeeds`,
  `attachSAImpl_of_succeeds`, and `callableEA_of_isCA` from `FindyAgent.Agent.Callback`.
* `attachSAImpl_setMeta_fails`: when the wallet write of `AttachAPIEndp` fails, the CA has
  switched to the permissive implementation and its worker has not.  `AttachSAImpl` writes the
  CA first and the worker last, and the `err2.Catch` it defers stops the call in between.
-/

set_option autoImplicit false

namespace FindyAgent

namespace CloudAgent

/-- The calls that change what a CA or its worker hold. -/
inductive CAOp where
  | attachSAImpl (implID : String) (persistent : Bool)
  | callEA (plType : PlType) (im : Msg)
  | wea

section run

variable (grpcSA : String) (impls : GoMap String SAHandler)
  (callEndp : String → PlType → Msg → Except String Payload)

/-- What a call does to the CA and its worker, the wallet and the enclave answering as `env`. -/
def CAOp.apply (env : Env) : CAOp → CloudAgent → CloudAgent
  | .attachSAImpl implID persistent, a => (a.attachSAImpl env implID persistent).1
  | .callEA plType im, a => (a.callEA env grpcSA impls callEndp plType im).1
  | .wea, a => (a.wea env).1

/-- The states a CA reaches from a fresh start, each call meeting an environment allowed by
`ok`. -/
inductive Reach (ok : Env → Prop) : CloudAgent → Prop
  | fresh {a : CloudAgent} : a.isCA = true → a.saImplID = "" → a.worker = none → Reach ok a
  | step {a : CloudAgent} (env : Env) (op : CAOp) :
      ok env → Reach ok a → Reach ok (CAOp.apply grpcSA impls callEndp env op a)

end run

/-- The CA and its worker agree on `AutoPermission()`; before there is a worker, the CA's is
off. -/
def AutoInSync (a : CloudAgent) : Prop :=
  match a.worker with
  | some w => a.autoPermission = w.autoPermission
  | none => a.autoPermission = false

/-! ## One lemma per call -/

variable {env : Env} {a : CloudAgent}

/-- The worker `workerAgent` attaches: no implementation yet, and the pairwise indices its
wallet lists. -/
def newWorker (env : Env) : WorkerEA := ⟨"", PWMaps.loadPWMap env.pairwiseList PWMaps.empty⟩

/-- With the enclave answering, `WEA()` returns the worker, attaching a new one if there was
none; nothing else changes. -/
theorem wea_of_succeeds (h : env.Succeeds) (a : CloudAgent) :
    a.wea env = ({ a with worker := some (a.worker.getD (newWorker env)) },
      .ok (a.worker.getD (newWorker env))) := by
  obtain ⟨k, hk⟩ := h.walletKey
  have hm : (if env.walletCreatedBefore then .ok () else env.masterSecret) =
      (.ok () : Except String Unit) := by split <;> simp [h.masterSecret]
  obtain ⟨isCA, s, e, _ | w, p, m⟩ := a
  · simp only [wea, workerAgent, hk, hm]; rfl
  · rfl

/-- With every step succeeding, `AttachSAImpl` on a CA sets the implementation of both the CA
and its worker. -/
theorem attachSAImpl_of_succeeds (h : env.Succeeds) (ha : a.isCA = true) (implID : String)
    (persistent : Bool) :
    (a.attachSAImpl env implID persistent).1.saImplID = implID ∧
      (a.attachSAImpl env implID persistent).1.isCA = true ∧
      ∃ w, (a.attachSAImpl env implID persistent).1.worker = some w ∧ w.saImplID = implID := by
  cases persistent <;>
    simp [attachSAImpl, ha, wea_of_succeeds h, attachAPIEndp, h.setMeta, GoSt.catchErr]

/-- The implementation `CallEA` selects gives the CA the auto-permission it had, as long as the
default one is not the permissive one. -/
theorem autoPermission_selectedSA {grpcSA : String} (hg : grpcSA ≠ permissiveSA) :
    (selectedSA grpcSA a == permissiveSA) = a.autoPermission := by
  unfold selectedSA autoPermission
  split_ifs with hs
  · rw [hs, beq_eq_false_iff_ne.mpr hg]; rfl
  · rfl

/-- `CallEA` changes a CA as `callableEA` does. -/
theorem callEA_fst (grpcSA : String) (impls : GoMap String SAHandler)
    (callEndp : String → PlType → Msg → Except String Payload) (plType : PlType) (im : Msg) :
    (a.callEA env grpcSA impls callEndp plType im).1 = (a.callableEA env grpcSA).1 := by
  unfold callEA
  rcases callableEA env grpcSA a with ⟨a', _ | _ | _ | _⟩ <;> rfl

/-! ## The invariant -/

/-- **Auto-permission stays in sync** when every wallet and enclave step succeeds and the
default implementation is not the permissive one. -/
theorem autoInSync_reach {grpcSA : String} {impls : GoMap String SAHandler}
    {callEndp : String → PlType → Msg → Except String Payload}
    (hg : grpcSA ≠ permissiveSA) (h : Reach grpcSA impls callEndp Env.Succeeds a) :
    a.isCA = true ∧ AutoInSync a := by
  induction h with
  | fresh hca hs hw => simp [AutoInSync, hw, autoPermission, hs, permissiveSA, hca]
  | @step a env op hok _ ih =>
    obtain ⟨hca, hsync⟩ := ih
    cases op with
    | attachSAImpl implID persistent =>
      obtain ⟨hs, hca', w, hw, hws⟩ := attachSAImpl_of_succeeds hok hca implID persistent
      refine ⟨hca', ?_⟩
      simp only [CAOp.apply, AutoInSync, hw, autoPermission, WorkerEA.autoPermission, hs, hws]
    | callEA plType im =>
      obtain ⟨a', h, hs, hca', hw, -⟩ := @callableEA_of_isCA env grpcSA a hca
      have hauto : a'.autoPermission = a.autoPermission := by
        unfold autoPermission; rw [hs]; exact autoPermission_selectedSA hg
      rw [CAOp.apply, callEA_fst, h]
      refine ⟨hca'.trans hca, ?_⟩
      unfold AutoInSync at hsync ⊢
      rwa [hw, hauto]
    | wea =>
      rw [CAOp.apply, wea_of_succeeds hok]
      refine ⟨hca, ?_⟩
      unfold AutoInSync at hsync ⊢
      cases hw : a.worker <;> rw [hw] at hsync <;> exact hsync

/-- Every step succeeds. -/
def allSucceed : Env := ⟨.ok "wallet-key", true, .ok (), .ok [], .ok (), none⟩

/-- A fresh CA that attaches the permissive implementation, every step succeeding: the CA and
its worker agree. -/
theorem autoInSync_reach_permissive :
    ("grpc" : String) ≠ permissiveSA ∧
      Reach "grpc" ∅ (fun _ _ _ => .error "unreachable") Env.Succeeds
        (CAOp.apply "grpc" ∅ (fun _ _ _ => .error "unreachable") allSucceed
          (.attachSAImpl permissiveSA true) fresh) ∧
      (CAOp.apply "grpc" ∅ (fun _ _ _ => .error "unreachable") allSucceed
          (.attachSAImpl permissiveSA true) fresh).isCA = true ∧
      AutoInSync (CAOp.apply "grpc" ∅ (fun _ _ _ => .error "unreachable") allSucceed
          (.attachSAImpl permissiveSA true) fresh) :=
  have h : Reach "grpc" ∅ (fun _ _ _ => .error "unreachable") Env.Succeeds
      (CAOp.apply "grpc" ∅ (fun _ _ _ => .error "unreachable") allSucceed
        (.attachSAImpl permissiveSA true) fresh) :=
    .step allSucceed _ ⟨⟨_, rfl⟩, rfl, rfl⟩ (.fresh rfl rfl rfl)
  ⟨by decide, h, autoInSync_reach (by decide) h⟩

/-! ## A failed attachment -/

/-- The worker is created, and then the wallet write of `AttachAPIEndp` fails. -/
def setMetaFails : Env where
  walletKey := .ok "wallet-key"
  walletCreatedBefore := true
  masterSecret := .ok ()
  pairwiseList := .ok []
  setMeta := .error "wallet write failed"
  metaErr := none

/-- `AttachSAImpl("permissive_sa", true)` on a fresh CA whose wallet write fails: the CA has
auto-permission and its worker, which now exists, does not. -/
theorem attachSAImpl_setMeta_fails :
    (fresh.attachSAImpl setMetaFails permissiveSA true).1.autoPermission = true ∧
      (fresh.attachSAImpl setMetaFails permissiveSA true).1.worker.map WorkerEA.autoPermission =
        some false := by
  decide

end CloudAgent

end FindyAgent
