import FindyAgent.Go

/-!
# The pairwise indices of an agent

An agent keeps its pairwise secure pipes twice over, under the mutex `pwLock`: `pws` by our DID
of the pairwise, for identity lookup (`SecPipe`), and `pwNames` by the pairwise's label, for
lookup by name (`PwPipe`).  A worker EA fills both from its wallet when it is created
(`loadPWMap`), and the connection protocol adds to them (`AddToPWMap`, `AddPipeToPWMap`).

None of the three writes looks at what is already stored: each is two plain Go map writes, so
the last write to a DID or to a label wins.  That settles what can be said about the indices.

* `pws` is always keyed by the pipe's own DID (`pws_key_addAll`), whatever is written.
* The two indices describe one set of `(myDID, theirDID, label)` triples — `Consistent` — for as
  long as no write `Conflicts` with what is stored: `consistent_addPipeToPWMap` is the step,
  `consistent_addAll` the run.  Under `Consistent`, `SecPipe` and `PwPipe` agree on every stored
  pairwise (`secPipe_pwPipe_of_consistent`).
* Writing again a triple that both indices hold changes nothing (`addPipeToPWMap_of_stored`),
  whatever else they hold.
* A conflicting write is applied all the same: afterwards both lookups return the new pipe
  (`addPipeToPWMap_lookup`), and the entries it displaced no longer agree.

`*ssi.DID` is read here only through `Did()`, so a `DID` is its identifier, and `LoadDID s` is the
DID whose identifier is `s`.
-/

set_option autoImplicit false

namespace FindyAgent

/-- `*ssi.DID`, as the pairwise maps see it: through `Did()`. -/
structure DID where
  did : String
  deriving DecidableEq, Repr

/-- `sec.Pipe`: our end of a pairwise, and theirs.  The fields keep the Go names, `in` being a
keyword of Lean. -/
structure Pipe where
  In : DID
  Out : DID
  deriving DecidableEq, Repr

/-- `PipeMap`. -/
abbrev PipeMap := GoMap String Pipe

/-- The two fields of an agent that `pwLock` guards. -/
structure PWMaps where
  /-- Pairwise secure pipes by our DID. -/
  pws : PipeMap
  /-- Pairwise secure pipes by label. -/
  pwNames : PipeMap

namespace PWMaps

/-- `make(PipeMap)` twice: a worker's indices before `loadPWMap`. -/
def empty : PWMaps := ⟨∅, ∅⟩

/-! ## The writes -/

/-- `AddPipeToPWMap(p, name)`. -/
def addPipeToPWMap (p : Pipe) (name : String) (a : PWMaps) : PWMaps :=
  { pws := a.pws.insert p.In.did p, pwNames := a.pwNames.insert name p }

/-- `AddToPWMap(me, you, name)`: the writes of `AddPipeToPWMap`, of the pipe it builds and
returns. -/
def addToPWMap (me you : DID) (name : String) (a : PWMaps) : PWMaps × Pipe :=
  (addPipeToPWMap ⟨me, you⟩ name a, ⟨me, you⟩)

/-- One pairwise as `indypw.NewData` lists it. -/
structure PairwiseData where
  myDid : String
  theirDid : String
  metadata : String
  deriving DecidableEq, Repr

/-- The pipe `loadPWMap` builds for a listed pairwise. -/
def PairwiseData.pipe (d : PairwiseData) : Pipe := ⟨⟨d.myDid⟩, ⟨d.theirDid⟩⟩

/-- `loadPWMap`: every pairwise of the wallet's listing, written into both indices in listing
order.  A listing that fails (`indypw.List` answering an error) is logged, and changes
nothing. -/
def loadPWMap (listing : Except String (List PairwiseData)) (a : PWMaps) : PWMaps :=
  match listing with
  | .error _ => a
  | .ok pwd => pwd.foldl
      (fun a d => { pws := a.pws.insert d.myDid d.pipe, pwNames := a.pwNames.insert d.metadata d.pipe })
      a

/-- `SecPipe(meDID)`; `none` is the zero `sec.Pipe` that a missing key reads as. -/
def secPipe (a : PWMaps) (meDID : String) : Option Pipe := a.pws.lookup meDID

/-- `PwPipe(pw)`: the pipe stored under the label, else the pairwise of that name in the wallet
(`DIDAgent.Pairwise`, here `walletPairwise`, which answers our DID and theirs). -/
def pwPipe (walletPairwise : String → Except String (String × String)) (a : PWMaps)
    (pw : String) : Go (Except String Pipe) :=
  Go.returnErr <|
    match a.pwNames.lookup pw with
    | some secPipe => .ok (.ok secPipe)
    | none => (Go.tryTo (walletPairwise pw)).bind fun (inn, out) =>
        if inn = "" ∨ out = "" then .ok (.error "cannot find pw") else .ok (.ok ⟨⟨inn⟩, ⟨out⟩⟩)

/-! ## Runs -/

/-- The calls that write the indices. -/
inductive PWOp where
  /-- `loadPWMap()`, on the wallet's listing. -/
  | load (listing : Except String (List PairwiseData))
  /-- `AddToPWMap(me, you, name)`. -/
  | add (me you : DID) (name : String)
  /-- `AddPipeToPWMap(p, name)`. -/
  | addPipe (p : Pipe) (name : String)

/-- What a call does to the indices. -/
def PWOp.apply : PWOp → PWMaps → PWMaps
  | .load listing, a => loadPWMap listing a
  | .add me you name, a => (addToPWMap me you name a).1
  | .addPipe p name, a => addPipeToPWMap p name a

/-- The indices of a worker created by `workerAgent` (empty maps, then `loadPWMap` on its
wallet's listing), after the calls `ops`. -/
def workerPW (listing : Except String (List PairwiseData)) (ops : List PWOp) : PWMaps :=
  ops.foldl (fun a op => op.apply a) (loadPWMap listing empty)

/-- A list of `(pipe, label)` writes, applied in order. -/
def addAll (ws : List (Pipe × String)) (a : PWMaps) : PWMaps :=
  ws.foldl (fun a w => addPipeToPWMap w.1 w.2 a) a

/-- The writes a call makes, in order. -/
def PWOp.writes : PWOp → List (Pipe × String)
  | .load (.ok pwd) => pwd.map fun d => (d.pipe, d.metadata)
  | .load (.error _) => []
  | .add me you name => [(⟨me, you⟩, name)]
  | .addPipe p name => [(p, name)]

/-- Every write of a worker's life: its wallet's listing, then each call's. -/
def runWrites (listing : Except String (List PairwiseData)) (ops : List PWOp) :
    List (Pipe × String) :=
  (PWOp.load listing).writes ++ ops.flatMap PWOp.writes

@[simp] theorem addAll_nil (a : PWMaps) : addAll [] a = a := rfl

@[simp] theorem addAll_cons (w : Pipe × String) (ws : List (Pipe × String)) (a : PWMaps) :
    addAll (w :: ws) a = addAll ws (addPipeToPWMap w.1 w.2 a) := rfl

theorem addAll_append (ws ws' : List (Pipe × String)) (a : PWMaps) :
    addAll (ws ++ ws') a = addAll ws' (addAll ws a) := List.foldl_append _ _ _ _

theorem PWOp.apply_eq (op : PWOp) (a : PWMaps) : op.apply a = addAll op.writes a := by
  rcases op with (_ | pwd) | _ | _
  · rfl
  · induction pwd generalizing a with
    | nil => rfl
    | cons d pwd ih => exact ih _
  · rfl
  · rfl

theorem foldl_apply (ops : List PWOp) (a : PWMaps) :
    ops.foldl (fun a op => op.apply a) a = addAll (ops.flatMap PWOp.writes) a := by
  induction ops generalizing a with
  | nil => rfl
  | cons op ops ih => rw [List.foldl_cons, ih, PWOp.apply_eq, List.flatMap_cons, addAll_append]

/-- A worker's indices are its writes, applied in order. -/
theorem workerPW_eq (listing : Except String (List PairwiseData)) (ops : List PWOp) :
    workerPW listing ops = addAll (runWrites listing ops) empty := by
  rw [workerPW, foldl_apply, runWrites, addAll_append, ← PWOp.apply_eq]
  rfl

/-! ## What a write does -/

section write

variable {a : PWMaps} {p : Pipe} {name : String}

@[simp] theorem addPipeToPWMap_pws : (addPipeToPWMap p name a).pws = a.pws.insert p.In.did p := rfl

@[simp] theorem addPipeToPWMap_pwNames :
    (addPipeToPWMap p name a).pwNames = a.pwNames.insert name p := rfl

/-- **No write is refused**: after `AddPipeToPWMap(p, name)`, both lookups return `p`. -/
theorem addPipeToPWMap_lookup :
    secPipe (addPipeToPWMap p name a) p.In.did = some p ∧
      (addPipeToPWMap p name a).pwNames.lookup name = some p := by
  simp [secPipe, Finmap.lookup_insert]

/-- `pws` stays keyed by each pipe's own DID, whatever is written. -/
theorem pws_key_addAll (ws : List (Pipe × String)) (a : PWMaps)
    (h : ∀ d q, a.pws.lookup d = some q → q.In.did = d) :
    ∀ d q, (addAll ws a).pws.lookup d = some q → q.In.did = d := by
  induction ws generalizing a with
  | nil => exact h
  | cons w ws ih =>
    refine ih _ fun d q hq => ?_
    by_cases hd : d = w.1.In.did
    · subst hd
      rw [addPipeToPWMap_pws, Finmap.lookup_insert, Option.some_inj] at hq
      rw [hq]
    · rw [addPipeToPWMap_pws, Finmap.lookup_insert_of_ne _ hd] at hq
      exact h d q hq

end write

/-! ## The two indices agree -/

/-- The two indices describe one set of `(myDID, theirDID, label)` triples: each label names one
pipe, stored under its own DID, and each DID carries one label. -/
structure Consistent (a : PWMaps) : Prop where
  /-- A pipe stored under a label is stored under its DID too. -/
  name_pws : ∀ l p, a.pwNames.lookup l = some p → a.pws.lookup p.In.did = some p
  /-- `pws` is keyed by each pipe's own DID. -/
  pws_key : ∀ d p, a.pws.lookup d = some p → p.In.did = d
  /-- A pipe stored under a DID has a label. -/
  pws_name : ∀ d p, a.pws.lookup d = some p → ∃ l, a.pwNames.lookup l = some p
  /-- No DID carries two labels. -/
  name_inj : ∀ l₁ l₂ p₁ p₂, a.pwNames.lookup l₁ = some p₁ → a.pwNames.lookup l₂ = some p₂ →
    p₁.In.did = p₂.In.did → l₁ = l₂

/-- Writing the pipe `p` under `name` conflicts with what is stored: its DID is stored with
another pipe (another theirDID) or under another label, or the label is stored for another
DID. -/
def Conflicts (a : PWMaps) (p : Pipe) (name : String) : Prop :=
  (∃ q, a.pws.lookup p.In.did = some q ∧ q ≠ p) ∨
    (∃ l q, a.pwNames.lookup l = some q ∧ q.In.did = p.In.did ∧ l ≠ name) ∨
    ∃ q, a.pwNames.lookup name = some q ∧ q.In.did ≠ p.In.did

/-- No write of `ws` conflicts with the indices it meets. -/
def NoConflict : PWMaps → List (Pipe × String) → Prop
  | _, [] => True
  | a, w :: ws => ¬Conflicts a w.1 w.2 ∧ NoConflict (addPipeToPWMap w.1 w.2 a) ws

theorem consistent_empty : Consistent empty :=
  ⟨fun _ _ h => by simp [empty] at h, fun _ _ h => by simp [empty] at h,
    fun _ _ h => by simp [empty] at h, fun _ _ _ _ h => by simp [empty] at h⟩

section step

variable {a : PWMaps} {p : Pipe} {name : String}

theorem not_conflicts_iff : ¬Conflicts a p name ↔
    (∀ q, a.pws.lookup p.In.did = some q → q = p) ∧
    (∀ l q, a.pwNames.lookup l = some q → q.In.did = p.In.did → l = name) ∧
    ∀ q, a.pwNames.lookup name = some q → q.In.did = p.In.did := by
  simp only [Conflicts, not_or, not_exists, not_and, not_not]

/-- **The step**: a write that conflicts with nothing stored keeps the indices consistent. -/
theorem consistent_addPipeToPWMap (hc : Consistent a) (hn : ¬Conflicts a p name) :
    Consistent (addPipeToPWMap p name a) := by
  obtain ⟨h₁, h₂, h₃⟩ := not_conflicts_iff.mp hn
  simp only [addPipeToPWMap]
  constructor
  · intro l q hl
    rw [GoMap.lookup_insert_eq_ite] at hl
    by_cases hln : l = name
    · rw [if_pos hln, Option.some_inj] at hl
      subst hl
      exact Finmap.lookup_insert _
    · rw [if_neg hln] at hl
      have hd : q.In.did ≠ p.In.did := fun hd => hln (h₂ l q hl hd)
      rw [GoMap.lookup_insert_eq_ite, if_neg hd]
      exact hc.name_pws l q hl
  · intro d q hd
    rw [GoMap.lookup_insert_eq_ite] at hd
    split_ifs at hd with hdp
    · cases hd; exact hdp.symm
    · exact hc.pws_key d q hd
  · intro d q hd
    rw [GoMap.lookup_insert_eq_ite] at hd
    split_ifs at hd with hdp
    · cases hd; exact ⟨name, Finmap.lookup_insert _⟩
    · obtain ⟨l, hl⟩ := hc.pws_name d q hd
      refine ⟨l, ?_⟩
      rw [GoMap.lookup_insert_eq_ite, if_neg]
      · exact hl
      · rintro rfl
        exact hdp ((hc.pws_key d q hd).symm.trans (h₃ q hl))
  · intro l₁ l₂ q₁ q₂ hl₁ hl₂ heq
    rw [GoMap.lookup_insert_eq_ite] at hl₁ hl₂
    split_ifs at hl₁ hl₂ with e₁ e₂ e₂
    · exact e₁.trans e₂.symm
    · cases hl₁; exact absurd (h₂ l₂ q₂ hl₂ heq.symm) e₂
    · cases hl₂; exact absurd (h₂ l₁ q₁ hl₁ heq) e₁
    · exact hc.name_inj l₁ l₂ q₁ q₂ hl₁ hl₂ heq

/-- **The run**: writes none of which conflicts keep the indices consistent. -/
theorem consistent_addAll {ws : List (Pipe × String)} (hc : Consistent a)
    (hn : NoConflict a ws) : Consistent (addAll ws a) := by
  induction ws generalizing a with
  | nil => exact hc
  | cons w ws ih => exact ih (consistent_addPipeToPWMap hc hn.1) hn.2

/-- Writing again a triple that both indices hold changes neither. -/
theorem addPipeToPWMap_of_stored (h : a.pwNames.lookup name = some p)
    (h' : a.pws.lookup p.In.did = some p) : addPipeToPWMap p name a = a := by
  show PWMaps.mk _ _ = a
  rw [GoMap.insert_of_lookup h, GoMap.insert_of_lookup h']

/-- Under `Consistent`, `SecPipe` and `PwPipe` return the same pipe for every stored pairwise,
without asking the wallet. -/
theorem secPipe_pwPipe_of_consistent (hc : Consistent a)
    (walletPairwise : String → Except String (String × String)) {l : String}
    (h : a.pwNames.lookup l = some p) :
    secPipe a p.In.did = some p ∧ pwPipe walletPairwise a l = .ok (.ok p) :=
  ⟨hc.name_pws l p h, by simp [pwPipe, h, Go.returnErr, Go.handle]⟩

end step

/-! ## A worker's whole life -/

theorem workerPW_append (listing : Except String (List PairwiseData)) (ops : List PWOp)
    (op : PWOp) : workerPW listing (ops ++ [op]) = op.apply (workerPW listing ops) :=
  List.foldl_append _ _ _ _

/-- **The pairwise indices of a worker, over every sequence of calls.**  `pws` stays keyed by
each pipe's own DID.  When no write of the worker's life conflicts with what is stored, the two
indices describe one set of triples and `SecPipe` and `PwPipe` agree on every stored pairwise.
Writing again a triple that both indices hold changes nothing.  And no add is refused: afterwards both lookups
return the pipe it wrote. -/
theorem workerPW_last_write_wins (listing : Except String (List PairwiseData)) (ops : List PWOp) :
    (∀ d p, secPipe (workerPW listing ops) d = some p → p.In.did = d) ∧
    (NoConflict empty (runWrites listing ops) →
      Consistent (workerPW listing ops) ∧
        ∀ walletPairwise l p, (workerPW listing ops).pwNames.lookup l = some p →
          secPipe (workerPW listing ops) p.In.did = some p ∧
            pwPipe walletPairwise (workerPW listing ops) l = .ok (.ok p)) ∧
    (∀ me you name, (workerPW listing ops).pwNames.lookup name = some ⟨me, you⟩ →
      secPipe (workerPW listing ops) me.did = some ⟨me, you⟩ →
        workerPW listing (ops ++ [.add me you name]) = workerPW listing ops) ∧
    ∀ me you name,
      secPipe (workerPW listing (ops ++ [.add me you name])) me.did = some ⟨me, you⟩ ∧
        (workerPW listing (ops ++ [.add me you name])).pwNames.lookup name = some ⟨me, you⟩ := by
  refine ⟨?_, fun hn => ?_, fun me you name h h' => ?_, fun me you name => ?_⟩
  · rw [workerPW_eq]
    exact pws_key_addAll _ _ fun _ _ h => by simp [empty] at h
  · have hc := workerPW_eq listing ops ▸ consistent_addAll consistent_empty hn
    exact ⟨hc, fun w l p h => secPipe_pwPipe_of_consistent hc w h⟩
  · rw [workerPW_append]
    exact addPipeToPWMap_of_stored h h'
  · rw [workerPW_append]
    exact addPipeToPWMap_lookup

/-- One DID added under two labels: the second add is applied, not refused, and the first label
now names a pipe that `pws` no longer holds. -/
theorem workerPW_relabel_inconsistent :
    ¬Consistent (workerPW (.ok []) [.add ⟨"did:me"⟩ ⟨"did:you"⟩ "alice",
      .add ⟨"did:me"⟩ ⟨"did:you2"⟩ "bob"]) := fun h =>
  absurd (h.name_pws "alice" ⟨⟨"did:me"⟩, ⟨"did:you"⟩⟩ (by decide)) (by decide)

end PWMaps

end FindyAgent
