import FindyAgent.Protocol.PresentProof
import FindyAgent.Protocol.IssueCredential

/-!
# The stores the writers reach

Of the modelled code, three calls write the store: present proof's `startProofProtocol` and
issue credential's `startIssueCredentialByPropose`, each through `StartPSM`, and `Release`, through
`prot.AddAndSetFlagUpdatePSM`.  A store is reachable (`Reach`) when some sequence of starts, each
with any task, any send result and any offer, and of flag updates, each on any key with any bits,
builds it from the empty store.  Every reachable store is `WellFormed`:

* every PSM has an entry, and each entry holds a task whose nonce is the one of the PSM's key;
* every record of a family sits under its own key, beside a PSM whose entries all hold a task of
  that family.

## What is here

* `Initial.SetupWrites` says once what a starter's setup may do: write one record of its task's
  family under the key it is given.  Each starter shows that its setups do no more
  (`PresentProof.startProofProtocol_cases`,
  `IssueCredential.startIssueCredentialByPropose_cases`).  `wellFormed_startPSM` is the step lemma
  of a start: a start whose setup does only that keeps a store well formed, whether it is
  refused, its setup fails, or it succeeds.  `wellFormed_addAndSetFlagUpdatePSM` is the step
  lemma of a flag update, whose entry copies the task of the last state.
* `StoreOp.apply_cases` is the inversion lemma of the writers: a call leaves the store as it
  was, is a `startPSM` whose setup writes as above, or is a flag update.  `Reach.wellFormed` is
  the run lemma.
* The consequences for the code that reads the store.  `PSM.lastState` is never nil on a
  reachable store (`WellFormed.lastState`), so present proof's `continueProtocol` fails by its
  unchecked type assertion on every issue-credential protocol of a reachable store
  (`continueProtocol_of_issueCredRep`).  A key has the records of one family only
  (`issueCredRep_none_of_reach`).
-/

set_option autoImplicit false

namespace FindyAgent

/-! ## The invariant -/

/-- The PSM under `k` has an entry, and each of its entries holds a task of `k`'s nonce. -/
def PSM.Keyed (k : StateKey) (m : PSM) : Prop :=
  m.states ≠ [] ∧ ∀ st ∈ m.states, ∃ t, st.T = some t ∧ t.header.taskID = k.nonce

/-- Every record of the table sits under its own key, beside a PSM whose entries all hold a task
that `fam` accepts. -/
def RepsBeside {ρ : Type} (repKey : ρ → StateKey) (fam : Task → Bool) (reps : GoMap StateKey ρ)
    (psms : GoMap StateKey PSM) : Prop :=
  ∀ k rep, reps.lookup k = some rep →
    repKey rep = k ∧ ∃ m, psms.lookup k = some m ∧ ∀ st ∈ m.states, ∃ t, st.T = some t ∧ fam t

/-- `psms'` keeps every PSM of `psms`, each of its entries holding a task that one of the old
entries held. -/
def PSMsExtend (psms psms' : GoMap StateKey PSM) : Prop :=
  ∀ k m, psms.lookup k = some m →
    ∃ m', psms'.lookup k = some m' ∧ ∀ st ∈ m'.states, ∃ st₀ ∈ m.states, st.T = st₀.T

/-- A PSM keeps its key's tasks when each new entry holds a task an old one held. -/
theorem PSM.Keyed.extend {k : StateKey} {m m' : PSM} (h : m.Keyed k) (hne : m'.states ≠ [])
    (hT : ∀ st ∈ m'.states, ∃ st₀ ∈ m.states, st.T = st₀.T) : m'.Keyed k :=
  ⟨hne, fun st hst =>
    let ⟨st₀, hst₀, hT₀⟩ := hT st hst
    hT₀ ▸ h.2 st₀ hst₀⟩

namespace RepsBeside

variable {ρ : Type} {repKey : ρ → StateKey} {fam : Task → Bool} {reps : GoMap StateKey ρ}
  {psms psms' : GoMap StateKey PSM}

/-- PSMs that keep their tasks keep the records beside them. -/
theorem mono (h : RepsBeside repKey fam reps psms) (hext : PSMsExtend psms psms') :
    RepsBeside repKey fam reps psms' := fun k rep hk =>
  let ⟨hkey, m, hm, hfam⟩ := h k rep hk
  let ⟨m', hm', hT⟩ := hext k m hm
  ⟨hkey, m', hm', fun st hst =>
    let ⟨st₀, hst₀, hT₀⟩ := hT st hst
    hT₀ ▸ hfam st₀ hst₀⟩

/-- A record written under its own key, beside a PSM of its family. -/
theorem insert (h : RepsBeside repKey fam reps psms) {rep : ρ} {m : PSM}
    (hm : psms.lookup (repKey rep) = some m) (hfam : ∀ st ∈ m.states, ∃ t, st.T = some t ∧ fam t) :
    RepsBeside repKey fam (reps.insert (repKey rep) rep) psms := by
  intro k rep' hk
  rw [GoMap.lookup_insert_eq_ite] at hk
  split_ifs at hk with hkey
  · cases hk
    exact ⟨hkey.symm, m, hkey ▸ hm, hfam⟩
  · exact h k rep' hk

end RepsBeside

namespace Store

/-- **The invariant of the store**: its PSMs are keyed by their tasks, and its records sit beside
PSMs of their families. -/
structure WellFormed (s : Store) : Prop where
  psm : ∀ k m, s.psms.lookup k = some m → m.Keyed k
  issueCredReps : RepsBeside IssueCredRep.key Task.isIssueCredential s.issueCredReps s.psms
  presentProofReps : RepsBeside PresentProofRep.key Task.isPresentProof s.presentProofReps s.psms

theorem wellFormed_empty : WellFormed empty := by
  refine ⟨?_, ?_, ?_⟩ <;> intro _ _ h <;> simp [empty] at h

/-- In a well-formed store, every PSM's last state holds a task of the key's nonce. -/
theorem WellFormed.lastState {s : Store} (hw : WellFormed s) {k : StateKey} {m : PSM}
    (hm : s.psms.lookup k = some m) :
    ∃ last t, m.lastState = some last ∧ last.T = some t ∧ t.header.taskID = k.nonce := by
  obtain ⟨hne, htask⟩ := hw.psm k m hm
  obtain ⟨last, hlast⟩ := Option.isSome_iff_exists.mp (List.getLast?_isSome.mpr hne)
  exact ⟨last, (htask last (List.mem_of_getLast?_eq_some hlast)).elim fun t ht => ⟨t, hlast, ht⟩⟩

end Store

/-! ## A write at one key -/

section oneKey

variable {psms psms' : GoMap StateKey PSM} {key : StateKey} {m' : PSM}

/-- PSM tables that differ at one key, whose new PSM keeps the tasks of the old one, if any. -/
theorem psmsExtend_of_lookup
    (hlookup : ∀ k, psms'.lookup k = if k = key then some m' else psms.lookup k)
    (hT : ∀ m, psms.lookup key = some m → ∀ st ∈ m'.states, ∃ st₀ ∈ m.states, st.T = st₀.T) :
    PSMsExtend psms psms' := by
  intro k m hm
  rw [hlookup]
  split_ifs with hk
  · subst hk; exact ⟨m', rfl, hT m hm⟩
  · exact ⟨m, hm, fun st hst => ⟨st, hst, rfl⟩⟩

/-- PSM tables that differ at one key, whose new PSM is keyed, are keyed where the old one is. -/
theorem keyed_of_lookup (hpsm : ∀ k m, psms.lookup k = some m → m.Keyed k)
    (hlookup : ∀ k, psms'.lookup k = if k = key then some m' else psms.lookup k)
    (hkeyed : m'.Keyed key) : ∀ k m, psms'.lookup k = some m → m.Keyed k := by
  intro k m hm
  rw [hlookup] at hm
  split_ifs at hm with hk
  · cases hm; subst hk; exact hkeyed
  · exact hpsm k m hm

end oneKey

/-! ## One write -/

section start

variable {init : Initial} {s s' : Store}

/-- A setup that writes as a starter's leaves the PSMs alone. -/
theorem Initial.SetupWrites.psms (hinit : init.SetupWrites)
    (hsetup : init.setup init.key s = .ok s') : s'.psms = s.psms := by
  rcases hinit s s' hsetup with ⟨-, rep, -, rfl⟩ | ⟨-, rep, -, rfl⟩ <;> rfl

/-- The tables of records after a start on a new key are the ones its setup left. -/
theorem startPSM_reps (send : Except String Unit) (hfresh : init.key ∉ s.psms)
    (hsetup : init.setup init.key s = .ok s') :
    (startPSM send init s).1.issueCredReps = s'.issueCredReps ∧
      (startPSM send init s).1.presentProofReps = s'.presentProofReps := by
  rw [startPSM_fst hfresh hsetup]
  exact ⟨rfl, rfl⟩

/-- **One start keeps the store well formed**, when its setup writes as a starter's does. -/
theorem wellFormed_startPSM {send : Except String Unit} (hw : s.WellFormed)
    (hinit : init.SetupWrites) : (startPSM send init s).1.WellFormed := by
  by_cases hdup : init.key ∈ s.psms
  · rwa [startPSM, if_pos hdup]
  cases hsetup : init.setup init.key s with
  | error e => simpa only [startPSM, if_neg hdup, hsetup] using hw
  | ok s' =>
    have hlookup := startPSM_psms_lookup send hdup hsetup (hinit.psms hsetup)
    have hext := psmsExtend_of_lookup hlookup fun _ hm =>
      absurd (Finmap.mem_of_lookup_eq_some hm) hdup
    have hnew := hlookup init.key
    rw [if_pos rfl] at hnew
    have hentries : ∀ st ∈ [init.entry SubState.sending, init.entry (sentSubState send)],
        st.T = some init.T := by simp [Initial.entry]
    have hpsm := keyed_of_lookup hw.psm hlookup
      ⟨List.cons_ne_nil _ _, fun st hst => ⟨init.T, hentries st hst, rfl⟩⟩
    obtain ⟨hicr, hppr⟩ := startPSM_reps send hdup hsetup
    rcases hinit s s' hsetup with ⟨hfam, rep, hkey, rfl⟩ | ⟨hfam, rep, hkey, rfl⟩
    · refine ⟨hpsm, ?_, hppr ▸ hw.presentProofReps.mono hext⟩
      rw [hicr]
      exact (hw.issueCredReps.mono hext).insert (hkey ▸ hnew)
        fun st hst => ⟨init.T, hentries st hst, hfam⟩
    · refine ⟨hpsm, hicr ▸ hw.issueCredReps.mono hext, ?_⟩
      rw [hppr]
      exact (hw.presentProofReps.mono hext).insert (hkey ▸ hnew)
        fun st hst => ⟨init.T, hentries st hst, hfam⟩

/-- Appending to a PSM an entry that holds the task of its last state keeps the store well
formed. -/
theorem wellFormed_addState_of_last {key : StateKey} {m : PSM} {last st : State}
    (hw : s.WellFormed) (hm : s.psms.lookup key = some m) (hlast : m.lastState = some last)
    (hst : st.T = last.T) : (s.addState key m.role st).WellFormed := by
  have hlookup := Store.addState_lookup m.role st hm
  -- every entry of the updated PSM holds a task one of its old entries held
  have hT : ∀ st' ∈ m.states ++ [st], ∃ st₀ ∈ m.states, st'.T = st₀.T := by
    intro st' hst'
    rcases List.mem_append.mp hst' with hst' | hst'
    · exact ⟨st', hst', rfl⟩
    · rw [List.mem_singleton.mp hst']
      exact ⟨last, List.mem_of_getLast?_eq_some hlast, hst⟩
  have hext := psmsExtend_of_lookup hlookup fun m₀ hm₀ => Option.some.inj (hm.symm.trans hm₀) ▸ hT
  exact ⟨keyed_of_lookup hw.psm hlookup ((hw.psm _ m hm).extend (by simp) hT),
    hw.issueCredReps.mono hext, hw.presentProofReps.mono hext⟩

/-- **A flag update keeps the store well formed**: the entry it appends holds the task of the
last state. -/
theorem wellFormed_addAndSetFlagUpdatePSM {key : StateKey} {flag clear : SubState}
    (hw : s.WellFormed) (h : addAndSetFlagUpdatePSM key flag clear s = .ok s') : s'.WellFormed := by
  obtain ⟨m, last, hm, hlast, rfl⟩ := addAndSetFlagUpdatePSM_ok h
  exact wellFormed_addState_of_last hw hm hlast rfl

end start

/-! ## Runs of the writers -/

/-- A call that writes the store, with everything it meets: a starter's call, with the send's
result, the nonce `generateProofRequest` draws, the offer the CA's wallet makes, the worker DID
and the task; or a flag update. -/
inductive StoreOp where
  | proof (send : Except String Unit) (nonce wdid : String) (t : Task)
  | issue (createOffer : String → Except String String) (send : Except String Unit) (wdid : String)
      (t : Task)
  | updatePSM (key : StateKey) (flag clear : SubState)

/-- The store a call leaves; a flag update that fails leaves it as it was. -/
def StoreOp.apply : StoreOp → Store → Store
  | .proof send nonce wdid t, s => PresentProof.startProofProtocol send nonce wdid t s
  | .issue createOffer send wdid t, s =>
    IssueCredential.startIssueCredentialByPropose createOffer send wdid t s
  | .updatePSM key flag clear, s =>
    match addAndSetFlagUpdatePSM key flag clear s with
    | .ok s' => s'
    | .error _ => s

/-- **What a writer can do**: leave the store as it was, start a PSM whose setup writes one
record of its task's family, or update a flag. -/
theorem StoreOp.apply_cases (op : StoreOp) (s : Store) :
    op.apply s = s ∨ (∃ send init, init.SetupWrites ∧ op.apply s = (startPSM send init s).1) ∨
      ∃ key flag clear, addAndSetFlagUpdatePSM key flag clear s = .ok (op.apply s) := by
  cases op with
  | proof send nonce wdid t =>
    exact (PresentProof.startProofProtocol_cases send nonce wdid t s).imp_right
      fun ⟨init, h⟩ => .inl ⟨send, init, h⟩
  | issue createOffer send wdid t =>
    exact (IssueCredential.startIssueCredentialByPropose_cases createOffer send wdid t s).imp_right
      fun ⟨init, h⟩ => .inl ⟨send, init, h⟩
  | updatePSM key flag clear =>
    simp only [apply]
    split
    · exact .inr (.inr ⟨key, flag, clear, ‹_›⟩)
    · exact .inl rfl

/-- The stores some sequence of writes builds from the empty store. -/
inductive Reach : Store → Prop
  | empty : Reach Store.empty
  | step {s : Store} (op : StoreOp) : Reach s → Reach (op.apply s)

/-- **Every reachable store is well formed.** -/
theorem Reach.wellFormed {s : Store} (h : Reach s) : s.WellFormed := by
  induction h with
  | empty => exact Store.wellFormed_empty
  | step op _ ih =>
    rcases op.apply_cases _ with heq | ⟨send, init, hinit, heq⟩ | ⟨key, flag, clear, heq⟩
    · rwa [heq]
    · rw [heq]; exact wellFormed_startPSM ih hinit
    · exact wellFormed_addAndSetFlagUpdatePSM ih heq

/-! ## What the readers of the store meet -/

variable {s : Store} {wdid : String} {im : Msg}

/-- **The wrong continuator on every run**: on a reachable store, a message on the thread of any
issue-credential protocol makes present proof's `continueProtocol` panic with a runtime error. -/
theorem continueProtocol_of_issueCredRep (h : Reach s) (c : PresentProof.Continuators)
    {rep : IssueCredRep} (hne : im.threadID ≠ "")
    (hrep : s.issueCredReps.lookup ⟨wdid, im.threadID⟩ = some rep) :
    PresentProof.continueProtocol c s wdid im = .error (.runtime .typeAssertion) := by
  have hw := h.wellFormed
  obtain ⟨-, m, hm, hfam⟩ := hw.issueCredReps _ rep hrep
  obtain ⟨last, t, hlast, hT, -⟩ := hw.lastState hm
  refine PresentProof.continueProtocol_other_family c hne (by rw [hm]; exact hlast) ?_
  intro proofTask hpt
  obtain ⟨t', hT', hic⟩ := hfam last (List.mem_of_getLast?_eq_some hlast)
  rw [hpt] at hT'
  cases hT'
  cases hic

/-- **One family per key**: on a reachable store, a key with a present-proof record has no
issue-credential record. -/
theorem issueCredRep_none_of_reach (h : Reach s) {k : StateKey} {rep : PresentProofRep}
    (hrep : s.presentProofReps.lookup k = some rep) : s.issueCredReps.lookup k = none := by
  have hw := h.wellFormed
  obtain ⟨-, m, hm, hpp⟩ := hw.presentProofReps k rep hrep
  cases hic : s.issueCredReps.lookup k with
  | none => rfl
  | some rep' =>
    obtain ⟨-, m', hm', hicf⟩ := hw.issueCredReps k rep' hic
    rw [hm] at hm'
    cases hm'
    -- the PSM has an entry, whose task would be of both families
    obtain ⟨st, hst⟩ := List.exists_mem_of_ne_nil _ (hw.psm k m hm).1
    obtain ⟨t, ht, hpt⟩ := hpp st hst
    obtain ⟨t', ht', hit⟩ := hicf st hst
    rw [ht] at ht'
    cases ht'
    cases t <;> simp [Task.isPresentProof, Task.isIssueCredential] at hpt hit

end FindyAgent
