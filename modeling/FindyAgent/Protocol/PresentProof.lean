import FindyAgent.Engine
import Mathlib.Data.List.Enum

/-!
# Present proof: the proof request, the task, the start, the handlers, and the continuation

The verifier starts a present-proof protocol from a task that lists the attributes and the
predicates it wants proved.  `generateProofRequest` turns the two lists into the maps of an indy
proof request, each item under a key: its own `ID`, or, when that is empty, a referent made of a
prefix and its position counted from one (`attr_referent_1`, `predicate_2`, ...).  A later item
replaces an earlier one under the same key.

* `referentMap_keys_card_iff`: the map of a list has one key per item exactly when the keys are
  pairwise distinct (`ReferentsDistinct`): no two non-empty IDs agree, and no ID is the referent
  generated for an item that has none.  Distinct non-empty IDs alone are not enough:
  `generateProofRequest_generated_clash` names an attribute `attr_referent_1` beside an attribute
  without an ID, and the request keeps one of the two.
* `generateProofRequest_loses_nothing`: under that condition, on both lists, every item is read
  back under its key, with its name, its restriction, its predicate type and value.

`createPresentProofTask` makes the task from a client's request; its deferred annotation, copied
from the issue-credential creator, names that creator.  The verifier's start stores the proof
request `generateProofRequest` makes of the task in the protocol's record.

`handleProtocol` is the handler the family registers for each of its five message types.  It
makes a task of the message's thread and runs the transition of the message's handler on the
engine; the ACK and the NACK end the prover's protocol (`handleProtocol_terminal`), and a
message of another type is refused with nothing written (`handleProtocol_cases`).
`getPresentProofStatus` reads the attributes of the protocol's record.

`continueProtocol` resumes a protocol that waits on a user: it reads the action the PSM at the
message's thread waits for through an unchecked type assertion on its last task, and it has no
deferred recovery.  When that task is of another family, `continueProtocol` panics with a runtime
error whatever the continuations would do (`continueProtocol_other_family`).
-/

set_option autoImplicit false

namespace FindyAgent

namespace PresentProof

/-! ## The proof request -/

/-- The key of the item at position `index`: its own ID, or the prefix and the position counted
from one. -/
def referentID (pfx id : String) (index : ℕ) : String :=
  if id ≠ "" then id else pfx ++ itoa (index + 1)

/-- One loop of `generateProofRequest`: each item is written under its key, in order. -/
def referentMap {α β : Type} (pfx : String) (id : α → String) (info : α → β) (l : List α) :
    GoMap String β :=
  l.enum.foldl (fun m p => m.insert (referentID pfx (id p.2) p.1) (info p.2)) ∅

/-- The requested attribute of a proof attribute: its name, restricted to its credential
definition when it names one. -/
def attrInfo (attr : ProofAttribute) : AttrInfo :=
  ⟨attr.name, if attr.credDefID ≠ "" then [⟨attr.credDefID⟩] else []⟩

/-- The requested predicate of a proof predicate. -/
def predicateInfo (predicate : ProofPredicate) : PredicateInfo :=
  ⟨predicate.name, predicate.pType, predicate.pValue⟩

/-- `generateProofRequest(proofTask)`; `nonce` is what `utils.NewNonceStr()` draws.  The guard
on a nil predicate list is left out: a nil list and an empty one give the same empty map. -/
def generateProofRequest (proofTask : TaskPresentProof) (nonce : String) : ProofRequest where
  name := "ProofReq"
  version := "0.1"
  nonce := nonce
  requestedAttributes :=
    referentMap "attr_referent_" ProofAttribute.ID attrInfo proofTask.proofAttrs
  requestedPredicates :=
    referentMap "predicate_" ProofPredicate.ID predicateInfo proofTask.proofPredicates

/-- The keys of the items with IDs `ids` are pairwise distinct: no two non-empty IDs agree, and
no ID is the referent generated for an item without one. -/
def ReferentsDistinct (pfx : String) (ids : List String) : Prop :=
  ∀ i (hi : i < ids.length) j (hj : j < ids.length), i ≠ j →
    (ids[i] ≠ "" → ids[i] ≠ ids[j]) ∧ (ids[i] = "" → ids[j] ≠ pfx ++ itoa (i + 1))

instance (pfx : String) (ids : List String) : Decidable (ReferentsDistinct pfx ids) :=
  inferInstanceAs (Decidable (∀ i (hi : i < ids.length) j (hj : j < ids.length), i ≠ j →
    (ids[i] ≠ "" → ids[i] ≠ ids[j]) ∧ (ids[i] = "" → ids[j] ≠ pfx ++ itoa (i + 1))))

section referents

variable {α β : Type} (pfx : String) (id : α → String) (info : α → β)

/-- The keys of the loop, position by position. -/
def referentKeys (l : List α) : List String := l.enum.map fun p => referentID pfx (id p.2) p.1

/-- Two positions that get one key: either both IDs are empty and the positions agree, or the
key is an ID, found at both positions or generated for the other one. -/
theorem referentID_eq_referentID {a b : String} {i j : ℕ}
    (h : referentID pfx a i = referentID pfx b j) :
    (a = "" ∧ b = "" ∧ i = j) ∨ (a ≠ "" ∧ b ≠ "" ∧ a = b) ∨
      (a = "" ∧ b ≠ "" ∧ b = pfx ++ itoa (i + 1)) ∨ (a ≠ "" ∧ b = "" ∧ a = pfx ++ itoa (j + 1)) := by
  unfold referentID at h
  by_cases ha : a = "" <;> by_cases hb : b = "" <;> simp only [ha, hb, ne_eq, not_true_eq_false,
    not_false_eq_true, if_true, if_false] at h
  · exact .inl ⟨ha, hb, by have := itoa_injective (append_cancel_left h); omega⟩
  · exact .inr (.inr (.inl ⟨ha, hb, h.symm⟩))
  · exact .inr (.inr (.inr ⟨ha, hb, h⟩))
  · exact .inr (.inl ⟨ha, hb, h⟩)

/-- The keys are pairwise distinct exactly when `ReferentsDistinct` holds of the IDs. -/
theorem referentKeys_nodup_iff (l : List α) :
    (referentKeys pfx id l).Nodup ↔ ReferentsDistinct pfx (l.map id) := by
  have hen : l.enum.Nodup :=
    List.Nodup.of_map Prod.fst (by rw [List.enum_map_fst]; exact List.nodup_range _)
  rw [referentKeys, List.nodup_map_iff_inj_on hen]
  simp only [List.forall_mem_enum, Prod.mk.injEq]
  constructor
  · intro hinj i hi j hj hij
    simp only [List.length_map] at hi hj
    simp only [List.getElem_map]
    have hk : referentID pfx (id l[i]) i ≠ referentID pfx (id l[j]) j :=
      fun h => hij (hinj i hi j hj h).1
    exact ⟨fun ha hab => hk (by simp [referentID, ha, ← hab]),
      fun ha hb => hk (by simp [referentID, ha, hb, append_itoa_ne_empty])⟩
  · intro hd i hi j hj h
    by_cases hij : i = j
    · subst hij; exact ⟨rfl, rfl⟩
    have hd_ij := hd i (by simpa using hi) j (by simpa using hj) hij
    have hd_ji := hd j (by simpa using hj) i (by simpa using hi) (Ne.symm hij)
    simp only [List.getElem_map] at hd_ij hd_ji
    rcases referentID_eq_referentID pfx h with ⟨-, -, h⟩ | ⟨ha, -, h⟩ | ⟨ha, -, h⟩ | ⟨-, hb, h⟩
    · exact absurd h hij
    · exact absurd h (hd_ij.1 ha)
    · exact absurd h (hd_ij.2 ha)
    · exact absurd h (hd_ji.2 hb)

/-- The map of a list is the list of its entries written in turn. -/
theorem referentMap_eq (l : List α) :
    referentMap pfx id info l =
      ((l.enum.map fun p => (referentID pfx (id p.2) p.1, info p.2)).foldl
        (fun m e => m.insert e.1 e.2) ∅) := by
  rw [referentMap, List.foldl_map]

theorem referentMap_keys (l : List α) :
    (referentMap pfx id info l).keys = (referentKeys pfx id l).toFinset := by
  rw [referentMap_eq, GoMap.keys_foldl_insert, Finmap.keys_empty, Finset.union_empty,
    List.map_map]
  rfl

/-- **The map has one key per item exactly when the keys are distinct.** -/
theorem referentMap_keys_card_iff (l : List α) :
    (referentMap pfx id info l).keys.card = l.length ↔ ReferentsDistinct pfx (l.map id) := by
  rw [referentMap_keys, ← referentKeys_nodup_iff,
    show l.length = (referentKeys pfx id l).length by simp [referentKeys]]
  constructor
  · intro h
    rw [List.card_toFinset] at h
    exact (List.dedup_sublist _).eq_of_length h ▸ List.nodup_dedup _
  · exact List.toFinset_card_of_nodup

/-- With distinct keys, every item is read back under its own key. -/
theorem referentMap_lookup {l : List α} (hd : ReferentsDistinct pfx (l.map id)) (i : ℕ)
    (hi : i < l.length) :
    (referentMap pfx id info l).lookup (referentID pfx (id l[i]) i) = some (info l[i]) := by
  rw [referentMap_eq]
  refine GoMap.lookup_foldl_insert_of_mem (e := (referentID pfx (id l[i]) i, info l[i])) ?_ ?_ ∅
  · rw [List.map_map]
    exact (referentKeys_nodup_iff pfx id l).mpr hd
  · exact List.mem_map.mpr ⟨(i, l[i]), List.mem_enum_iff_getElem?.mpr (by simp [hi]), rfl⟩

end referents

/-- **Nothing is lost** when the keys of each list are distinct: the request has one attribute
per proof attribute and one predicate per proof predicate, each under its key and carrying what
the task gave it. -/
theorem generateProofRequest_loses_nothing (proofTask : TaskPresentProof) (nonce : String)
    (hattrs : ReferentsDistinct "attr_referent_" (proofTask.proofAttrs.map ProofAttribute.ID))
    (hpreds : ReferentsDistinct "predicate_" (proofTask.proofPredicates.map ProofPredicate.ID)) :
    ((generateProofRequest proofTask nonce).requestedAttributes.keys.card =
        proofTask.proofAttrs.length ∧
      ∀ i (hi : i < proofTask.proofAttrs.length),
        (generateProofRequest proofTask nonce).requestedAttributes.lookup
            (referentID "attr_referent_" proofTask.proofAttrs[i].ID i) =
          some ⟨proofTask.proofAttrs[i].name, if proofTask.proofAttrs[i].credDefID ≠ "" then
            [⟨proofTask.proofAttrs[i].credDefID⟩] else []⟩) ∧
    ((generateProofRequest proofTask nonce).requestedPredicates.keys.card =
        proofTask.proofPredicates.length ∧
      ∀ i (hi : i < proofTask.proofPredicates.length),
        (generateProofRequest proofTask nonce).requestedPredicates.lookup
            (referentID "predicate_" proofTask.proofPredicates[i].ID i) =
          some ⟨proofTask.proofPredicates[i].name, proofTask.proofPredicates[i].pType,
            proofTask.proofPredicates[i].pValue⟩) :=
  ⟨⟨(referentMap_keys_card_iff _ _ attrInfo _).mpr hattrs, referentMap_lookup _ _ attrInfo hattrs⟩,
    ⟨(referentMap_keys_card_iff _ _ predicateInfo _).mpr hpreds,
      referentMap_lookup _ _ predicateInfo hpreds⟩⟩

/-- The header of the tasks below. -/
def verifierHeader : TaskHeader := ⟨"nonce-1", .caProofRequest, "conn-1", .nothing⟩

/-- An attribute without an ID and restricted to a credential definition, one with its own ID,
and a predicate without an ID: all three are requested. -/
theorem generateProofRequest_loses_nothing_mixed :
    ReferentsDistinct "attr_referent_" ["", "age_ref"] ∧ ReferentsDistinct "predicate_" [""] ∧
      (generateProofRequest ⟨verifierHeader, "", [⟨"", "email", "cd:1", ""⟩, ⟨"age_ref", "age", "", ""⟩],
        [⟨"", "age", ">=", 18⟩], .acceptRequest⟩ "n").requestedAttributes.keys.card = 2 ∧
      (generateProofRequest ⟨verifierHeader, "", [⟨"", "email", "cd:1", ""⟩, ⟨"age_ref", "age", "", ""⟩],
        [⟨"", "age", ">=", 18⟩], .acceptRequest⟩ "n").requestedPredicates.keys.card = 1 :=
  have h := generateProofRequest_loses_nothing ⟨verifierHeader, "",
    [⟨"", "email", "cd:1", ""⟩, ⟨"age_ref", "age", "", ""⟩], [⟨"", "age", ">=", 18⟩], .acceptRequest⟩
    "n" (by decide) (by decide)
  ⟨by decide, by decide, h.1.1, h.2.1⟩

/-- An attribute without an ID and an attribute whose ID is `attr_referent_1`: the non-empty IDs
are distinct, and still the request keeps one attribute of the two. -/
theorem generateProofRequest_generated_clash :
    (∀ i (hi : i < 2) j (hj : j < 2), i ≠ j →
        ["", "attr_referent_1"][i] ≠ "" → ["", "attr_referent_1"][i] ≠ ["", "attr_referent_1"][j]) ∧
      (generateProofRequest ⟨verifierHeader, "", [⟨"", "email", "", ""⟩,
        ⟨"attr_referent_1", "name", "", ""⟩], [], .acceptRequest⟩ "n").requestedAttributes.keys.card =
        1 := by
  decide

/-! ## Creating the task -/

/-- What `dto.FromJSONStr` decodes for `createPresentProofTask`; a decoding error makes it panic
with the error. -/
structure ProofDecoders where
  proofAttrs : String → Except String (List ProofAttribute)
  proofPredicates : String → Except String (List ProofPredicate)

/-- `createPresentProofTask(header, protocol)`.  Its `defer err2.Annotate` names the
issue-credential creator.  The task waits for the zero `ActionType`, taken to be
`AcceptRequest`, the first of its constants; package `task` is not among the sources. -/
def createPresentProofTask (dec : ProofDecoders) (header : TaskHeader) (protocol : ProtocolMsg) :
    Go (Except String TaskPresentProof) :=
  Go.annotate "createIssueCredentialTask" <|
    match protocol.presentProof with
    | none => .error (.error "present proof data missing")
    | some proof =>
      (Go.assertP (protocol.role == Protocol.INITIATOR || protocol.role == Protocol.ADDRESSEE)
        "role is needed for proof protocol").bind fun () =>
      (if proof.getAttributesJSON ≠ "" then Go.tryTo (dec.proofAttrs proof.getAttributesJSON)
        else match proof.getAttributes with
          | none => .error (.error "present proof attributes data missing")
          | some l => .ok (l.map fun a => ⟨a.ID, a.name, a.credDefID, ""⟩)).bind fun proofAttrs =>
      (if proof.getPredicatesJSON ≠ "" then Go.tryTo (dec.proofPredicates proof.getPredicatesJSON)
        else .ok ((proof.getPredicates.map fun l =>
          l.map fun p => (⟨p.ID, p.name, p.pType, p.pValue⟩ : ProofPredicate)).getD [])).map
        fun proofPredicates => .ok ⟨header, "", proofAttrs, proofPredicates, .acceptRequest⟩

/-! ## Starting -/

/-- `startProofProtocol(ca, t)`: the prover starts by proposing, the verifier by requesting.
`send` is how the first send goes, `nonce` what `generateProofRequest` draws, and `wdid` the
worker DID of `ca`.  The deferred `err2.CatchTrace` stops every panic, the failed assertion on a
task of another family and a failed `StartPSM` among them, so the call always returns, leaving
what `StartPSM` wrote. -/
def startProofProtocol (send : Except String Unit) (nonce wdid : String) (t : Task) (s : Store) :
    Store :=
  match t with
  | .presentProof proofTask =>
    match t.header.typeID with
    | .caProofPropose =>
      (startPSM send ⟨.presentProofPropose, .presentProofRequest, wdid, t, fun key s =>
        .ok (s.addPresentProofRep ⟨key, proofTask.comment, true, none, []⟩)⟩ s).1
    | .caProofRequest =>
      (startPSM send ⟨.presentProofRequest, .presentProofPresentation, wdid, t, fun key s =>
        .ok (s.addPresentProofRep
          ⟨key, proofTask.comment, false, some (generateProofRequest proofTask nonce), []⟩)⟩ s).1
    | _ => s
  | _ => s

/-- **What the starter does to the store**: nothing, or a start whose setup writes one
present-proof record under the protocol's key. -/
theorem startProofProtocol_cases (send : Except String Unit) (nonce wdid : String) (t : Task)
    (s : Store) :
    startProofProtocol send nonce wdid t s = s ∨
      ∃ init : Initial, init.SetupWrites ∧
        startProofProtocol send nonce wdid t s = (startPSM send init s).1 := by
  unfold startProofProtocol
  split
  · split
    · refine .inr ⟨_, ?_, rfl⟩
      exact fun _ _ h => .inr ⟨rfl, _, rfl, (Except.ok.inj h).symm⟩
    · refine .inr ⟨_, ?_, rfl⟩
      exact fun _ _ h => .inr ⟨rfl, _, rfl, (Except.ok.inj h).symm⟩
    · exact .inl rfl
  · exact .inl rfl

/-! ## Handling an inbound message -/

/-- The handlers `handleProtocol` hands a message to that are not among the sources,
`verifier.HandleProposePresentation`, `prover.HandleRequestPresentation` and
`verifier.HandlePresentation`, each as the transition it runs with `prot.ExecPSM`, on the packet
it is handed. -/
structure Handlers where
  handleProposePresentation : Packet → Option TaskPresentProof → Transition
  handleRequestPresentation : Packet → Option TaskPresentProof → Transition
  handlePresentation : Packet → Option TaskPresentProof → Transition
  propose_packet : ∀ p t, (handleProposePresentation p t).packet = p
  request_packet : ∀ p t, (handleRequestPresentation p t).packet = p
  presentation_packet : ∀ p t, (handlePresentation p t).packet = p

/-- The task `handleProtocol` makes of a packet: nil on an empty thread, otherwise a present-proof
task whose ID is the thread ID and whose type is the payload's, every other field zero. -/
def proofTaskOf (packet : Packet) : Option TaskPresentProof :=
  if packet.threadID ≠ "" then
    some ⟨⟨packet.threadID, packet.payloadType, "", .nothing⟩, "", [], [], .acceptRequest⟩
  else none

/-- The transition `handleProofACK(packet, proofTask)` runs with `prot.ExecPSM`, the prover's end
of the protocol: nothing is sent next, and `InOut` returns the ACK. -/
def handleProofACK (packet : Packet) (proofTask : Option TaskPresentProof) : Transition :=
  .terminal packet (proofTask.map .presentProof) true

/-- The transition `handleProofNACK(packet, proofTask)` runs with `prot.ExecPSM`: as
`handleProofACK`, with the NACK. -/
def handleProofNACK (packet : Packet) (proofTask : Option TaskPresentProof) : Transition :=
  .terminal packet (proofTask.map .presentProof) false

/-- `handleProtocol(packet)`, the handler the family registers for each of its message types:
the transition of the message's handler, run by the engine (`send` and `userAction` are what
the engine meets); a message of another type is refused and nothing is written. -/
def handleProtocol (h : Handlers) (send : Except String Unit) (userAction : Bool) (packet : Packet)
    (s : Store) : Store × Except String Unit :=
  let proofTask := proofTaskOf packet
  match packet.protocolMsg with
  | .presentProofPropose => execPSM send userAction (h.handleProposePresentation packet proofTask) s
  | .presentProofRequest => execPSM send userAction (h.handleRequestPresentation packet proofTask) s
  | .presentProofPresentation => execPSM send userAction (h.handlePresentation packet proofTask) s
  | .presentProofACK => execPSM send userAction (handleProofACK packet proofTask) s
  | .presentProofNACK => execPSM send userAction (handleProofNACK packet proofTask) s
  | _ => (s, .error "no present proof handler")

/-- **What the handler does**, whatever the store: refuse the message, writing nothing, or run
the engine on a transition of the packet it was handed. -/
theorem handleProtocol_cases (h : Handlers) (send : Except String Unit) (userAction : Bool)
    (packet : Packet) :
    (∀ s, handleProtocol h send userAction packet s = (s, .error "no present proof handler")) ∨
      ∃ tr : Transition, tr.packet = packet ∧
        ∀ s, handleProtocol h send userAction packet s = execPSM send userAction tr s := by
  unfold handleProtocol
  split
  · exact .inr ⟨_, h.propose_packet _ _, fun _ => rfl⟩
  · exact .inr ⟨_, h.request_packet _ _, fun _ => rfl⟩
  · exact .inr ⟨_, h.presentation_packet _ _, fun _ => rfl⟩
  · exact .inr ⟨_, rfl, fun _ => rfl⟩
  · exact .inr ⟨_, rfl, fun _ => rfl⟩
  · exact .inl fun _ => rfl

/-- An ACK or a NACK is run as the terminal transition of its ACK bit. -/
theorem handleProtocol_terminal (h : Handlers) (send : Except String Unit) (userAction : Bool)
    {packet : Packet} (hmsg : packet.protocolMsg = .presentProofACK ∨
      packet.protocolMsg = .presentProofNACK) (s : Store) :
    handleProtocol h send userAction packet s = execPSM send userAction
      (.terminal packet ((proofTaskOf packet).map .presentProof)
        (packet.protocolMsg = .presentProofACK)) s := by
  rcases hmsg with hmsg | hmsg <;> simp [handleProtocol, hmsg, handleProofACK, handleProofNACK]

/-! ## The status -/

/-- `psm.GetPresentProofRep(key)`: the record, nil when there is none. -/
def getPresentProofRep (s : Store) (key : StateKey) : Except String (Option PresentProofRep) :=
  .ok (s.presentProofReps.lookup key)

/-- `statusPresentProof`. -/
structure StatusPresentProof where
  attributes : List ProofAttribute
  deriving DecidableEq, Repr

/-- `getPresentProofStatus(workerDID, taskID)`, the status the family registers; `none` is the
nil interface.  A failed read of the record panics into the deferred `err2.CatchTrace`, and the
result, not named, is then nil. -/
def getPresentProofStatus (s : Store) (workerDID taskID : String) :
    Go (Option StatusPresentProof) :=
  Go.catchTrace none <|
    (Go.tryTo (getPresentProofRep s ⟨workerDID, taskID⟩)).bind fun proofRep =>
      .ok (proofRep.map fun rep => ⟨rep.attributes⟩)

/-! ## Continuing -/

/-- The continuations `continueProtocol` hands the message to, as calls that return or panic:
`verifier.ContinueProposePresentation`, `verifier.ContinueHandlePresentation` and
`prover.UserActionProofPresentation`, which are not among the sources. -/
structure Continuators where
  continueProposePresentation : Msg → Go Unit
  continueHandlePresentation : Msg → Go Unit
  userActionProofPresentation : Msg → Go Unit

/-- The first half of `continueProtocol`: the action the PSM at the message's thread waits for,
`state.LastState().T.(*task.TaskPresentProof).ActionType`.  An empty thread, or no PSM, leaves
the default `AcceptRequest` (an error of `psm.GetPSM` is ignored, leaving no PSM).  A PSM with no
state is a nil dereference, and a last task of another family, or none, a failed type
assertion.  A `Task` is never a nil pointer of the right type, so the `assert.D` after the
assertion always holds. -/
def actionTypeOf (s : Store) (wdid : String) (im : Msg) : Go ActionType :=
  if im.threadID ≠ "" then
    match s.getPSM ⟨wdid, im.threadID⟩ with
    | .ok (some state) =>
      match state.lastState with
      | none => .error (.runtime .nilDereference)
      | some last =>
        match last.T with
        | some (.presentProof proofTask) => .ok proofTask.actionType
        | _ => .error (.runtime .typeAssertion)
    | _ => .ok .acceptRequest
  else .ok .acceptRequest

/-- `continueProtocol(ca, im)`, for the CA with worker DID `wdid`.  Nothing recovers a panic. -/
def continueProtocol (c : Continuators) (s : Store) (wdid : String) (im : Msg) : Go Unit :=
  (actionTypeOf s wdid im).bind fun actionType =>
    match actionType with
    | .acceptPropose => c.continueProposePresentation im
    | .acceptValues => c.continueHandlePresentation im
    | .acceptRequest => c.userActionProofPresentation im

variable {s : Store} {wdid : String} {im : Msg}

/-- **An unchecked type assertion**: a message for a protocol whose last task is of another
family makes `continueProtocol` panic with a runtime error, whatever the continuations do. -/
theorem continueProtocol_other_family (c : Continuators) {last : State}
    (hne : im.threadID ≠ "")
    (hlast : (s.psms.lookup ⟨wdid, im.threadID⟩).bind PSM.lastState = some last)
    (hT : ∀ proofTask, last.T ≠ some (.presentProof proofTask)) :
    continueProtocol c s wdid im = .error (.runtime .typeAssertion) := by
  obtain ⟨state, hs, hl⟩ := Option.bind_eq_some.mp hlast
  have h : actionTypeOf s wdid im = .error (.runtime .typeAssertion) := by
    simp only [actionTypeOf, hne, ne_eq, not_false_eq_true, if_true, Store.getPSM, hs, hl]
  simp [continueProtocol, h, Except.bind]

end PresentProof

end FindyAgent
