import SuiTemporaryStore.ExpensiveConservation
import SuiTemporaryStore.LoadedChildren
import SuiTemporaryStore.RebateAccounting
import SuiTemporaryStore.Resolvers

/-!
# A transaction's execution on the store, and the pre-image rebates

The Move runtime can run more than once in a transaction, and each time the `Storage`
trait's `record_execution_results` merges what it did into the accumulator. A transaction's
execution on the store is then a sequence of the store's own calls, the VM's package
lookups and these merges.

A call records a pre-image in one of four ways (`TxCall.apply_preImage`): a mutable
input's reference, the old version of a child object it loads at the same time, the
backing store's version of a system package it upgrades, or whatever a merged result
brings for an id without one. Two invariants of whole executions follow.

`get_input_storage_rebate` panics when a recorded pre-image is neither an input, nor a
loaded child object, nor in the backing store at its version. When each merged result
names only pre-images the store can already resolve, every state keeps all pre-image
rebates defined, so neither `collect_storage_and_rebate` nor `get_modified_objects`, which
both conservation checks walk, ever reaches the panic.

`get_input_sui` reports an invariant violation when the pre-image of an input is not at
the input's version. When no two inputs share an id and the calls that bring pre-images
of their own bring inputs at their versions, no pre-image of an input ever strays from
the input's version, and the expensive check reads each input's SUI as the layout
resolver does.
-/
namespace SuiTemporaryStore

/-- Modelled from the spec: the `ExecutionResults` a run of the Move runtime hands back.
The store reads only the
`V2` form, and nothing of a `V1` result. -/
inductive ExecutionResults
  | v1
  | v2 (results : ExecutionResultsV2)

/-- The backing store serves the latest version of each of its objects also by key, as
`get_object_by_key` and `get_object` of one store do. -/
def BackingStore.ServesLatestByKey (store : BackingStore) : Prop :=
  ∀ id o, store.getObject id = some o → store.getObjectByKey id o.version = some o

namespace TemporaryStore

/-- `record_execution_results` of the `Storage` trait: merge, never override. -/
def recordExecutionResults (s : TemporaryStore) :
    ExecutionResults → Except Failure TemporaryStore
  | .v2 results => .ok { s with executionResults := s.executionResults.mergeResults results }
  | .v1 => .error (.panic "ExecutionResults::V2 expected in sui-execution v1 and above")

/-- A call on the store while a transaction executes: a call of the store or a package
lookup of the VM, or the merge of one run of the Move runtime. -/
inductive TxCall (σ : Type)
  | call (c : Call σ)
  | recordExecutionResults (results : ExecutionResults)

variable (objectSizeForGasMetering : Object → Nat) {σ : Type}

def TxCall.apply : TxCall σ → TemporaryStore → Except Failure TemporaryStore
  | .call c, s => c.apply objectSizeForGasMetering s
  | .recordExecutionResults results, s => s.recordExecutionResults results

/-- The calls in order, up to the first panic. -/
def runTx (s : TemporaryStore) (calls : List (TxCall σ)) : Except Failure TemporaryStore :=
  runWith (TxCall.apply objectSizeForGasMetering) s calls

/-- Every call of the run satisfies `P` in the state it is made in. -/
def TxRunSatisfies (P : TemporaryStore → TxCall σ → Prop) :
    TemporaryStore → List (TxCall σ) → Prop :=
  SatisfiesAlong (TxCall.apply objectSizeForGasMetering) P

/-! ## What one call does to the pre-images -/

theorem lookup_insert_mutable {M mutableRefs : ObjMap VersionDigest} {id₀ id : ObjectID}
    {ref₀ ref : VersionDigest} (href : mutableRefs.lookup id₀ = some ref₀)
    (hl : (M.insert id₀ ref₀).lookup id = some ref) :
    M.lookup id = some ref ∨ mutableRefs.lookup id = some ref := by
  rcases ObjMap.lookup_insert_eq_some hl with ⟨rfl, rfl⟩ | hl
  exacts [.inr href, .inl hl]

theorem Op.apply_preImage {s s' : TemporaryStore} {op : Op σ}
    (hs : op.apply objectSizeForGasMetering s = .ok s') :
    (∀ id ∈ s.loadedChildObjects, id ∈ s'.loadedChildObjects) ∧
    ∀ id ref, s'.executionResults.objectsModifiedAt.lookup id = some ref →
      s.executionResults.objectsModifiedAt.lookup id = some ref ∨
      s.mutableInputRefs.lookup id = some ref ∨
      (∃ oldObject newObject, op = .mutateChildObject oldObject newObject ∧
        id = newObject.id ∧ ref = (oldObject.version, oldObject.digest) ∧
        id ∈ s'.loadedChildObjects) ∨
      (∃ package oldObj, op = .upgradeSystemPackage package ∧ id = package.id ∧
        s.store.getObject id = some oldObj ∧ ref = (oldObj.version, oldObj.digest)) := by
  cases op with
  | createObject o => cases hs; exact ⟨fun _ h => h, fun _ _ hl => .inl hl⟩
  | deleteInputObject id₀ =>
    obtain ⟨_, href, rfl⟩ := deleteInputObject_ok hs
    exact ⟨fun _ h => h, fun _ _ hl => (lookup_insert_mutable href hl).imp_right .inl⟩
  | mutateInputObject o =>
    obtain ⟨_, href, rfl⟩ := mutateInputObject_ok hs
    exact ⟨fun _ h => h, fun _ _ hl => (lookup_insert_mutable href hl).imp_right .inl⟩
  | mutateChildObject oldObject newObject =>
    cases hs
    refine ⟨fun _ h => (AList.mem_insert _).mpr (.inr h), fun id ref hl => ?_⟩
    rcases ObjMap.lookup_insert_eq_some hl with ⟨rfl, rfl⟩ | hl
    exacts [.inr (.inr (.inl ⟨oldObject, newObject, rfl, rfl, rfl,
      (AList.mem_insert _).mpr (.inl rfl)⟩)), .inl hl]
  | upgradeSystemPackage package =>
    obtain ⟨oldObj, hget, rfl⟩ := upgradeSystemPackage_ok hs
    refine ⟨fun _ h => h, fun id ref hl => ?_⟩
    rcases ObjMap.lookup_insert_eq_some hl with ⟨rfl, rfl⟩ | hl
    exacts [.inr (.inr (.inr ⟨package, oldObj, rfl, rfl, hget, rfl⟩)), .inl hl]
  | dropWrites => cases hs; exact ⟨fun _ h => h, fun _ _ hl => by cases hl⟩
  | ensureActiveInputsMutated =>
    obtain ⟨r, hr, -, -, hlk⟩ := ensureActiveInputsMutated_eq s
    rw [Op.apply, hr, Except.ok.injEq] at hs
    subst hs
    refine ⟨fun _ h => h, fun id ref hl => ?_⟩
    by_cases hforced : id ∈ s.mutableInputRefs ∧ id ∉ s.executionResults.objectsModifiedAt
    · exact .inr (.inl (((hlk id).1 hforced).1.symm.trans hl))
    · exact .inl (((hlk id).2 hforced).1.symm.trans hl)
  | conserveUnmeteredStorageRebate amount =>
    rcases conserveUnmeteredStorageRebate_ok hs with rfl | ⟨-, _, -, -, hm⟩
    · exact ⟨fun _ h => h, fun _ _ hl => .inl hl⟩
    obtain ⟨_, href, rfl⟩ := mutateInputObject_ok hm
    exact ⟨fun _ h => h, fun _ _ hl => (lookup_insert_mutable href hl).imp_right .inl⟩
  | saveLoadedChildObjects m =>
    cases hs
    refine ⟨fun id hid => ?_, fun _ _ hl => .inl hl⟩
    show id ∈ extend s.loadedChildObjects m
    rw [← AList.lookup_isSome, lookup_extend, Option.isSome_or, AList.lookup_isSome.mpr hid,
      Bool.or_true]
  | collectStorageAndRebate charger g =>
    cases hc : s.collectStorageAndRebate objectSizeForGasMetering charger g with
    | error e => rw [Op.apply, hc] at hs; cases hs
    | ok p =>
      rw [Op.apply, hc] at hs
      cases hs
      obtain ⟨_, hp⟩ := collectStorageAndRebate_ok objectSizeForGasMetering charger hc
      rw [hp]
      exact ⟨fun _ h => h, fun _ _ hl => .inl hl⟩

/-- What one call of a transaction does to the pre-images and to what resolves them: the
inputs, the backing store and the mutable references stay, no loaded child object is
forgotten, and each pre-image after the call is an old one, a mutable input's reference,
the old version of a child object the call loads, the backing store's version of a system
package it upgrades, or, for an id that had none, the one a merged result brings. -/
theorem TxCall.apply_preImage {s s' : TemporaryStore} {call : TxCall σ}
    (hs : call.apply objectSizeForGasMetering s = .ok s') :
    s'.inputObjects = s.inputObjects ∧ s'.store = s.store ∧
    s'.mutableInputRefs = s.mutableInputRefs ∧
    (∀ id ∈ s.loadedChildObjects, id ∈ s'.loadedChildObjects) ∧
    ∀ id ref, s'.executionResults.objectsModifiedAt.lookup id = some ref →
      s.executionResults.objectsModifiedAt.lookup id = some ref ∨
      s.mutableInputRefs.lookup id = some ref ∨
      (∃ oldObject newObject, call = .call (.op (.mutateChildObject oldObject newObject)) ∧
        id = newObject.id ∧ ref = (oldObject.version, oldObject.digest) ∧
        id ∈ s'.loadedChildObjects) ∨
      (∃ package oldObj, call = .call (.op (.upgradeSystemPackage package)) ∧
        id = package.id ∧ s.store.getObject id = some oldObj ∧
        ref = (oldObj.version, oldObj.digest)) ∨
      (∃ results, call = .recordExecutionResults (.v2 results) ∧
        id ∉ s.executionResults.objectsModifiedAt ∧
        results.objectsModifiedAt.lookup id = some ref) := by
  cases call with
  | call c =>
    cases c with
    | op o =>
      obtain ⟨hl, hM⟩ := Op.apply_preImage objectSizeForGasMetering hs
      obtain ⟨r, l, rfl⟩ := Op.apply_frame objectSizeForGasMetering hs
      refine ⟨rfl, rfl, rfl, hl, fun id ref hlk => ?_⟩
      rcases hM id ref hlk with hold | hmut | ⟨o, n, rfl, hchild⟩ | ⟨p, o, rfl, hupgrade⟩
      exacts [.inl hold, .inr (.inl hmut), .inr (.inr (.inl ⟨o, n, rfl, hchild⟩)),
        .inr (.inr (.inr (.inl ⟨p, o, rfl, hupgrade⟩)))]
    | getPackageObject packageId =>
      cases hs
      obtain ⟨_, he⟩ := getPackageObject_frame s packageId
      rw [he]
      exact ⟨rfl, rfl, rfl, fun _ h => h, fun _ _ hl => .inl hl⟩
  | recordExecutionResults results =>
    cases results with
    | v1 => cases hs
    | v2 results =>
      cases hs
      refine ⟨rfl, rfl, rfl, fun _ h => h, fun id ref hl => ?_⟩
      rcases AList.lookup_union_eq_some.mp hl with hold | ⟨hnot, hnew⟩
      exacts [.inl hold, .inr (.inr (.inr (.inr ⟨results, rfl, hnot, hnew⟩)))]

theorem TxCall.apply_frame {s s' : TemporaryStore} {call : TxCall σ}
    (hs : call.apply objectSizeForGasMetering s = .ok s') :
    ∃ r l p, s' = { s with
      executionResults := r, loadedChildObjects := l, runtimePackagesLoadedFromDb := p } := by
  cases call with
  | call c =>
    cases c with
    | op o =>
      obtain ⟨r, l, rfl⟩ := Op.apply_frame objectSizeForGasMetering hs
      exact ⟨r, l, _, rfl⟩
    | getPackageObject packageId =>
      cases hs
      obtain ⟨p, he⟩ := getPackageObject_frame s packageId
      exact ⟨_, _, p, he⟩
  | recordExecutionResults results =>
    cases results with
    | v1 => cases hs
    | v2 results => cases hs; exact ⟨_, _, _, rfl⟩

/-! ## Pre-image rebates -/

/-- A merged result names, for each id the store has no pre-image of yet, a pre-image
whose rebate the store can look up. The store's own calls need nothing. -/
def TxCall.ResolvesPreImages (s : TemporaryStore) : TxCall σ → Prop
  | .recordExecutionResults (.v2 results) => ∀ id ref,
      results.objectsModifiedAt.lookup id = some ref →
      id ∉ s.executionResults.objectsModifiedAt →
      ∃ r, s.getInputStorageRebate id ref.1 = .ok r
  | _ => True

/-- The spec of `get_input_storage_rebate`: it returns exactly when the id is an input, a
loaded child object, or in the backing store at the expected version. -/
theorem getInputStorageRebate_ok_iff (s : TemporaryStore) (id : ObjectID)
    (v : SequenceNumber) :
    (∃ r, s.getInputStorageRebate id v = .ok r) ↔
      id ∈ s.inputObjects ∨ id ∈ s.loadedChildObjects ∨ (s.store.getObjectByKey id v).isSome := by
  unfold getInputStorageRebate
  simp only [← AList.lookup_isSome]
  cases s.inputObjects.lookup id with
  | some _ => simp
  | none =>
    cases s.loadedChildObjects.lookup id with
    | some _ => simp
    | none => cases s.store.getObjectByKey id v <;> simp

theorem getInputStorageRebate_ok_mono {s s' : TemporaryStore}
    (hin : s'.inputObjects = s.inputObjects) (hst : s'.store = s.store)
    (hl : ∀ id ∈ s.loadedChildObjects, id ∈ s'.loadedChildObjects) {id : ObjectID}
    {v : SequenceNumber} (h : ∃ r, s.getInputStorageRebate id v = .ok r) :
    ∃ r, s'.getInputStorageRebate id v = .ok r := by
  rw [getInputStorageRebate_ok_iff] at h ⊢
  rw [hin, hst]
  exact h.imp_right (Or.imp_left (hl id))

theorem getInputStorageRebate_of_mutable {s : TemporaryStore} {id : ObjectID}
    {ref : VersionDigest} (h : s.mutableInputRefs.lookup id = some ref) (v : SequenceNumber) :
    ∃ r, s.getInputStorageRebate id v = .ok r :=
  (getInputStorageRebate_ok_iff s id v).mpr
    (.inl (AList.mem_keys.mp (s.mutable_inputs id (AList.lookup_isSome.mp (by rw [h]; rfl)))))

theorem TxCall.apply_rebatesDefined {s s' : TemporaryStore} {call : TxCall σ}
    (h : s.store.ServesLatestByKey ∧ s.RebatesDefined) (hc : call.ResolvesPreImages s)
    (hs : call.apply objectSizeForGasMetering s = .ok s') :
    s'.store.ServesLatestByKey ∧ s'.RebatesDefined := by
  obtain ⟨hstore, hdef⟩ := h
  obtain ⟨hin, hst, -, hl, hM⟩ := TxCall.apply_preImage objectSizeForGasMetering hs
  refine ⟨hst ▸ hstore, fun id v d hlk => ?_⟩
  have mono := @getInputStorageRebate_ok_mono s s' hin hst hl id v
  rcases hM id (v, d) hlk with hold | hmut | ⟨_, _, -, -, -, hn⟩ | ⟨_, oldObj, -, rfl, hget, he⟩ |
      ⟨_, rfl, hnot, hnew⟩
  · exact mono (hdef id v d hold)
  · exact mono (getInputStorageRebate_of_mutable hmut v)
  · exact (getInputStorageRebate_ok_iff _ _ _).mpr (.inr (.inl hn))
  · obtain rfl : v = oldObj.version := congrArg Prod.fst he
    refine mono ((getInputStorageRebate_ok_iff _ _ _).mpr (.inr (.inr ?_)))
    rw [hstore _ _ hget]; rfl
  · exact mono (hc id (v, d) hnew hnot)

theorem collectRebate_of_rebatesDefined {τ : Type} {s : TemporaryStore} (h : s.RebatesDefined)
    (charger : GasCharger τ) (g : τ) : ∃ g', s.collectRebate charger g = .ok g' := by
  suffices ∀ (es : List (Σ _ : ObjectID, VersionDigest)) (g : τ),
      (∀ e ∈ es, ∃ r, s.getInputStorageRebate e.1 e.2.1 = .ok r) →
      ∃ g', es.foldlM (s.collectRebateStep charger) g = .ok g' from
    this _ g fun e he => h e.1 e.2.1 e.2.2 (AList.mem_lookup_iff.mpr he)
  intro es
  induction es with
  | nil => exact fun g _ => ⟨g, rfl⟩
  | cons e es ih =>
    intro g hes
    obtain ⟨r, hr⟩ := hes e (List.mem_cons_self _ _)
    obtain ⟨g₁, hg₁⟩ : ∃ g₁, s.collectRebateStep charger g e = .ok g₁ := by
      unfold collectRebateStep
      split
      · exact ⟨g, rfl⟩
      · rw [hr]; exact ⟨_, rfl⟩
    obtain ⟨g', hg'⟩ := ih g₁ fun e' he' => hes e' (List.mem_cons_of_mem _ he')
    exact ⟨g', by rw [List.foldlM_cons, hg₁]; exact hg'⟩

theorem collectStorageAndRebate_of_rebatesDefined {τ : Type} {s : TemporaryStore}
    (h : s.RebatesDefined) (charger : GasCharger τ) (g : τ) :
    ∃ p, s.collectStorageAndRebate objectSizeForGasMetering charger g = .ok p := by
  obtain ⟨olds, holds, -⟩ := oldStorageRebates_ok h
  obtain ⟨g₂, hg₂⟩ := @collectRebate_of_rebatesDefined τ
    { s with executionResults :=
      withStorageRebates objectSizeForGasMetering charger s.executionResults g olds } h charger
    (trackStorageMutations objectSizeForGasMetering charger g
      s.executionResults.writtenObjects.entries olds).2
  exact ⟨_, bind_eq_ok.mpr ⟨olds, holds, bind_eq_ok.mpr ⟨g₂, hg₂, rfl⟩⟩⟩

/-- From `new` or `new_for_mock_transaction`, along every execution that interleaves the
store's calls, the VM's package lookups and the merges of the Move runtime's results, in
which each merge names only pre-images the store can resolve at that point, over a backing
store that serves its latest objects by key: every state keeps every pre-image rebate
defined, so `collect_storage_and_rebate`, with any gas charger, and `get_modified_objects`
never panic with "Looking up storage rebate of mutated object {id} should not fail". -/
theorem runTx_rebate_lookups_succeed (store : BackingStore) (inputs : InputObjects)
    (txDigest : TransactionDigest) (protocolConfig : ProtocolConfig) (s₀ : TemporaryStore)
    (hs₀ : s₀ = new store inputs txDigest protocolConfig ∨
      s₀ = newForMockTransaction store inputs txDigest protocolConfig)
    (hstore : store.ServesLatestByKey) (calls : List (TxCall σ))
    (hr : TxRunSatisfies objectSizeForGasMetering TxCall.ResolvesPreImages s₀ calls)
    {s : TemporaryStore} (hs : runTx objectSizeForGasMetering s₀ calls = .ok s) :
    s.RebatesDefined ∧
      (∀ (τ : Type) (charger : GasCharger τ) (g : τ),
        ∃ p, s.collectStorageAndRebate objectSizeForGasMetering charger g = .ok p) ∧
      ∃ l, s.getModifiedObjects = .ok l := by
  have h₀ : s₀.store.ServesLatestByKey ∧ s₀.RebatesDefined := by
    rcases hs₀ with rfl | rfl <;> exact ⟨hstore, fun _ _ _ hl => by cases hl⟩
  have h :=
    (runWith_invariant _ (TxCall.apply_rebatesDefined objectSizeForGasMetering) h₀ hr hs).2
  exact ⟨h, fun _ charger g => collectStorageAndRebate_of_rebatesDefined
    objectSizeForGasMetering h charger g, getModifiedObjects_ok h⟩

/-- An execution that mutates an input, mutates a child object, merges the empty result of
a Move run and collects the storage charges keeps every rebate lookup working. -/
theorem runTx_rebate_lookups_succeed_child :
    let input : Object := ⟨1, 3, 0, .addressOwner 9, 0, 5, .move "coin" []⟩
    let child : Object := ⟨7, 2, 0, .objectOwner 1, 0, 40, .move "field" []⟩
    let charger : GasCharger Unit :=
      ⟨fun _ => none, fun _ => [], fun g size _ => (UInt64.ofNat size, g)⟩
    let calls : List (TxCall Unit) :=
      [.call (.op (.mutateInputObject { input with storageRebate := 6 })),
        .call (.op (.mutateChildObject child { child with version := 3 })),
        .recordExecutionResults (.v2 .empty), .call (.op (.collectStorageAndRebate charger ()))]
    ∃ s, runTx (fun _ => 10) (new .empty ⟨[(true, input)]⟩ 0 ⟨0, 0, false⟩) calls = .ok s ∧
      s.RebatesDefined ∧
      (∀ (τ : Type) (charger : GasCharger τ) (g : τ),
        ∃ p, s.collectStorageAndRebate (fun _ => 10) charger g = .ok p) ∧
      ∃ l, s.getModifiedObjects = .ok l := by
  intro input child charger calls
  exact ⟨_, rfl, runTx_rebate_lookups_succeed (fun _ => 10) .empty ⟨[(true, input)]⟩ 0
    ⟨0, 0, false⟩ _ (.inl rfl) (fun _ _ h => by cases h) calls
    ⟨trivial, fun _ _ => ⟨trivial, fun _ _ => ⟨(fun _ _ h => by cases h),
      fun _ _ => ⟨trivial, fun _ _ => trivial⟩⟩⟩⟩ rfl⟩

/-! ## Pre-image versions of the inputs -/

/-- The calls that bring pre-images of their own bring inputs at the inputs' versions: a
child object mutated in place of an input starts from the input's version, a system
package upgraded in place of an input replaces the input's version, and a merged result
records a new pre-image of an input at the input's version. -/
def TxCall.RecordsInputVersions (s : TemporaryStore) : TxCall σ → Prop
  | .call (.op (.mutateChildObject oldObject newObject)) => ∀ o,
      s.inputObjects.lookup newObject.id = some o → o.version = oldObject.version
  | .call (.op (.upgradeSystemPackage package)) => ∀ o oldObj,
      s.inputObjects.lookup package.id = some o → s.store.getObject package.id = some oldObj →
      o.version = oldObj.version
  | .recordExecutionResults (.v2 results) => ∀ id ref o,
      results.objectsModifiedAt.lookup id = some ref →
      id ∉ s.executionResults.objectsModifiedAt → s.inputObjects.lookup id = some o →
      o.version = ref.1
  | _ => True

/-- Every mutable reference, and every pre-image recorded for an input, is at the input's
version. -/
structure InputVersionsAgree (s : TemporaryStore) : Prop where
  mutable_refs : ∀ id ref o, s.mutableInputRefs.lookup id = some ref →
    s.inputObjects.lookup id = some o → o.version = ref.1
  modified : ∀ id ref o, s.executionResults.objectsModifiedAt.lookup id = some ref →
    s.inputObjects.lookup id = some o → o.version = ref.1

theorem TxCall.apply_inputVersionsAgree {s s' : TemporaryStore} {call : TxCall σ}
    (h : s.InputVersionsAgree) (hc : call.RecordsInputVersions s)
    (hs : call.apply objectSizeForGasMetering s = .ok s') : s'.InputVersionsAgree := by
  obtain ⟨hin, -, hmut, -, hM⟩ := TxCall.apply_preImage objectSizeForGasMetering hs
  refine ⟨fun id ref o hr ho => h.mutable_refs id ref o (hmut ▸ hr) (hin ▸ ho),
    fun id ref o hlk ho => ?_⟩
  rw [hin] at ho
  rcases hM id ref hlk with hold | hm | ⟨_, _, rfl, rfl, rfl, -⟩ | ⟨_, _, rfl, rfl, hget, rfl⟩ |
      ⟨_, rfl, hnot, hnew⟩
  · exact h.modified id ref o hold ho
  · exact h.mutable_refs id ref o hm ho
  · exact hc o ho
  · exact hc o _ ho hget
  · exact hc id ref o hnew hnot ho

/-- From `new` or `new_for_mock_transaction` over inputs with distinct ids, along every
execution whose calls bring inputs at their versions: every pre-image recorded for an
input is at the input's version. So `get_input_sui` never reports a version mismatch,
and reads the SUI of an input's pre-image exactly as the layout resolver reads the
input. -/
theorem runTx_input_versions_agree (store : BackingStore) (inputs : InputObjects)
    (txDigest : TransactionDigest) (protocolConfig : ProtocolConfig) (s₀ : TemporaryStore)
    (hs₀ : s₀ = new store inputs txDigest protocolConfig ∨
      s₀ = newForMockTransaction store inputs txDigest protocolConfig)
    (hnodup : (inputs.objects.map (·.2.id)).Nodup) (calls : List (TxCall σ))
    (hr : TxRunSatisfies objectSizeForGasMetering TxCall.RecordsInputVersions s₀ calls)
    {s : TemporaryStore} (hs : runTx objectSizeForGasMetering s₀ calls = .ok s) :
    ∀ id v d o, s.executionResults.objectsModifiedAt.lookup id = some (v, d) →
      s.inputObjects.lookup id = some o →
      o.version = v ∧ ∀ (getTotalSui : Object → Except String UInt64) (sui : UInt64),
        getTotalSui o = .ok sui → s.getInputSui getTotalSui id v = .ok sui := by
  have h₀ : s₀.InputVersionsAgree := by
    rcases hs₀ with rfl | rfl <;>
      exact ⟨fun _ _ _ => InputObjects.version_of_mutableInputs hnodup,
        fun _ _ _ hl => by cases hl⟩
  have h :=
    runWith_invariant _ (TxCall.apply_inputVersionsAgree objectSizeForGasMetering) h₀ hr hs
  intro id v d o hl ho
  have hv : o.version = v := h.modified id (v, d) o hl ho
  exact ⟨hv, fun getTotalSui sui hsui => by simp [getInputSui, ho, hv, hsui]⟩

/-- An execution that mutates the mutable input, mutates a child object and merges a Move
result recording the immutable input at its version keeps each input's pre-image at the
input's version. -/
theorem runTx_input_versions_agree_merge :
    let input : Object := ⟨1, 3, 0, .addressOwner 9, 0, 5, .move "coin" []⟩
    let package : Object := ⟨2, 1, 0, .immutable, 0, 0, .package []⟩
    let child : Object := ⟨7, 2, 0, .objectOwner 1, 0, 40, .move "field" []⟩
    let results : ExecutionResultsV2 := { ExecutionResultsV2.empty with
      objectsModifiedAt := (∅ : ObjMap VersionDigest).insert 2 (1, 0) }
    let calls : List (TxCall Unit) :=
      [.call (.op (.mutateInputObject { input with storageRebate := 6 })),
        .call (.op (.mutateChildObject child { child with version := 3 })),
        .recordExecutionResults (.v2 results)]
    ∃ s, runTx (fun _ => 10)
        (new .empty ⟨[(true, input), (false, package)]⟩ 0 ⟨0, 0, false⟩) calls = .ok s ∧
      ∀ id v d o, s.executionResults.objectsModifiedAt.lookup id = some (v, d) →
        s.inputObjects.lookup id = some o →
        o.version = v ∧ ∀ (getTotalSui : Object → Except String UInt64) (sui : UInt64),
          getTotalSui o = .ok sui → s.getInputSui getTotalSui id v = .ok sui := by
  intro input package child results calls
  refine ⟨_, rfl, runTx_input_versions_agree (fun _ => 10) .empty
    ⟨[(true, input), (false, package)]⟩ 0 ⟨0, 0, false⟩ _ (.inl rfl) (by decide) calls
    ⟨trivial, fun s₁ h₁ => ⟨fun o ho => ?_, fun s₂ h₂ => ⟨fun id ref o hl _ ho => ?_,
      fun _ _ => trivial⟩⟩⟩ rfl⟩
  · cases h₁; cases ho
  · cases h₁; cases h₂
    rcases ObjMap.lookup_insert_eq_some hl with ⟨rfl, rfl⟩ | hl
    · cases ho; rfl
    · cases hl

end TemporaryStore

end SuiTemporaryStore
