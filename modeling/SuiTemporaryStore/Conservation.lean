import SuiTemporaryStore.ModifiedObjects

/-!
# Conservation of storage rebates

`check_sui_conserved` sums the pre-image and the post-image rebates over the stream of
`get_modified_objects` and compares the two totals with the gas summary. Over the stream
the totals are the sums over `objects_modified_at` and over `written_objects`. Each
`+=` is a `u64` addition, which wraps in a release build, so an accepted transaction
balances its rebate flows only modulo `2^64`.
-/
namespace SuiTemporaryStore

namespace TemporaryStore

/-- What `get_input_storage_rebate` returns, in unbounded arithmetic; `0` where it
panics. -/
def inputStorageRebate (s : TemporaryStore) (id : ObjectID) (version : SequenceNumber) : Nat :=
  toNatOrZero (s.getInputStorageRebate id version)

theorem inputStorageRebate_of_ok {s : TemporaryStore} {id : ObjectID} {v : SequenceNumber}
    {r : UInt64} (h : s.getInputStorageRebate id v = .ok r) :
    s.inputStorageRebate id v = r.toNat := by
  simp only [inputStorageRebate, toNatOrZero, h]

@[simp] theorem inputStorageRebate_executionResults (s : TemporaryStore)
    (r : ExecutionResultsV2) (id : ObjectID) (v : SequenceNumber) :
    inputStorageRebate { s with executionResults := r } id v = s.inputStorageRebate id v :=
  rfl

/-- The pre-image rebates of `objects_modified_at`, summed in unbounded arithmetic. -/
def inputRebateSum (s : TemporaryStore) : Nat :=
  s.executionResults.objectsModifiedAt.sumBy fun id vd => s.inputStorageRebate id vd.1

/-- The rebates of `written_objects`, summed in unbounded arithmetic. -/
def outputRebateSum (s : TemporaryStore) : Nat :=
  s.executionResults.writtenObjects.sumBy fun _ o => o.storageRebate.toNat

/-- The input rebates of a stream of modified objects, unbounded. -/
def streamInputRebate (modified : List ModifiedObjectInfo) : Nat :=
  (modified.map fun b => (b.2.1.map fun input => input.2.toNat).getD 0).sum

/-- The output rebates of a stream of modified objects, unbounded. -/
def streamOutputRebate (modified : List ModifiedObjectInfo) : Nat :=
  (modified.map fun b => (b.2.2.map fun o => o.storageRebate.toNat).getD 0).sum

theorem mapM_modifiedEntry_sums (s : TemporaryStore)
    (es : List (Σ _ : ObjectID, VersionDigest)) {l : List ModifiedObjectInfo}
    (h : es.mapM s.modifiedEntry = .ok l) (f : ObjectID → SequenceNumber × UInt64 → Nat)
    (f' : ObjectID → SequenceNumber → Nat)
    (hf : ∀ id v r, s.getInputStorageRebate id v = .ok r → f id (v, r) = f' id v)
    (g : Object → Nat) :
    (l.map fun b => (b.2.1.map (f b.1)).getD 0).sum = (es.map fun e => f' e.1 e.2.1).sum ∧
    (l.map fun b => (b.2.2.map g).getD 0).sum =
      (es.map fun e => ((s.executionResults.writtenObjects.lookup e.1).map g).getD 0).sum := by
  induction es generalizing l with
  | nil => cases h; exact ⟨rfl, rfl⟩
  | cons e es ih =>
    rw [List.mapM_cons] at h
    obtain ⟨b, hb, h⟩ := bind_eq_ok.mp h
    obtain ⟨bs, hbs, h⟩ := bind_eq_ok.mp h
    cases h
    obtain ⟨r, hr, rfl⟩ := modifiedEntry_ok hb
    obtain ⟨h₁, h₂⟩ := ih hbs
    constructor <;> simp only [List.map_cons, List.sum_cons, h₁, h₂, Option.map_some',
      Option.getD_some, hf _ _ _ hr]

/-- Summing over the stream of `get_modified_objects` a function of each input, which
depends only on the id and the recorded version, and a function of each output sums the
first over `objects_modified_at` and the second over `written_objects`. -/
theorem getModifiedObjects_sums {s : TemporaryStore} {l : List ModifiedObjectInfo}
    (h : s.getModifiedObjects = .ok l) (f : ObjectID → SequenceNumber × UInt64 → Nat)
    (f' : ObjectID → SequenceNumber → Nat)
    (hf : ∀ id v r, s.getInputStorageRebate id v = .ok r → f id (v, r) = f' id v)
    (g : Object → Nat) :
    (l.map fun b => (b.2.1.map (f b.1)).getD 0).sum =
      s.executionResults.objectsModifiedAt.sumBy (fun id vd => f' id vd.1) ∧
    (l.map fun b => (b.2.2.map g).getD 0).sum =
      s.executionResults.writtenObjects.sumBy fun _ o => g o := by
  obtain ⟨l₁, h₁, h⟩ := bind_eq_ok.mp h
  cases h
  obtain ⟨hin, hout⟩ := mapM_modifiedEntry_sums s _ h₁ f f' hf g
  rw [filterMap_createdEntry, List.map_append, List.sum_append, List.map_append, List.sum_append,
    hin, hout, ← ObjMap.sum_lookup_add_sum_filter s.executionResults.objectsModifiedAt
      s.executionResults.writtenObjects, AList.keys, List.keys, List.map_map, List.map_map,
    List.map_map]
  refine ⟨?_, rfl⟩
  simp [ObjMap.sumBy, Function.comp_def]

/-- Over the stream of `get_modified_objects`, the input rebates are those of
`objects_modified_at` and the output rebates those of `written_objects`. -/
theorem getModifiedObjects_rebates {s : TemporaryStore} {l : List ModifiedObjectInfo}
    (h : s.getModifiedObjects = .ok l) :
    streamInputRebate l = s.inputRebateSum ∧ streamOutputRebate l = s.outputRebateSum :=
  getModifiedObjects_sums h (fun _ input => input.2.toNat) s.inputStorageRebate
    (fun _ _ _ hr => (inputStorageRebate_of_ok hr).symm) (·.storageRebate.toNat)

theorem getInputStorageRebate_of_input {s : TemporaryStore} {id : ObjectID} {o : Object}
    (h : s.inputObjects.lookup id = some o) (v : SequenceNumber) :
    s.getInputStorageRebate id v = .ok o.storageRebate := by
  simp [getInputStorageRebate, h]

/-- Every pre-image rebate can be looked up when every modified object is an input or a
loaded child object, as the comment of `get_input_storage_rebate` expects. -/
theorem rebatesDefined_of_loaded {s : TemporaryStore}
    (h : ∀ id ∈ s.executionResults.objectsModifiedAt.keys,
      id ∈ s.inputObjects.keys ∨ id ∈ s.loadedChildObjects.keys) :
    s.RebatesDefined := by
  intro id v d hl
  cases hi : s.inputObjects.lookup id with
  | some o => exact ⟨_, getInputStorageRebate_of_input hi v⟩
  | none =>
    have hmem : id ∈ s.executionResults.objectsModifiedAt := by
      rw [← AList.lookup_isSome, hl]; rfl
    have hc : id ∈ s.loadedChildObjects := (h id (AList.mem_keys.mpr hmem)).resolve_left
      fun h' => by simpa [hi] using AList.lookup_isSome.mpr (AList.mem_keys.mp h')
    obtain ⟨md, hmd⟩ := Option.isSome_iff_exists.mp (AList.lookup_isSome.mpr hc)
    exact ⟨md.storageRebate, by simp [getInputStorageRebate, hi, hmd]⟩

/-- `mutate_input_object` on an id that already has a pre-image keeps every pre-image
rebate, and its object takes the place of the written object under that id. -/
theorem mutateInputObject_rebates {s s' : TemporaryStore} {o : Object}
    (h : s.mutateInputObject o = .ok s') (hmod : o.id ∈ s.executionResults.objectsModifiedAt) :
    (s.RebatesDefined → s'.RebatesDefined) ∧ s'.inputRebateSum = s.inputRebateSum ∧
      s'.outputRebateSum = o.storageRebate.toNat +
        ObjMap.sumBy (s.executionResults.writtenObjects.erase o.id)
          (fun _ o => o.storageRebate.toNat) ∧
      s'.executionResults.writtenObjects.lookup o.id = some o := by
  obtain ⟨ref, href, rfl⟩ := mutateInputObject_ok h
  obtain ⟨io, hio⟩ := Option.isSome_iff_exists.mp (AList.lookup_isSome.mpr
    (s.mutable_inputs o.id (AList.lookup_isSome.mp (by rw [href]; rfl))))
  obtain ⟨⟨v, d⟩, hvd⟩ := Option.isSome_iff_exists.mp (AList.lookup_isSome.mpr hmod)
  refine ⟨fun hdef id v' d' hl => ?_, ObjMap.sumBy_congr (fun k => ?_) (fun k => ?_),
    ObjMap.sumBy_insert _ _ _ _, AList.lookup_insert _⟩
  · by_cases hid : id = o.id
    · subst hid; exact ⟨_, getInputStorageRebate_of_input hio v'⟩
    · simp only [ExecutionResultsV2.writeObject_objectsModifiedAt,
        ExecutionResultsV2.modifyAt_objectsModifiedAt, AList.lookup_insert_ne hid] at hl
      exact hdef id v' d' hl
  · simp only [ExecutionResultsV2.writeObject_objectsModifiedAt,
      ExecutionResultsV2.modifyAt_objectsModifiedAt, AList.mem_insert]
    exact ⟨fun h => h.elim (· ▸ hmod) id, Or.inr⟩
  · by_cases hk : k = o.id
    · subst hk
      simp [hvd, inputStorageRebate, toNatOrZero, getInputStorageRebate_of_input hio]
    · simp only [ExecutionResultsV2.writeObject_objectsModifiedAt,
        ExecutionResultsV2.modifyAt_objectsModifiedAt, AList.lookup_insert_ne hk]
      rfl

/-- One iteration of the loop of `check_sui_conserved`. -/
def addRebates (totals : UInt64 × UInt64) (modified : ModifiedObjectInfo) : UInt64 × UInt64 :=
  (match modified.2.1 with
    | some (_, storageRebate) => totals.1 + storageRebate
    | none => totals.1,
   match modified.2.2 with
    | some object => totals.2 + object.storageRebate
    | none => totals.2)

/-- The loop of `check_sui_conserved`: the total input and output rebates, in `u64`. -/
def rebateTotals (modified : List ModifiedObjectInfo) : UInt64 × UInt64 :=
  modified.foldl addRebates (0, 0)

theorem foldl_addRebates (l : List ModifiedObjectInfo) (totals : UInt64 × UInt64) :
    (l.foldl addRebates totals).1.toNat = (totals.1.toNat + streamInputRebate l) % 2 ^ 64 ∧
    (l.foldl addRebates totals).2.toNat = (totals.2.toNat + streamOutputRebate l) % 2 ^ 64 := by
  induction l generalizing totals with
  | nil =>
    have h₁ := UInt64.toNat_lt_two_pow totals.1
    have h₂ := UInt64.toNat_lt_two_pow totals.2
    simp only [List.foldl_nil, streamInputRebate, streamOutputRebate, List.map_nil,
      List.sum_nil, Nat.add_zero]
    exact ⟨(Nat.mod_eq_of_lt h₁).symm, (Nat.mod_eq_of_lt h₂).symm⟩
  | cons b l ih =>
    obtain ⟨h₁, h₂⟩ := ih (addRebates totals b)
    obtain ⟨id, input, output⟩ := b
    simp only [List.foldl_cons, streamInputRebate, streamOutputRebate, List.map_cons,
      List.sum_cons] at h₁ h₂ ⊢
    rw [h₁, h₂]
    rcases input with _ | ⟨v, r⟩ <;> rcases output with _ | o <;>
      simp only [addRebates, UInt64.toNat_add_wrap, Option.map_some', Option.map_none',
        Option.getD_some, Option.getD_none, Nat.mod_add_mod, Nat.zero_add, Nat.add_assoc, and_self]

/-- The totals of the loop are the unbounded sums of the stream, wrapped to `u64`. -/
theorem rebateTotals_toNat (l : List ModifiedObjectInfo) :
    (rebateTotals l).1.toNat = streamInputRebate l % 2 ^ 64 ∧
    (rebateTotals l).2.toNat = streamOutputRebate l % 2 ^ 64 := by
  simpa using foldl_addRebates l (0, 0)

/-- The comparisons that end `check_sui_conserved`, on the two totals of its loop. -/
def checkRebateTotals (totalInputRebate totalOutputRebate : UInt64)
    (gasSummary : GasCostSummary) : Except Failure Unit :=
  let storageCost := gasSummary.storageCost
  let nonRefundableStorageFee := gasSummary.nonRefundableStorageFee
  if storageCost = 0 then
    if totalInputRebate ≠ totalOutputRebate + gasSummary.storageRebate + nonRefundableStorageFee
    then .error (.invariantViolation
      (s!"SUI conservation failed -- no storage charges in gas summary and total storage " ++
        s!"input rebate {totalInputRebate} not equal  to total storage output rebate " ++
        s!"{totalOutputRebate}"))
    else .ok ()
  else if totalInputRebate ≠ gasSummary.storageRebate + nonRefundableStorageFee then
    .error (.invariantViolation
      (s!"SUI conservation failed -- {totalInputRebate} SUI in storage rebate field of " ++
        s!"input objects, {nonRefundableStorageFee} SUI in tx storage rebate or tx " ++
        "non-refundable storage rebate"))
  else if storageCost ≠ totalOutputRebate then
    .error (.invariantViolation
      (s!"SUI conservation failed -- {storageCost} SUI charged for storage, " ++
        s!"{totalOutputRebate} SUI in storage rebate field of output objects"))
  else .ok ()

/-- `check_sui_conserved`. -/
def checkSuiConserved (s : TemporaryStore) (simpleConservationChecks : Bool)
    (gasSummary : GasCostSummary) : Except Failure Unit :=
  if !simpleConservationChecks then .ok () else do
  let modified ← s.getModifiedObjects
  checkRebateTotals (rebateTotals modified).1 (rebateTotals modified).2 gasSummary

theorem checkRebateTotals_ok_iff (i o : UInt64) (gs : GasCostSummary) :
    checkRebateTotals i o gs = .ok () ↔
      gs.storageCost = 0 ∧ i = o + gs.storageRebate + gs.nonRefundableStorageFee ∨
      gs.storageCost ≠ 0 ∧ i = gs.storageRebate + gs.nonRefundableStorageFee ∧
        gs.storageCost = o := by
  dsimp only [checkRebateTotals]
  split_ifs <;> simp_all [eq_comm]

theorem u64_eq_iff_toNat {a b : UInt64} : a = b ↔ a.toNat = b.toNat :=
  ⟨congrArg _, UInt64.toNat.inj⟩

/-- When the stream can be built, `check_sui_conserved` accepts exactly when the rebate
flows balance modulo `2^64`: in full when no storage is charged, and else the input
rebates against the gas summary's rebates and the storage charge against the output
rebates. -/
theorem checkSuiConserved_ok_iff {s : TemporaryStore} {l : List ModifiedObjectInfo}
    (hl : s.getModifiedObjects = .ok l) (gs : GasCostSummary) :
    s.checkSuiConserved true gs = .ok () ↔
      gs.storageCost = 0 ∧ s.inputRebateSum % 2 ^ 64 = (s.outputRebateSum +
        gs.storageRebate.toNat + gs.nonRefundableStorageFee.toNat) % 2 ^ 64 ∨
      gs.storageCost ≠ 0 ∧ s.inputRebateSum % 2 ^ 64 =
        (gs.storageRebate.toNat + gs.nonRefundableStorageFee.toNat) % 2 ^ 64 ∧
        gs.storageCost.toNat = s.outputRebateSum % 2 ^ 64 := by
  obtain ⟨hin, hout⟩ := getModifiedObjects_rebates hl
  obtain ⟨h₁, h₂⟩ := rebateTotals_toNat l
  rw [hin] at h₁
  rw [hout] at h₂
  simp only [checkSuiConserved, Bool.not_true, hl, Bool.false_eq_true, if_false]
  show checkRebateTotals _ _ gs = _ ↔ _
  simp only [checkRebateTotals_ok_iff, u64_eq_iff_toNat, UInt64.toNat_add_wrap,
    UInt64.toNat_zero, h₁, h₂, ne_eq, Nat.mod_add_mod]

/-- With the gas summary of zeros, `check_sui_conserved` compares the two rebate sums
modulo `2^64`. -/
theorem checkSuiConserved_zero_iff {s : TemporaryStore} {l : List ModifiedObjectInfo}
    (hl : s.getModifiedObjects = .ok l) :
    s.checkSuiConserved true ⟨0, 0, 0, 0⟩ = .ok () ↔
      s.inputRebateSum % 2 ^ 64 = s.outputRebateSum % 2 ^ 64 := by
  simp [checkSuiConserved_ok_iff hl]

/-- Two inputs deleted whose rebates add up to `2^64`: the `u64` input total wraps to `0`,
and the check accepts a transaction that makes their whole rebate vanish. -/
theorem checkSuiConserved_accepts_wrapped_rebates :
    let o₁ : Object := ⟨1, 3, 0, .addressOwner 9, 0, 9223372036854775808, .move "coin" []⟩
    let o₂ : Object := ⟨2, 3, 0, .addressOwner 9, 0, 9223372036854775808, .move "coin" []⟩
    let gs : GasCostSummary := ⟨0, 0, 0, 0⟩
    ∃ s, ((new .empty ⟨[(true, o₁), (true, o₂)]⟩ 0 ⟨0, 0, false⟩).deleteInputObject 1 >>=
        fun s => s.deleteInputObject 2) = .ok s ∧
      s.checkSuiConserved true gs = .ok () ∧
      s.inputRebateSum + gs.storageCost.toNat ≠
        s.outputRebateSum + gs.storageRebate.toNat + gs.nonRefundableStorageFee.toNat :=
  ⟨_, rfl, rfl, by decide⟩

/-- As long as neither side of the balance reaches `2^64`, a transaction the check accepts
balances its rebate flows: the pre-image rebates and the storage charge equal the
post-image rebates, the rebate paid out and the non-refundable fee. -/
theorem checkSuiConserved_balances {s : TemporaryStore} {gs : GasCostSummary}
    (hin : s.inputRebateSum < 2 ^ 64)
    (hout : s.outputRebateSum + gs.storageRebate.toNat + gs.nonRefundableStorageFee.toNat <
      2 ^ 64)
    (h : s.checkSuiConserved true gs = .ok ()) :
    s.inputRebateSum + gs.storageCost.toNat =
      s.outputRebateSum + gs.storageRebate.toNat + gs.nonRefundableStorageFee.toNat := by
  obtain ⟨l, hl, -⟩ := bind_eq_ok.mp h
  have hcost := UInt64.toNat_lt_two_pow gs.storageCost
  rcases (checkSuiConserved_ok_iff hl gs).mp h with ⟨h0, he⟩ | ⟨-, he, hc⟩
  · rw [h0, UInt64.toNat_zero]
    omega
  · omega

theorem checkSuiConserved_balances_deletion :
    let o₁ : Object := ⟨1, 3, 0, .addressOwner 9, 0, 100, .move "coin" []⟩
    let gs : GasCostSummary := ⟨0, 0, 90, 10⟩
    ∃ s, (new .empty ⟨[(true, o₁)]⟩ 0 ⟨0, 0, false⟩).deleteInputObject 1 = .ok s ∧
      s.inputRebateSum < 2 ^ 64 ∧
      s.outputRebateSum + gs.storageRebate.toNat + gs.nonRefundableStorageFee.toNat < 2 ^ 64 ∧
      s.checkSuiConserved true gs = .ok () ∧
      s.inputRebateSum + gs.storageCost.toNat =
        s.outputRebateSum + gs.storageRebate.toNat + gs.nonRefundableStorageFee.toNat :=
  ⟨_, rfl, by decide, by decide, rfl, checkSuiConserved_balances (by decide) (by decide) rfl⟩

end TemporaryStore

end SuiTemporaryStore
