import SuiTemporaryStore.Conservation

/-!
# The rebate accounting of `collect_storage_and_rebate`

A gas charger that charges `c(size)` for the storage of an object, returns that charge as
the object's new rebate and credits back the old rebate keeps a storage total and a
rebate total. `collect_storage_and_rebate` adds to the first the new rebate of every
written object and to the second the pre-image rebate of every id of
`objects_modified_at`, each once, so `check_sui_conserved` accepts the gas summary of the
two totals. The unmetered charger of a system transaction returns `0`; then
`conserve_unmetered_storage_rebate` parks the whole rebate total in the `0x5` object, and
the check accepts a summary of zeros.
-/
namespace SuiTemporaryStore

/-- A charger that charges `c size` for storing `size` bytes, returns the charge as the new
rebate and credits back the old rebate, in the `u64` totals `cost` and `rebate`. -/
structure GasCharger.Accounts {σ : Type} (charger : GasCharger σ) (c : Nat → UInt64)
    (cost rebate : σ → UInt64) : Prop where
  track_fst : ∀ g size old, (charger.trackStorageMutation g size old).1 = c size
  track_cost : ∀ g size old,
    cost (charger.trackStorageMutation g size old).2 = cost g + c size
  track_rebate : ∀ g size old,
    rebate (charger.trackStorageMutation g size old).2 = rebate g + old

namespace TemporaryStore

theorem oldStorageRebate_ok {s : TemporaryStore} (hdef : s.RebatesDefined) (id : ObjectID) :
    ∃ r, s.oldStorageRebate id = .ok r ∧ r.toNat =
      ((s.executionResults.objectsModifiedAt.lookup id).map
        fun vd => s.inputStorageRebate id vd.1).getD 0 := by
  unfold oldStorageRebate
  cases hm : s.executionResults.objectsModifiedAt.lookup id with
  | none => exact ⟨0, rfl, rfl⟩
  | some vd =>
    obtain ⟨r, hr⟩ := hdef id vd.1 vd.2 hm
    exact ⟨r, hr, (inputStorageRebate_of_ok hr).symm⟩

/-- The first loop of `collect_storage_and_rebate` does not panic, and its rebates add up
to the pre-image rebates of the written objects that have one. -/
theorem oldStorageRebates_ok {s : TemporaryStore} (hdef : s.RebatesDefined) :
    ∃ olds, s.oldStorageRebates = .ok olds ∧
      olds.length = s.executionResults.writtenObjects.entries.length ∧
      (olds.map UInt64.toNat).sum = (s.executionResults.writtenObjects.keys.map fun id =>
        ((s.executionResults.objectsModifiedAt.lookup id).map
          fun vd => s.inputStorageRebate id vd.1).getD 0).sum := by
  suffices ∀ ks : List ObjectID, ∃ olds, ks.mapM s.oldStorageRebate = .ok olds ∧
      olds.length = ks.length ∧ (olds.map UInt64.toNat).sum = (ks.map fun id =>
        ((s.executionResults.objectsModifiedAt.lookup id).map
          fun vd => s.inputStorageRebate id vd.1).getD 0).sum by
    obtain ⟨olds, h, hlen, hsum⟩ := this _
    exact ⟨olds, h, by rw [hlen, AList.keys, List.keys, List.length_map], hsum⟩
  intro ks
  induction ks with
  | nil => exact ⟨[], rfl, rfl, rfl⟩
  | cons k ks ih =>
    obtain ⟨r, hr, hrv⟩ := oldStorageRebate_ok hdef k
    obtain ⟨olds, h, hlen, hsum⟩ := ih
    refine ⟨r :: olds, by rw [List.mapM_cons, hr, h]; rfl, by simp [hlen], ?_⟩
    simp only [List.map_cons, List.sum_cons, hrv, hsum]

section Charger

variable (objectSizeForGasMetering : Object → Nat) {σ : Type} {charger : GasCharger σ}
  {c : Nat → UInt64} {cost rebate : σ → UInt64}

/-- The second loop gives each written object the charge for its size as its rebate, adds
those charges to the storage total and the old rebates to the rebate total. -/
theorem trackStorageMutations_accounts (hch : charger.Accounts c cost rebate) (g : σ)
    (l : List (Σ _ : ObjectID, Object)) (olds : List UInt64) (hlen : olds.length = l.length) :
    (trackStorageMutations objectSizeForGasMetering charger g l olds).1 =
      l.map (fun e => ⟨e.1, { e.2 with storageRebate := c (objectSizeForGasMetering e.2) }⟩) ∧
    (cost (trackStorageMutations objectSizeForGasMetering charger g l olds).2).toNat =
      ((cost g).toNat + (l.map fun e => (c (objectSizeForGasMetering e.2)).toNat).sum) %
        2 ^ 64 ∧
    (rebate (trackStorageMutations objectSizeForGasMetering charger g l olds).2).toNat =
      ((rebate g).toNat + (olds.map UInt64.toNat).sum) % 2 ^ 64 := by
  induction l generalizing g olds with
  | nil =>
    obtain rfl := List.length_eq_zero.mp hlen
    have h₁ := (UInt64.toNat_lt_two_pow (cost g))
    have h₂ := (UInt64.toNat_lt_two_pow (rebate g))
    exact ⟨rfl, (Nat.mod_eq_of_lt h₁).symm, (Nat.mod_eq_of_lt h₂).symm⟩
  | cons e l ih =>
    obtain ⟨id, o⟩ := e
    cases olds with
    | nil => cases hlen
    | cons old olds =>
      obtain ⟨h₁, h₂, h₃⟩ := ih (charger.trackStorageMutation g (objectSizeForGasMetering o) old).2
        olds (by simpa using hlen)
      simp only [trackStorageMutations, List.map_cons, List.sum_cons, hch.track_fst, h₁, h₂, h₃,
        hch.track_cost, hch.track_rebate, UInt64.toNat_add_wrap, true_and]
      exact ⟨by omega, by omega⟩

theorem withStorageRebates_lookup (hch : charger.Accounts c cost rebate)
    (r : ExecutionResultsV2) (g : σ) (olds : List UInt64)
    (hlen : olds.length = r.writtenObjects.entries.length) (id : ObjectID) :
    (withStorageRebates objectSizeForGasMetering charger r g olds).writtenObjects.lookup id =
      (r.writtenObjects.lookup id).map
        fun o => { o with storageRebate := c (objectSizeForGasMetering o) } := by
  show List.dlookup id (trackStorageMutations _ _ _ _ _).1 = _
  rw [(trackStorageMutations_accounts objectSizeForGasMetering hch g _ olds hlen).1]
  exact @List.dlookup_map₂ ObjectID _ (fun _ => Object) (fun _ => Object) _
    (fun _ o => { o with storageRebate := c (objectSizeForGasMetering o) }) id

/-- `collect_rebate` charges nothing, since `c 0 = 0`, and credits the pre-image rebate of
every modified object that is not written. -/
theorem foldlM_collectRebateStep (hch : charger.Accounts c cost rebate) (hc0 : c 0 = 0)
    (s : TemporaryStore) (es : List (Σ _ : ObjectID, VersionDigest))
    (hdef : ∀ e ∈ es, ∃ r, s.getInputStorageRebate e.1 e.2.1 = .ok r) (g : σ) :
    ∃ g', es.foldlM (s.collectRebateStep charger) g = .ok g' ∧ cost g' = cost g ∧
      (rebate g').toNat = ((rebate g).toNat +
        ((es.filter (·.1 ∉ s.executionResults.writtenObjects)).map
          fun e => s.inputStorageRebate e.1 e.2.1).sum) % 2 ^ 64 := by
  induction es generalizing g with
  | nil => exact ⟨g, rfl, rfl, (Nat.mod_eq_of_lt (UInt64.toNat_lt_two_pow (rebate g))).symm⟩
  | cons e es ih =>
    obtain ⟨r, hr⟩ := hdef e (List.mem_cons_self _ _)
    have hdef' := fun e' he' => hdef e' (List.mem_cons_of_mem _ he')
    by_cases hw : e.1 ∈ s.executionResults.writtenObjects
    · obtain ⟨g', h, h₁, h₂⟩ := ih hdef' g
      refine ⟨g', ?_, h₁, by simp [List.filter_cons, hw, h₂]⟩
      rw [List.foldlM_cons]
      simpa only [collectRebateStep, hw, if_true] using h
    · obtain ⟨g', h, h₁, h₂⟩ := ih hdef' (charger.trackStorageMutation g 0 r).2
      refine ⟨g', ?_, by rw [h₁, hch.track_cost, hc0, add_zero], ?_⟩
      · rw [List.foldlM_cons]
        simpa only [collectRebateStep, hw, if_false, hr] using h
      · simp only [h₂, hch.track_rebate, UInt64.toNat_add_wrap, List.filter_cons, hw,
          decide_not, decide_False, Bool.not_false, if_true, List.map_cons, List.sum_cons,
          inputStorageRebate_of_ok hr]
        omega

/-- `collect_storage_and_rebate` does not panic when every pre-image rebate can be looked
up. It changes only the rebates of the written objects, to the charge for their size;
the storage total grows by those charges and the rebate total by the pre-image rebates
of `objects_modified_at`. -/
theorem collectStorageAndRebate_accounts (hch : charger.Accounts c cost rebate)
    (hc0 : c 0 = 0) {s : TemporaryStore} (hdef : s.RebatesDefined) (g : σ) :
    ∃ r g', s.collectStorageAndRebate objectSizeForGasMetering charger g =
        .ok ({ s with executionResults := r }, g') ∧
      r.objectsModifiedAt = s.executionResults.objectsModifiedAt ∧
      (∀ id, r.writtenObjects.lookup id = (s.executionResults.writtenObjects.lookup id).map
        fun o => { o with storageRebate := c (objectSizeForGasMetering o) }) ∧
      (cost g').toNat = ((cost g).toNat + (s.executionResults.writtenObjects.entries.map
        fun e => (c (objectSizeForGasMetering e.2)).toNat).sum) % 2 ^ 64 ∧
      (rebate g').toNat = ((rebate g).toNat + s.inputRebateSum) % 2 ^ 64 := by
  obtain ⟨olds, holds, hlen, hsum⟩ := oldStorageRebates_ok hdef
  obtain ⟨-, h₂, h₃⟩ := trackStorageMutations_accounts objectSizeForGasMetering hch g
    s.executionResults.writtenObjects.entries olds hlen
  set r := withStorageRebates objectSizeForGasMetering charger s.executionResults g olds
  set g₁ := (trackStorageMutations objectSizeForGasMetering charger g
    s.executionResults.writtenObjects.entries olds).2
  obtain ⟨g₂, hg₂, hc, hr⟩ := foldlM_collectRebateStep hch hc0 { s with executionResults := r }
    s.executionResults.objectsModifiedAt.entries
    (fun e he => hdef e.1 e.2.1 e.2.2 (AList.mem_lookup_iff.mpr he)) g₁
  refine ⟨r, g₂, ?_, rfl, withStorageRebates_lookup objectSizeForGasMetering hch _ g olds hlen,
    by rw [hc, h₂], ?_⟩
  · exact bind_eq_ok.mpr ⟨olds, holds, bind_eq_ok.mpr ⟨g₂, hg₂, rfl⟩⟩
  · have hfilter : (s.executionResults.objectsModifiedAt.entries.filter
        fun e => decide (e.1 ∉ r.writtenObjects)) =
        s.executionResults.objectsModifiedAt.entries.filter
          fun e => decide (e.1 ∉ s.executionResults.writtenObjects) :=
      List.filter_congr fun e _ => by simp [r]
    have key := ObjMap.sum_lookup_add_sum_filter s.executionResults.writtenObjects
      s.executionResults.objectsModifiedAt fun id vd => s.inputStorageRebate id vd.1
    simp only [inputStorageRebate_executionResults] at hr
    rw [hr, hfilter, h₃, hsum]
    rw [inputRebateSum, ← key]
    omega

/-- With a charger that charges `c size` for storage, nothing for no bytes, returns the
charge as the new rebate and credits back the old one, `collect_storage_and_rebate` does
not panic when every pre-image rebate can be looked up. The storage total it accumulates
is the sum of the rebates of `written_objects` after it, the rebate total it accumulates is
the sum of the pre-image rebates of `objects_modified_at`, both modulo `2^64`, and
`check_sui_conserved` accepts every gas summary that reports those two totals. -/
theorem collectStorageAndRebate_checkSuiConserved (hch : charger.Accounts c cost rebate)
    (hc0 : c 0 = 0) {s : TemporaryStore} (hdef : s.RebatesDefined) (g : σ) :
    ∃ s' g', s.collectStorageAndRebate objectSizeForGasMetering charger g = .ok (s', g') ∧
      (cost g' - cost g).toNat = s'.outputRebateSum % 2 ^ 64 ∧
      (rebate g' - rebate g).toNat = s'.inputRebateSum % 2 ^ 64 ∧
      ∀ gs : GasCostSummary, gs.storageCost = cost g' - cost g →
        gs.storageRebate + gs.nonRefundableStorageFee = rebate g' - rebate g →
        s'.checkSuiConserved true gs = .ok () := by
  obtain ⟨r, g', h, hM, hW, hcost, hreb⟩ :=
    collectStorageAndRebate_accounts objectSizeForGasMetering hch hc0 hdef g
  have hout : outputRebateSum { s with executionResults := r } =
      (s.executionResults.writtenObjects.entries.map
        fun e => (c (objectSizeForGasMetering e.2)).toNat).sum :=
    ObjMap.sumBy_lookup_map hW _
  have hin : inputRebateSum { s with executionResults := r } = s.inputRebateSum := by
    rw [inputRebateSum, inputRebateSum, hM]; rfl
  obtain ⟨l, hl⟩ := @getModifiedObjects_ok { s with executionResults := r }
    fun id v d h => hdef id v d (hM ▸ h)
  have e₁ : (cost g' - cost g).toNat = (outputRebateSum { s with executionResults := r }) % 2 ^ 64 :=
    hout ▸ UInt64.toNat_sub_of_add hcost
  have e₂ : (rebate g' - rebate g).toNat = (inputRebateSum { s with executionResults := r }) % 2 ^ 64 :=
    hin ▸ UInt64.toNat_sub_of_add hreb
  refine ⟨_, g', h, e₁, e₂, fun gs hgc hgr => (checkSuiConserved_ok_iff hl gs).mpr ?_⟩
  have hc := congrArg UInt64.toNat hgc
  have hr := congrArg UInt64.toNat hgr
  rw [UInt64.toNat_add_wrap] at hr
  by_cases h0 : gs.storageCost = 0
  · have : gs.storageCost.toNat = 0 := by rw [h0]; rfl
    exact .inl ⟨h0, by omega⟩
  · exact .inr ⟨h0, by omega, by omega⟩

theorem collectStorageAndRebate_checkSuiConserved_child :
    let charger : GasCharger (UInt64 × UInt64) := ⟨fun _ => none, fun _ => [],
      fun g size old => (UInt64.ofNat size, (g.1 + UInt64.ofNat size, g.2 + old))⟩
    let child : Object := ⟨7, 2, 0, .objectOwner 1, 0, 40, .move "field" []⟩
    let s := (new .empty ⟨[(true, ⟨1, 3, 0, .addressOwner 9, 0, 5, .move "coin" []⟩)]⟩ 0
      ⟨0, 0, false⟩).mutateChildObject child { child with version := 3 }
    charger.Accounts UInt64.ofNat Prod.fst Prod.snd ∧ UInt64.ofNat 0 = 0 ∧ s.RebatesDefined ∧
      ∃ s' g', s.collectStorageAndRebate (fun _ => 10) charger (0, 0) = .ok (s', g') := by
  intro charger child s
  have hch : charger.Accounts UInt64.ofNat Prod.fst Prod.snd :=
    ⟨fun _ _ _ => rfl, fun _ _ _ => rfl, fun _ _ _ => rfl⟩
  have hdef : s.RebatesDefined := rebatesDefined_of_loaded (by decide)
  exact ⟨hch, rfl, hdef, (collectStorageAndRebate_checkSuiConserved (fun _ => 10) hch rfl hdef
    (0, 0)).imp fun _ h => h.imp fun _ h => h.1⟩

/-- In a system transaction, with the unmetered charger that returns `0` and only adds up
the old rebates, `collect_storage_and_rebate` and then `conserve_unmetered_storage_rebate`
of the rebate total do not panic when `0x5` is a mutable input that is modified and
written. The total is parked in the `0x5` object, and `check_sui_conserved` accepts the gas
summary of zeros: the rebate is neither lost nor counted twice. -/
theorem conserveUnmeteredStorageRebate_checkSuiConserved {rebate : σ → UInt64}
    (hzero : ∀ g size old, (charger.trackStorageMutation g size old).1 = 0)
    (hrebate : ∀ g size old,
      rebate (charger.trackStorageMutation g size old).2 = rebate g + old)
    {s : TemporaryStore} (hmut : suiSystemStateObjectId ∈ s.mutableInputRefs)
    (hmod : suiSystemStateObjectId ∈ s.executionResults.objectsModifiedAt)
    (hwritten : suiSystemStateObjectId ∈ s.executionResults.writtenObjects)
    (hdef : s.RebatesDefined) (g : σ) :
    ∃ s' g' s'', s.collectStorageAndRebate objectSizeForGasMetering charger g = .ok (s', g') ∧
      s'.conserveUnmeteredStorageRebate (rebate g' - rebate g) = .ok s'' ∧
      (s''.executionResults.writtenObjects.lookup suiSystemStateObjectId).map
        (·.storageRebate) = some (rebate g' - rebate g) ∧
      s''.checkSuiConserved true ⟨0, 0, 0, 0⟩ = .ok () := by
  have hch : charger.Accounts (fun _ => 0) (fun _ => 0) rebate :=
    ⟨hzero, fun _ _ _ => rfl, hrebate⟩
  obtain ⟨r, g', h, hM, hW, -, hreb⟩ :=
    collectStorageAndRebate_accounts objectSizeForGasMetering hch rfl hdef g
  set s' : TemporaryStore := { s with executionResults := r }
  have hamount : (rebate g' - rebate g).toNat = s.inputRebateSum % 2 ^ 64 :=
    UInt64.toNat_sub_of_add hreb
  refine ⟨s', g', ?_⟩
  generalize rebate g' - rebate g = amount at hamount ⊢
  have hin : s'.inputRebateSum = s.inputRebateSum := by
    rw [inputRebateSum, inputRebateSum, show s'.executionResults = r from rfl, hM]; rfl
  have hdef' : s'.RebatesDefined := fun id v d h => hdef id v d (hM ▸ h)
  have hzeroW : ∀ e ∈ r.writtenObjects.entries, e.2.storageRebate.toNat = 0 := by
    intro e he
    have := (hW e.1).symm.trans (AList.mem_lookup_iff.mpr he)
    obtain ⟨o, -, ho⟩ := Option.map_eq_some'.mp this
    rw [← ho]; rfl
  obtain ⟨w, hw⟩ := Option.isSome_iff_exists.mp (AList.lookup_isSome.mpr hwritten)
  have hw' : r.writtenObjects.lookup suiSystemStateObjectId =
      some { w with storageRebate := 0 } := by rw [hW, hw]; rfl
  by_cases h0 : amount = 0
  · subst h0
    obtain ⟨l, hl⟩ := getModifiedObjects_ok hdef'
    have hout : s'.outputRebateSum = 0 := ObjMap.sumBy_eq_zero hzeroW
    refine ⟨s', h, rfl, by rw [hw']; rfl, (checkSuiConserved_zero_iff hl).mpr ?_⟩
    rw [hin, hout, ← hamount]
    rfl
  · have hid : w.id = suiSystemStateObjectId := s.executionResults.written_keyed.id_eq hw
    obtain ⟨ref, href⟩ := Option.isSome_iff_exists.mp (AList.lookup_isSome.mpr hmut)
    have hmutate := @mutateInputObject_of_lookup s' { w with storageRebate := amount } ref
      (by rw [← href, ← hid])
    have hconserve := @conserveUnmeteredStorageRebate_of_read s' amount { w with storageRebate := 0 }
      h0 (by simp [readObject, s', hw']) rfl
    refine ⟨_, h, hconserve.trans hmutate, ?_⟩
    obtain ⟨hdef'', hin'', hout'', hlook⟩ := mutateInputObject_rebates hmutate
      (by show w.id ∈ r.objectsModifiedAt; rw [hM, hid]; exact hmod)
    refine ⟨by rw [← hid, hlook]; rfl, ?_⟩
    obtain ⟨l, hl⟩ := getModifiedObjects_ok (hdef'' hdef')
    have herase : ObjMap.sumBy (r.writtenObjects.erase w.id)
        (fun _ o => o.storageRebate.toNat) = 0 :=
      ObjMap.sumBy_eq_zero fun e he => hzeroW e (List.kerase_sublist _ _ |>.subset he)
    refine (checkSuiConserved_zero_iff hl).mpr ?_
    rw [hin'', hin, hout'', herase, Nat.add_zero, hamount, Nat.mod_mod]

theorem conserveUnmeteredStorageRebate_checkSuiConserved_system :
    let charger : GasCharger UInt64 := ⟨fun _ => none, fun _ => [], fun g _ old => (0, g + old)⟩
    let wrapper : Object := ⟨5, 4, 0, .shared 1, 0, 30, .move "SuiSystemState" []⟩
    ∃ s, (new .empty ⟨[(true, wrapper)]⟩ 0 ⟨0, 0, false⟩).mutateInputObject
        { wrapper with version := 5 } = .ok s ∧
      suiSystemStateObjectId ∈ s.mutableInputRefs ∧
      suiSystemStateObjectId ∈ s.executionResults.objectsModifiedAt ∧
      suiSystemStateObjectId ∈ s.executionResults.writtenObjects ∧ s.RebatesDefined ∧
      ∃ s' g' s'', s.collectStorageAndRebate (fun _ => 10) charger 0 = .ok (s', g') ∧
        s'.conserveUnmeteredStorageRebate (g' - 0) = .ok s'' ∧
        s''.checkSuiConserved true ⟨0, 0, 0, 0⟩ = .ok () := by
  intro charger wrapper
  refine ⟨_, rfl, by decide, by decide, by decide, rebatesDefined_of_loaded (by decide), ?_⟩
  exact (@conserveUnmeteredStorageRebate_checkSuiConserved (fun _ => 10) UInt64 charger id
    (fun _ _ _ => rfl) (fun _ _ _ => rfl) _ (by decide) (by decide) (by decide)
    (rebatesDefined_of_loaded (by decide)) 0).imp
      fun _ h => h.imp fun _ h => h.imp fun _ h => ⟨h.1, h.2.1, h.2.2.2⟩

end Charger

end TemporaryStore

end SuiTemporaryStore
