import SuiTemporaryStore.Conservation

/-!
# The expensive conservation check

`check_sui_conserved_expensive` walks the same stream as `check_sui_conserved`, but sums
the whole SUI of each pre-image and post-image, coins included, as a layout resolver
reads it. It adds the computation cost and the non-refundable fee to the output side,
and the epoch's fees and rebates when the transaction changes the epoch. The sums are
`u64` additions, which wrap in a release build.
-/
namespace SuiTemporaryStore

/-- `obj.struct_tag()` as `{:?}` prints it: the type of a Move object, `None` for a
package. -/
def Object.structTagText (o : Object) : String :=
  match o.data with
  | .move type _ => s!"Some({type})"
  | .package _ => "None"

namespace TemporaryStore

variable (getTotalSui : Object → Except String UInt64)

/-- `get_input_sui`: the SUI of the pre-image of `id` at the recorded version, the input
object or else the store's object at that version, as `getTotalSui`, the layout
resolver, reads it. -/
def getInputSui (s : TemporaryStore) (id : ObjectID) (expectedVersion : SequenceNumber) :
    Except Failure UInt64 :=
  match s.inputObjects.lookup id with
  | some obj =>
    let version := obj.version
    let structTag := obj.structTagText
    if version ≠ expectedVersion then
      .error (.invariantViolation (s!"Version mismatching when resolving input object to " ++
        s!"check conservation--expected {expectedVersion}, got {version}"))
    else
      match getTotalSui obj with
      | .ok sui => .ok sui
      | .error e => .error (.invariantViolation (s!"Failed looking up input SUI in SUI " ++
          s!"conservation checking for input with type {structTag}: {e}"))
  | none =>
    match s.store.getObjectByKey id expectedVersion with
    | none => .error (.invariantViolation
        s!"Failed looking up dynamic field {id} in SUI conservation checking")
    | some obj =>
      let structTag := obj.structTagText
      match getTotalSui obj with
      | .ok sui => .ok sui
      | .error e => .error (.invariantViolation (s!"Failed looking up input SUI in SUI " ++
          s!"conservation checking for type {structTag}: {e}"))

/-- One iteration of the loop of `check_sui_conserved_expensive`. -/
def addSui (s : TemporaryStore) (totals : UInt64 × UInt64) (modified : ModifiedObjectInfo) :
    Except Failure (UInt64 × UInt64) :=
  (match modified.2.1 with
    | some (version, _) => (totals.1 + ·) <$> s.getInputSui getTotalSui modified.1 version
    | none => pure totals.1) >>= fun totalInputSui =>
  (match modified.2.2 with
    | some object =>
      let structTag := object.structTagText
      match getTotalSui object with
      | .ok sui => pure (totals.2 + sui)
      | .error e => .error (.invariantViolation (s!"Failed looking up output SUI in SUI " ++
          s!"conservation checking for mutated type {structTag}: {e}"))
    | none => pure totals.2) >>= fun totalOutputSui =>
  pure (totalInputSui, totalOutputSui)

/-- `check_sui_conserved_expensive`. -/
def checkSuiConservedExpensive (s : TemporaryStore) (gasSummary : GasCostSummary)
    (advanceEpochGasSummary : Option (UInt64 × UInt64)) : Except Failure Unit := do
  let modified ← s.getModifiedObjects
  let totals ← modified.foldlM (s.addSui getTotalSui) (0, 0)
  let totalOutputSui :=
    totals.2 + (gasSummary.computationCost + gasSummary.nonRefundableStorageFee)
  let (totalInputSui, totalOutputSui) := match advanceEpochGasSummary with
    | some (epochFees, epochRebates) => (totals.1 + epochFees, totalOutputSui + epochRebates)
    | none => (totals.1, totalOutputSui)
  if totalInputSui ≠ totalOutputSui then
    .error (.invariantViolation (s!"SUI conservation failed: input={totalInputSui}, " ++
      s!"output={totalOutputSui}, this transaction either mints or burns SUI"))
  else .ok ()

/-- The SUI of the pre-images of `objects_modified_at`, summed in unbounded arithmetic; an
object the resolver cannot read counts `0`. -/
def inputSuiSum (s : TemporaryStore) : Nat :=
  s.executionResults.objectsModifiedAt.sumBy fun id vd =>
    toNatOrZero (s.getInputSui getTotalSui id vd.1)

/-- The SUI of `written_objects`, summed in unbounded arithmetic. -/
def outputSuiSum (s : TemporaryStore) : Nat :=
  s.executionResults.writtenObjects.sumBy fun _ o => toNatOrZero (getTotalSui o)

theorem addSui_ok {s : TemporaryStore} {totals t : UInt64 × UInt64} {b : ModifiedObjectInfo}
    (h : s.addSui getTotalSui totals b = .ok t) :
    t.1.toNat = (totals.1.toNat + (b.2.1.map fun input =>
      toNatOrZero (s.getInputSui getTotalSui b.1 input.1)).getD 0) % 2 ^ 64 ∧
    t.2.toNat = (totals.2.toNat + (b.2.2.map fun o =>
      toNatOrZero (getTotalSui o)).getD 0) % 2 ^ 64 := by
  obtain ⟨id, input, output⟩ := b
  obtain ⟨i, hi, h⟩ := bind_eq_ok.mp h
  obtain ⟨o, ho, h⟩ := bind_eq_ok.mp h
  cases h
  constructor
  · rcases input with _ | ⟨v, r⟩
    · cases hi
      exact (Nat.mod_eq_of_lt (UInt64.toNat_lt_two_pow _)).symm
    · obtain ⟨sui, hsui, hi⟩ := bind_eq_ok.mp hi
      cases hi
      simp only [hsui, toNatOrZero, Option.map_some', Option.getD_some, UInt64.toNat_add_wrap]
  · rcases output with _ | obj
    · cases ho
      exact (Nat.mod_eq_of_lt (UInt64.toNat_lt_two_pow _)).symm
    · cases hsui : getTotalSui obj with
      | error e => simp only [hsui] at ho; cases ho
      | ok sui =>
        simp only [hsui] at ho
        cases ho
        simp only [hsui, toNatOrZero, Option.map_some', Option.getD_some, UInt64.toNat_add_wrap]

/-- When the loop of `check_sui_conserved_expensive` ends, its totals are the unbounded
sums of the SUI of the stream's inputs and outputs, wrapped to `u64`. -/
theorem foldlM_addSui {s : TemporaryStore} (l : List ModifiedObjectInfo)
    {totals t : UInt64 × UInt64} (h : l.foldlM (s.addSui getTotalSui) totals = .ok t) :
    t.1.toNat = (totals.1.toNat + (l.map fun b => (b.2.1.map fun input =>
      toNatOrZero (s.getInputSui getTotalSui b.1 input.1)).getD 0).sum) % 2 ^ 64 ∧
    t.2.toNat = (totals.2.toNat + (l.map fun b => (b.2.2.map fun o =>
      toNatOrZero (getTotalSui o)).getD 0).sum) % 2 ^ 64 := by
  induction l generalizing totals with
  | nil =>
    cases h
    exact ⟨(Nat.mod_eq_of_lt (UInt64.toNat_lt_two_pow _)).symm,
      (Nat.mod_eq_of_lt (UInt64.toNat_lt_two_pow _)).symm⟩
  | cons b l ih =>
    rw [List.foldlM_cons] at h
    obtain ⟨t', ht', h⟩ := bind_eq_ok.mp h
    obtain ⟨h₁, h₂⟩ := addSui_ok getTotalSui ht'
    obtain ⟨h₃, h₄⟩ := ih h
    simp only [List.map_cons, List.sum_cons, h₃, h₄, h₁, h₂, Nat.mod_add_mod, Nat.add_assoc,
      and_self]

/-- Two inputs deleted whose SUI, here their storage rebate alone, adds up to `2^64`: the
`u64` input total wraps to `0`, and the check accepts a transaction that burns it all. -/
theorem checkSuiConservedExpensive_accepts_wrapped_sui :
    let o₁ : Object := ⟨1, 3, 0, .addressOwner 9, 0, 9223372036854775808, .move "coin" []⟩
    let o₂ : Object := ⟨2, 3, 0, .addressOwner 9, 0, 9223372036854775808, .move "coin" []⟩
    let getTotalSui : Object → Except String UInt64 := fun o => .ok o.storageRebate
    let gs : GasCostSummary := ⟨0, 0, 0, 0⟩
    ∃ s, ((new .empty ⟨[(true, o₁), (true, o₂)]⟩ 0 ⟨0, 0, false⟩).deleteInputObject 1 >>=
        fun s => s.deleteInputObject 2) = .ok s ∧
      s.checkSuiConservedExpensive getTotalSui gs none = .ok () ∧
      s.inputSuiSum getTotalSui ≠ s.outputSuiSum getTotalSui + gs.computationCost.toNat +
        gs.nonRefundableStorageFee.toNat :=
  ⟨_, rfl, rfl, by decide⟩

/-- As long as neither side of the balance reaches `2^64`, a transaction the expensive
check accepts neither mints nor burns SUI: the SUI of the pre-images and the epoch's fees
equal the SUI of the post-images, the computation cost, the non-refundable fee and the
epoch's rebates. -/
theorem checkSuiConservedExpensive_balances {s : TemporaryStore} {gs : GasCostSummary}
    {advanceEpochGasSummary : Option (UInt64 × UInt64)}
    (hin : s.inputSuiSum getTotalSui +
      (advanceEpochGasSummary.map (·.1.toNat)).getD 0 < 2 ^ 64)
    (hout : s.outputSuiSum getTotalSui + gs.computationCost.toNat +
      gs.nonRefundableStorageFee.toNat + (advanceEpochGasSummary.map (·.2.toNat)).getD 0 <
        2 ^ 64)
    (h : s.checkSuiConservedExpensive getTotalSui gs advanceEpochGasSummary = .ok ()) :
    s.inputSuiSum getTotalSui + (advanceEpochGasSummary.map (·.1.toNat)).getD 0 =
      s.outputSuiSum getTotalSui + gs.computationCost.toNat +
        gs.nonRefundableStorageFee.toNat + (advanceEpochGasSummary.map (·.2.toNat)).getD 0 := by
  obtain ⟨l, hl, h⟩ := bind_eq_ok.mp h
  obtain ⟨t, ht, h⟩ := bind_eq_ok.mp h
  have hsums := getModifiedObjects_sums hl
    (fun id input => toNatOrZero (s.getInputSui getTotalSui id input.1))
    (fun id v => toNatOrZero (s.getInputSui getTotalSui id v)) (fun _ _ _ _ => rfl)
    fun o => toNatOrZero (getTotalSui o)
  have hi : t.1.toNat = s.inputSuiSum getTotalSui % 2 ^ 64 := by
    rw [(foldlM_addSui getTotalSui l ht).1, hsums.1]; simp [inputSuiSum]
  have ho : t.2.toNat = s.outputSuiSum getTotalSui % 2 ^ 64 := by
    rw [(foldlM_addSui getTotalSui l ht).2, hsums.2]; simp [outputSuiSum]
  have hc := UInt64.toNat_lt_two_pow gs.computationCost
  have hn := UInt64.toNat_lt_two_pow gs.nonRefundableStorageFee
  rcases advanceEpochGasSummary with _ | ⟨fees, rebates⟩
  · have heq : t.1 = t.2 + (gs.computationCost + gs.nonRefundableStorageFee) := by
      by_contra hne
      simp [hne] at h
    have := congrArg UInt64.toNat heq
    simp only [UInt64.toNat_add_wrap, hi, ho, Option.map_none', Option.getD_none,
      Nat.mod_add_mod, Nat.add_mod_mod] at this hin hout ⊢
    omega
  · have heq : t.1 + fees = t.2 + (gs.computationCost + gs.nonRefundableStorageFee) + rebates := by
      by_contra hne
      simp [hne] at h
    have := congrArg UInt64.toNat heq
    have hf := UInt64.toNat_lt_two_pow fees
    have hr := UInt64.toNat_lt_two_pow rebates
    simp only [UInt64.toNat_add_wrap, hi, ho, Option.map_some', Option.getD_some,
      Nat.mod_add_mod, Nat.add_mod_mod] at this hin hout ⊢
    omega

theorem checkSuiConservedExpensive_balances_deletion :
    let o₁ : Object := ⟨1, 3, 0, .addressOwner 9, 0, 100, .move "coin" []⟩
    let getTotalSui : Object → Except String UInt64 := fun o => .ok (o.storageRebate + 50)
    let gs : GasCostSummary := ⟨140, 0, 0, 10⟩
    ∃ s, (new .empty ⟨[(true, o₁)]⟩ 0 ⟨0, 0, false⟩).deleteInputObject 1 = .ok s ∧
      s.inputSuiSum getTotalSui + 0 < 2 ^ 64 ∧
      s.outputSuiSum getTotalSui + gs.computationCost.toNat +
        gs.nonRefundableStorageFee.toNat + 0 < 2 ^ 64 ∧
      s.checkSuiConservedExpensive getTotalSui gs none = .ok () ∧
      s.inputSuiSum getTotalSui + 0 = s.outputSuiSum getTotalSui + gs.computationCost.toNat +
        gs.nonRefundableStorageFee.toNat + 0 := by
  intro o₁ getTotalSui gs
  refine ⟨_, rfl, ?_⟩
  exact ⟨by decide, by decide, rfl,
    @checkSuiConservedExpensive_balances getTotalSui _ gs none (by decide) (by decide) rfl⟩

end TemporaryStore

end SuiTemporaryStore
