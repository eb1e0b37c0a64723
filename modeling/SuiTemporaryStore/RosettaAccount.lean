import SuiTemporaryStore.Types

/-!
# Sub-account balances of the Rosetta account endpoint

`get_sub_account_balances` folds over the delegated stakes `get_stakes` returns, one loop
per kind of sub-account. The three loops differ only in the stakes they select and the
value they take from each: `Stake` takes the principal of active stakes, `PendingStake`
the principal of pending ones, `EstimatedReward` the estimated reward of active ones
(`subBalanceValue`). Whatever the stakes, the handler answers with exactly one amount: a
zero when no stake is selected, and otherwise one amount holding the sub-balance of every
selected stake, in the order of the delegations and of their stakes.
-/
namespace SuiTemporaryStore

namespace Rosetta

/-- Modelled from the spec: `StakeStatus` of the SDK's RPC types, with the estimated reward
an active stake carries. -/
inductive StakeStatus
  | pending
  | active (estimatedReward : UInt64)
  | unstaked

/-- Modelled from the spec: a stake of a `DelegatedStake`, with the fields the handler
reads. -/
structure Stake where
  stakedSuiId : ObjectID
  principal : UInt64
  status : StakeStatus

/-- Modelled from the spec: `DelegatedStake`, the stakes delegated to one validator. -/
structure DelegatedStake where
  validatorAddress : SuiAddress
  stakes : List Stake

/-- Modelled from the spec: the three kinds of sub-account of the Rosetta types. -/
inductive SubAccountType
  | stake
  | pendingStake
  | estimatedReward

/-- Modelled from the spec: a `SubBalance` of the Rosetta types, one per selected stake. -/
structure SubBalance where
  stakeId : ObjectID
  validator : SuiAddress
  value : Int
  deriving DecidableEq

/-- Modelled from the spec: the two constructors of the Rosetta `Amount` the handler
calls. -/
inductive Amount
  | new (value : Int)
  | newFromSubBalances (subBalances : List SubBalance)
  deriving DecidableEq

/-- What the loop of each kind of sub-account pushes for a stake: the value it takes, as
`i128`, if the stake has the kind's status. -/
def subBalanceValue : SubAccountType → Stake → Option Int
  | .stake, stake =>
    match stake.status with
    | .active _ => some stake.principal.toNat
    | _ => none
  | .pendingStake, stake =>
    match stake.status with
    | .pending => some stake.principal.toNat
    | _ => none
  | .estimatedReward, stake =>
    match stake.status with
    | .active estimatedReward => some estimatedReward.toNat
    | _ => none

/-- The body of the fold: push a sub-balance for every stake of `stakes` the kind
selects. -/
def pushSubBalances (accountType : SubAccountType) (amounts : List SubBalance)
    (stakes : DelegatedStake) : List SubBalance :=
  stakes.stakes.foldl (fun amounts stake =>
    match subBalanceValue accountType stake with
    | some value => amounts ++ [⟨stake.stakedSuiId, stakes.validatorAddress, value⟩]
    | none => amounts) amounts

/-- `get_sub_account_balances`, on the answer of `get_stakes`. -/
def getSubAccountBalances {ε : Type} (accountType : SubAccountType)
    (getStakes : Except ε (List DelegatedStake)) : Except ε (List Amount) := do
  let delegations ← getStakes
  let amounts := delegations.foldl (pushSubBalances accountType) []
  pure (if amounts.isEmpty then [.new 0] else [.newFromSubBalances amounts])

/-- The sub-balances of the stakes of one delegation that a kind of sub-account selects. -/
def selectedSubBalances (accountType : SubAccountType) (stakes : DelegatedStake) :
    List SubBalance :=
  stakes.stakes.filterMap fun stake =>
    (subBalanceValue accountType stake).map fun value =>
      ⟨stake.stakedSuiId, stakes.validatorAddress, value⟩

theorem pushSubBalances_eq (accountType : SubAccountType) (amounts : List SubBalance)
    (stakes : DelegatedStake) :
    pushSubBalances accountType amounts stakes =
      amounts ++ selectedSubBalances accountType stakes := by
  unfold pushSubBalances selectedSubBalances
  generalize stakes.stakes = l
  induction l generalizing amounts with
  | nil => simp
  | cons stake l ih =>
    rw [List.foldl_cons, ih, List.filterMap_cons]
    cases subBalanceValue accountType stake <;> simp

theorem foldl_pushSubBalances (accountType : SubAccountType) (amounts : List SubBalance)
    (delegations : List DelegatedStake) :
    delegations.foldl (pushSubBalances accountType) amounts =
      amounts ++ delegations.flatMap (selectedSubBalances accountType) := by
  induction delegations generalizing amounts with
  | nil => simp
  | cons stakes delegations ih =>
    rw [List.foldl_cons, ih, pushSubBalances_eq, List.flatMap_cons, List.append_assoc]

/-- `get_sub_account_balances` answers with exactly one amount: zero when no stake has
the kind's status, and otherwise the sub-balances of exactly the selected stakes, in order.
A failure of `get_stakes` is passed on. -/
theorem getSubAccountBalances_eq {ε : Type} (accountType : SubAccountType)
    (getStakes : Except ε (List DelegatedStake)) :
    getSubAccountBalances accountType getStakes = getStakes.map fun delegations =>
      if delegations.all fun stakes =>
          stakes.stakes.all fun stake => (subBalanceValue accountType stake).isNone
        then [.new 0]
        else [.newFromSubBalances (delegations.flatMap (selectedSubBalances accountType))] := by
  cases getStakes with
  | error e => rfl
  | ok delegations =>
    have hempty : (delegations.flatMap (selectedSubBalances accountType)).isEmpty =
        delegations.all fun stakes =>
          stakes.stakes.all fun stake => (subBalanceValue accountType stake).isNone := by
      rw [Bool.eq_iff_iff, List.isEmpty_eq_true, List.flatMap_eq_nil_iff, List.all_eq_true]
      simp only [selectedSubBalances, List.filterMap_eq_nil_iff, Option.map_eq_none',
        List.all_eq_true, Option.isNone_iff_eq_none]
    simp only [getSubAccountBalances, bind, Except.bind, pure, Except.pure, Except.map,
      foldl_pushSubBalances, List.nil_append, hempty]

end Rosetta

end SuiTemporaryStore
