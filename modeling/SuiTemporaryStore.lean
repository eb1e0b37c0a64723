import SuiTemporaryStore.Types
import SuiTemporaryStore.ExecutionResults
import SuiTemporaryStore.Store
import SuiTemporaryStore.LoadedChildren
import SuiTemporaryStore.ActiveInputs
import SuiTemporaryStore.StorageRebate
import SuiTemporaryStore.ModifiedObjects
import SuiTemporaryStore.Conservation
import SuiTemporaryStore.RebateAccounting
import SuiTemporaryStore.ExpensiveConservation
import SuiTemporaryStore.Runs
import SuiTemporaryStore.Ownership
import SuiTemporaryStore.OwnershipWorklist
import SuiTemporaryStore.OwnershipAuthentication
import SuiTemporaryStore.Resolvers
import SuiTemporaryStore.RosettaAccount
import SuiTemporaryStore.Finalize
import SuiTemporaryStore.Transaction
import SuiTemporaryStore.Effects
