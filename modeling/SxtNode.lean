import SxtNode.Lib.Bounded
import SxtNode.Lib.IndexMap
import SxtNode.Lib.Int64Range
import SxtNode.Lib.StorageMap
import SxtNode.Lib.Transition
import SxtNode.Model.Core
import SxtNode.Model.CommitmentMap
import SxtNode.Model.Sql
import SxtNode.Model.OnChainTable
import SxtNode.Model.Arrow
import SxtNode.Model.IndexingTypes
import SxtNode.Model.AttestationTypes
import SxtNode.Model.CommitmentSql
import SxtNode.Model.Commitments
import SxtNode.Model.Runtime
import SxtNode.Model.Indexing
import SxtNode.Model.Tables
import SxtNode.Model.SmartContracts
import SxtNode.Model.Attestation
import SxtNode.Analysis.IndexingVotes
import SxtNode.Analysis.IndexingFinality
import SxtNode.Analysis.TableRegistry
import SxtNode.Analysis.ArrowConversion
import SxtNode.Analysis.CreateTableValidation
import SxtNode.Analysis.Attestations
import SxtNode.Analysis.CommitmentMapRefinement
import SxtNode.Analysis.RowNumbering
import SxtNode.Lib.StorageKey
import SxtNode.Model.AttestationTree
import SxtNode.Analysis.AttestationTree
import SxtNode.Analysis.ContractRemoval
import SxtNode.Model.Watcher
import SxtNode.Analysis.WatcherVerification
import SxtNode.Lib.SortDedup
import SxtNode.Model.UuidOptions
import SxtNode.Analysis.UuidOptions
import SxtNode.Model.SystemTables
import SxtNode.Analysis.StakingMirror
import SxtNode.Lib.Hex
import SxtNode.Analysis.MessageNonces
import SxtNode.Lib.Saturating
import SxtNode.Model.Rewards
import SxtNode.Analysis.RewardPayouts
import SxtNode.Lib.LeBytes
import SxtNode.Lib.SignedWord
import SxtNode.Model.ScalarConversion
import SxtNode.Analysis.ScalarConversion
import SxtNode.Analysis.ArrowRoundTrip
import SxtNode.Lib.Authority
import SxtNode.Model.Permissions
import SxtNode.Analysis.PermissionGrants
import SxtNode.Model.Dispatch
import SxtNode.Analysis.RuntimePermissions
import SxtNode.Analysis.CommitmentQueries
import SxtNode.Analysis.CommitmentLifecycle
import SxtNode.Lib.TextSearch
import SxtNode.Model.DdlText
import SxtNode.Analysis.DdlText
import SxtNode.Analysis.InsertColumns
