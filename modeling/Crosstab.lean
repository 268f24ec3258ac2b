import Crosstab.Build
import Crosstab.CommandLine
import Crosstab.Main
import Crosstab.Proofs.Acceptance
import Crosstab.Proofs.BlockDelimiter
import Crosstab.Proofs.ClosedScript
import Crosstab.Proofs.DatasetGroups
import Crosstab.Proofs.MySqlGroups
import Crosstab.Proofs.PivotClauses
import Crosstab.Proofs.PivotColumns
import Crosstab.Proofs.PivotedRows
import Crosstab.Proofs.PlainOrder
import Crosstab.Proofs.PredicateGroups
import Crosstab.Proofs.RankingCap
import Crosstab.Proofs.SlotOrder
import Crosstab.Proofs.StoredRequests
import Crosstab.Proofs.TargetAgreement
import Crosstab.Registry
import Crosstab.Settings
import Crosstab.Proofs.References
import Crosstab.Proofs.NamesReadBack
import Crosstab.Proofs.ComputedColumns
import Crosstab.Proofs.RowCounts
import Crosstab.Proofs.DistinctCounts
import Crosstab.Proofs.ComparisonReach
import Crosstab.Proofs.LoadedDirectories
import Crosstab.Proofs.SpelledDirectories
import Crosstab.Proofs.CutsInRange
import Crosstab.Proofs.UsableSettings
import Crosstab.Proofs.DatasetReads
