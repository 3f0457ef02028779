import EnergyQuery.Main
import EnergyQuery.Proofs.Panel.Expansion
import EnergyQuery.Proofs.Panel.Totality
import EnergyQuery.Proofs.Query.AlignedSum
import EnergyQuery.Proofs.Query.FreeText
import EnergyQuery.Proofs.Query.RunningAverage
import EnergyQuery.Proofs.Query.StagedTotals
import EnergyQuery.Proofs.Query.WindowTotals
import EnergyQuery.Proofs.Query.Refusals
import EnergyQuery.Proofs.Panel.Scans
import EnergyQuery.Proofs.Query.AlignedReadings
import EnergyQuery.Proofs.Panel.Lines
import EnergyQuery.Proofs.Panel.OutputColumns
import EnergyQuery.Proofs.Time.OnePass
import EnergyQuery.Proofs.Query.SingleDevice
import EnergyQuery.Proofs.Query.BucketTotals
import EnergyQuery.Proofs.Sql.Rendering
import EnergyQuery.Proofs.Query.CombinedColumns
import EnergyQuery.Proofs.Query.OutputSchema
import EnergyQuery.Proofs.Query.SourceOrder
import EnergyQuery.Proofs.Time.ReadBack
import EnergyQuery.Proofs.Config.Template
import EnergyQuery.Proofs.Query.Staging
import EnergyQuery.Proofs.Sql.Reading
import EnergyQuery.Proofs.Query.SignedTotals
import EnergyQuery.Proofs.Panel.RefId
import EnergyQuery.Proofs.Device.FirstFault
import EnergyQuery.Proofs.Query.ColumnOrigins
import EnergyQuery.Proofs.Query.DistinctNames
