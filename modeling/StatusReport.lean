import StatusReport.Main
import StatusReport.Proofs.Alignment.Bounds
import StatusReport.Proofs.Alignment.FlushPoints
import StatusReport.Proofs.Command.CheckPrediction
import StatusReport.Proofs.Command.CheckedFormats
import StatusReport.Proofs.Command.PartialOutput
import StatusReport.Proofs.Extraction
import StatusReport.Proofs.Formatter.ByteSize
import StatusReport.Proofs.Formatter.Duration
import StatusReport.Proofs.Formatter.SizeOrder
import StatusReport.Proofs.Layout.Meaning
import StatusReport.Proofs.Layout.RoundTrip
import StatusReport.Proofs.Numbering
import StatusReport.Proofs.Report.Addresses
import StatusReport.Proofs.Report.Agreement
import StatusReport.Proofs.Report.BoxedRecord
import StatusReport.Proofs.Report.ConcreteValues
import StatusReport.Proofs.Report.DefaultText
import StatusReport.Proofs.Report.FlattenGroup
import StatusReport.Proofs.Report.Grid
import StatusReport.Proofs.Report.GroupNames
import StatusReport.Proofs.Report.HiddenData
import StatusReport.Proofs.Report.ListingRun
import StatusReport.Proofs.Report.Refusal
import StatusReport.Proofs.Report.SchemaErrors
import StatusReport.Proofs.Report.Selection
import StatusReport.Proofs.Report.ShownColumns
import StatusReport.Proofs.Report.TableRun
import StatusReport.Proofs.Report.Truncation
import StatusReport.Proofs.Settings.AliasMeaning
import StatusReport.Proofs.Settings.Precedence
import StatusReport.Proofs.Text.Colour
import StatusReport.Proofs.Visibility
