import AcpiTables.Main
import AcpiTables.Description
import AcpiTables.Field.Build
import AcpiTables.GenericAddress
import AcpiTables.Proofs.Reports
import AcpiTables.Proofs.Inherited
import AcpiTables.Proofs.Layout
import AcpiTables.Proofs.Drift
import AcpiTables.Proofs.Framing
import AcpiTables.Proofs.Counting
import AcpiTables.Proofs.Tallies
import AcpiTables.Proofs.WholeRecords
import AcpiTables.Proofs.InterruptVerdict
import AcpiTables.Proofs.CensusTallies
import AcpiTables.Proofs.TopologyVerdict
import AcpiTables.Proofs.CleanText
import AcpiTables.Proofs.Orderly
import AcpiTables.Proofs.OrderlyTables
import AcpiTables.Proofs.Additivity
import AcpiTables.Proofs.FixedPart
import AcpiTables.Proofs.EscapeCharacters
import AcpiTables.Proofs.Composition
import AcpiTables.Proofs.Messages
import AcpiTables.Proofs.DeclaredLength
import AcpiTables.Proofs.SeparateRuns
import AcpiTables.Proofs.Highlighting
import AcpiTables.Proofs.Geometry
import AcpiTables.Proofs.Outcomes
import AcpiTables.Proofs.Steps
import AcpiTables.Proofs.FieldLists
import AcpiTables.Proofs.Truncation
import AcpiTables.Proofs.PrivateResources
import AcpiTables.Proofs.Breakdown
import AcpiTables.Proofs.HeadBytes
import AcpiTables.Proofs.Reordering
import AcpiTables.Proofs.DumpLayout
import AcpiTables.Proofs.HeaderMembers
import AcpiTables.Proofs.Numerals
import AcpiTables.Proofs.Alignment
import AcpiTables.Proofs.LimitedOutput
import AcpiTables.Proofs.Ledgers
import AcpiTables.Proofs.Seals
import AcpiTables.Proofs.Scripts
import AcpiTables.Proofs.BuildChains
import AcpiTables.Proofs.ShownBytes
import AcpiTables.Proofs.Reads
