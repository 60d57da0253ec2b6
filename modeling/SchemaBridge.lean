import SchemaBridge.Conversion
import SchemaBridge.Json.Reader
import SchemaBridge.Main
import SchemaBridge.Session
import SchemaBridge.Wire.Error
import SchemaBridge.Wire.Parquet
import SchemaBridge.Wire.Settings
import SchemaBridge.Wire.Source
import SchemaBridge.Proofs.DataType.WellFormed
import SchemaBridge.Proofs.DataType.Widening
import SchemaBridge.Proofs.DataType.Record
import SchemaBridge.Proofs.Hive.Scanning
import SchemaBridge.Proofs.Text.Numeral
import SchemaBridge.Proofs.Hive.Grammar
import SchemaBridge.Proofs.Hive.Reading
import SchemaBridge.Proofs.Hive.Recognition
import SchemaBridge.Proofs.Hive.RoundTrip
import SchemaBridge.Proofs.Source.Import
import SchemaBridge.Proofs.Hive.Column
import SchemaBridge.Proofs.Wire.DataType
import SchemaBridge.Proofs.Catalog
import SchemaBridge.Proofs.Hive.NormalForm
import SchemaBridge.Proofs.Source.Places
import SchemaBridge.Proofs.Source.Structure
import SchemaBridge.Proofs.Source.Refinement
import SchemaBridge.Proofs.Parquet.Older
import SchemaBridge.Proofs.Policy
import SchemaBridge.Proofs.Wire.RoundTrip
import SchemaBridge.Proofs.Hive.Offender
import SchemaBridge.Proofs.PowersOfTen
import SchemaBridge.Proofs.Source.Capacity
import SchemaBridge.Proofs.Source.Layouts
import SchemaBridge.Proofs.Source.Blame
import SchemaBridge.Proofs.Hive.Stopping
import SchemaBridge.Proofs.Hive.FirstOffence
import SchemaBridge.Proofs.Hive.Casing
import SchemaBridge.Proofs.Hive.Joining
import SchemaBridge.Proofs.Hive.Assembly
import SchemaBridge.Proofs.Hive.Layout
import SchemaBridge.Proofs.Json.Printing
import SchemaBridge.Proofs.Command
