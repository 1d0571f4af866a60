import BoundaryContract.Abi.Program
import BoundaryContract.Boundary.Faulty
import BoundaryContract.Client.Native
import BoundaryContract.Main
import BoundaryContract.Proofs.Abi.Execution
import BoundaryContract.Proofs.Abi.Failures
import BoundaryContract.Proofs.Abi.Ledger
import BoundaryContract.Proofs.Client.Refinement
import BoundaryContract.Proofs.Suite.Detection
import BoundaryContract.Proofs.Table
import BoundaryContract.Proofs.Boundary.Simulation
import BoundaryContract.Proofs.Dispatch
import BoundaryContract.Proofs.Suite.Agreement
import BoundaryContract.Proofs.Suite.Shape
import BoundaryContract.Proofs.Text.WellFormed
import BoundaryContract.Proofs.Boundary.Texts
import BoundaryContract.Proofs.Json.Accepted
import BoundaryContract.Proofs.Abi.Faults
import BoundaryContract.Proofs.Abi.LastError
import BoundaryContract.Proofs.Json.Content
import BoundaryContract.Proofs.Json.Layout
import BoundaryContract.Proofs.Json.Scalar
import BoundaryContract.Proofs.Json.RoundTrip
import BoundaryContract.Proofs.Marshal
import BoundaryContract.Proofs.Json.Closing
import BoundaryContract.Proofs.Json.Nesting
import BoundaryContract.Proofs.Tagged
import BoundaryContract.Console.Script
import BoundaryContract.Proofs.Console
import BoundaryContract.Proofs.Call.Literals
import BoundaryContract.Proofs.Call.Output
import BoundaryContract.Proofs.Yaml.Cursor
import BoundaryContract.Proofs.Yaml.Plain
import BoundaryContract.Proofs.Yaml.Quoted
import BoundaryContract.Proofs.Yaml.Literal
import BoundaryContract.Proofs.Yaml.Lexer
import BoundaryContract.Proofs.Yaml.Entry
import BoundaryContract.Proofs.Yaml.Outline
import BoundaryContract.Proofs.Yaml.Node
import BoundaryContract.Proofs.Document
import BoundaryContract.Proofs.Config
import BoundaryContract.Proofs.FileSystem
import BoundaryContract.Proofs.Config.File
import BoundaryContract.Proofs.Call.Arguments
import BoundaryContract.Proofs.Text.LineFeeds
import BoundaryContract.Proofs.Yaml.Seam
import BoundaryContract.Proofs.Yaml.ScalarText
import BoundaryContract.Proofs.Yaml.Parts
import BoundaryContract.Proofs.Yaml.NodeText
import BoundaryContract.Proofs.Yaml.NumberText
import BoundaryContract.Proofs.Json.Unambiguous
import BoundaryContract.Proofs.Yaml.Converted
import BoundaryContract.Proofs.Console.Lossless
import BoundaryContract.Proofs.Reading
import BoundaryContract.Proofs.Reading.Plain
import BoundaryContract.Proofs.Reading.Marshal
import BoundaryContract.Proofs.Reading.Shown
import BoundaryContract.Proofs.Console.Report
import BoundaryContract.Proofs.Document.Content
import BoundaryContract.Proofs.FileSystem.Plain
import BoundaryContract.Proofs.Config.Init
import BoundaryContract.Proofs.Config.Source
import BoundaryContract.Proofs.Config.Overlay
import BoundaryContract.Proofs.Config.Partial
import BoundaryContract.Text.Lowercase
import BoundaryContract.Proofs.Text.Lowercase
import BoundaryContract.Proofs.Logging
import BoundaryContract.Proofs.Console.Columns
import BoundaryContract.Proofs.Text.Delimited
import BoundaryContract.Proofs.Display
import BoundaryContract.Proofs.Mismatch
