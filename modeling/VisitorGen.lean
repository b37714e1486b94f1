import VisitorGen.Main
import VisitorGen.Regex.Cursor
import VisitorGen.Regex.Escape
import VisitorGen.Regex.Class
import VisitorGen.Regex.Property
import VisitorGen.Regex.Reader
import VisitorGen.Text.Fold
import VisitorGen.Regex.Basic
import VisitorGen.Proofs.Declaration.Brackets
import VisitorGen.Proofs.Declaration.Parts
import VisitorGen.Proofs.Declaration.Separator
import VisitorGen.Proofs.Declaration.LoneColon
import VisitorGen.Proofs.Declaration.PaddedLine
import VisitorGen.Proofs.Declaration.RoundTrip
import VisitorGen.Proofs.Declaration.Bracketing
import VisitorGen.Proofs.Batch
import VisitorGen.Proofs.FileTree.Growth
import VisitorGen.Proofs.Target.FileName
import VisitorGen.Proofs.Outlet.Directory
import VisitorGen.Proofs.Outlet.KeptFiles
import VisitorGen.Proofs.Layout
import VisitorGen.Proofs.Declaration.Families
import VisitorGen.Proofs.Text.SnakeCase
import VisitorGen.Proofs.Target.MethodNames
import VisitorGen.Proofs.Target.Rows
import VisitorGen.Proofs.Target.RowWords
import VisitorGen.Proofs.Target.VisitorLines
import VisitorGen.Proofs.Target.Decoding
import VisitorGen.Proofs.Layout.Shift
import VisitorGen.Proofs.Layout.Nesting
import VisitorGen.Proofs.Target.Nesting
import VisitorGen.Proofs.Target.Levels
import VisitorGen.Proofs.Declaration.Lines
import VisitorGen.Proofs.Target.Check
import VisitorGen.Proofs.Target.Acceptance
import VisitorGen.Proofs.Table.Load
import VisitorGen.Proofs.CommandLine.ExitCode
import VisitorGen.Proofs.FileTree.Ancestors
import VisitorGen.Proofs.FileTree.Making
import VisitorGen.Proofs.Outlet.Slot
import VisitorGen.Proofs.Outlet.Order
import VisitorGen.Proofs.FileTree.Additions
import VisitorGen.Proofs.Outlet.Sequence
import VisitorGen.Proofs.Outlet.Frame
import VisitorGen.Proofs.CommandLine.Destinations
import VisitorGen.Proofs.Json.Document
import VisitorGen.Proofs.Json.Merge
import VisitorGen.Proofs.Table.Definitions
import VisitorGen.Proofs.FileTree.PathOrder
import VisitorGen.Proofs.First
import VisitorGen.Proofs.Json.Tables
import VisitorGen.Proofs.Table.ReadingOrder
import VisitorGen.Proofs.CommandLine.Loading
import VisitorGen.Proofs.Target.DeclaredNames
import VisitorGen.Proofs.Target.LegalNames
import VisitorGen.Proofs.Target.Members
import VisitorGen.Proofs.Text.WordMarks
import VisitorGen.Proofs.Target.CamelNames
import VisitorGen.Proofs.Target.FieldNames
import VisitorGen.Proofs.Target.TypeScopes
