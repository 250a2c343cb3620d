import Spreadsheet.Main
import Spreadsheet.Proofs.Evaluation.Success
import Spreadsheet.Proofs.Workbook.History
import Spreadsheet.Proofs.Sheet.Names
import Spreadsheet.Proofs.Recalculation.Dependents
import Spreadsheet.Proofs.Sheet.Indices
import Spreadsheet.Proofs.Sheet.Lines
import Spreadsheet.Proofs.Sheet.Operations
import Spreadsheet.Proofs.Evaluation.Noted
import Spreadsheet.Proofs.Formula.ReferenceNames
import Spreadsheet.Proofs.Workbook.Graph
import Spreadsheet.Proofs.Formula.Grammar
import Spreadsheet.Proofs.Formula.Sound
import Spreadsheet.Proofs.Formula.Complete
import Spreadsheet.Proofs.Formula.Spelling
import Spreadsheet.Proofs.Formula.Texts
import Spreadsheet.Proofs.Formula.Cuts
import Spreadsheet.Proofs.Formula.Respelled
import Spreadsheet.Proofs.Evaluation.Respelled
import Spreadsheet.Proofs.Recalculation.Respelled
import Spreadsheet.Proofs.Json.Symbols
import Spreadsheet.Proofs.Json.Documents
import Spreadsheet.Proofs.Storage.FileSystem
import Spreadsheet.Proofs.Recalculation.Alike
import Spreadsheet.Proofs.Storage.Captured
import Spreadsheet.Proofs.Storage.Exact
import Spreadsheet.Proofs.Console.Commands
import Spreadsheet.Proofs.Console.SaveAndLoad
import Spreadsheet.Proofs.Evaluation.Extension
import Spreadsheet.Proofs.Workbook.Contents
import Spreadsheet.Proofs.Workbook.LastLine
import Spreadsheet.Proofs.Storage.Tables
import Spreadsheet.Proofs.Storage.Imported
import Spreadsheet.Proofs.Console.Modified
import Spreadsheet.Proofs.Console.SizeLimit
import Spreadsheet.Proofs.Evaluation.Failure
import Spreadsheet.Proofs.Recalculation.Reached
import Spreadsheet.Proofs.Evaluation.Discipline
import Spreadsheet.Proofs.Evaluation.Decided
import Spreadsheet.Proofs.Recalculation.Wording
import Spreadsheet.Proofs.Sheet.Shifts
import Spreadsheet.Proofs.Sheet.Spellings
import Spreadsheet.Proofs.Formula.Completion
import Spreadsheet.Proofs.Formula.Earliest
import Spreadsheet.Proofs.Sheet.Resolved
import Spreadsheet.Proofs.Console.Failures
import Spreadsheet.Proofs.Formula.Items
import Spreadsheet.Proofs.Formula.Segments
import Spreadsheet.Proofs.Evaluation.Numerals
import Spreadsheet.Proofs.Text.Blanks
import Spreadsheet.Proofs.Console.Fields
import Spreadsheet.Proofs.Console.Columns
import Spreadsheet.Registry.Basic
import Spreadsheet.Registry.Structure
import Spreadsheet.Registry.Presented
import Spreadsheet.Registry.Ledger
import Spreadsheet.Proofs.Registry.Represented
import Spreadsheet.Proofs.Registry.Loops
import Spreadsheet.Proofs.Registry.Edits
import Spreadsheet.Proofs.Registry.Operations
import Spreadsheet.Proofs.Registry.Shifts
import Spreadsheet.Proofs.Registry.Requests
import Spreadsheet.Proofs.Registry.LastLine
