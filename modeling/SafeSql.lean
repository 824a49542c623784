import SafeSql.CommandLine
import SafeSql.Main
import SafeSql.Whitelist
import SafeSql.Proofs.Results
import SafeSql.Proofs.Actions
import SafeSql.Proofs.Client.Attempts
import SafeSql.Proofs.Agreement
import SafeSql.Proofs.Reports
import SafeSql.Proofs.Client.Calls
import SafeSql.Proofs.Client.Connection
import SafeSql.Proofs.Client.Failures
import SafeSql.Proofs.Database.Creation
import SafeSql.Proofs.Database.Execution
import SafeSql.Proofs.Database.Calls
import SafeSql.Proofs.Database.Recording
import SafeSql.Proofs.Database.Entries
import SafeSql.Proofs.Database.Refusals
import SafeSql.Proofs.Database.Reading
import SafeSql.Proofs.Database.Release
import SafeSql.Proofs.Database.Shapes
import SafeSql.Proofs.Database.Modes
import SafeSql.Proofs.Database.Surfacing
import SafeSql.Proofs.Template.Lexer
import SafeSql.Proofs.Template.Placement
import SafeSql.Proofs.Template.Passes
import SafeSql.Proofs.Template.Segmentation
import SafeSql.Proofs.Value.Items
import SafeSql.Proofs.Value.Sameness
import SafeSql.Proofs.Number.Truncation
import SafeSql.Proofs.Number.Spelling
import SafeSql.Proofs.Fragment.Integers
import SafeSql.Proofs.Dialect.Regular
import SafeSql.Proofs.Dialect.Quoting
import SafeSql.Proofs.Fragment.Accepted
import SafeSql.Proofs.Fragment.Records
import SafeSql.Proofs.Fragment.Failures
import SafeSql.Proofs.Fragment.Pieces
import SafeSql.Proofs.Fragment.ReadBack
import SafeSql.Proofs.Rendering.Failures
import SafeSql.Proofs.Rendering.Totality
import SafeSql.Proofs.Rendering.Joining
import SafeSql.Proofs.Rendering.Names
import SafeSql.Proofs.Rendering.LexicalSafety
import SafeSql.Proofs.Rendering.NamedTotality
import SafeSql.Proofs.Passwords
import SafeSql.Proofs.CommandLine.Outcome
import SafeSql.Proofs.CommandLine.Preview
import SafeSql.Proofs.CommandLine.Exits
import SafeSql.Proofs.Binding
import SafeSql.Proofs.Availability
import SafeSql.Proofs.Whitelist
import SafeSql.Proofs.Callers
import SafeSql.Proofs.Database.Callers
