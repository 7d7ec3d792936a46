import Reckoner.Batch.Client
import Reckoner.Batch.Collection
import Reckoner.Batch.Input
import Reckoner.Batch.Outcome
import Reckoner.Batch.ResultsPath
import Reckoner.Batch.Schedule
import Reckoner.Batch.Server
import Reckoner.Batch.Worker
import Reckoner.Cipher.Aes
import Reckoner.Cipher.Gcm
import Reckoner.Cipher.Sealed
import Reckoner.CommandLine.Arguments
import Reckoner.CommandLine.Command
import Reckoner.CommandLine.Run
import Reckoner.Expression.Error
import Reckoner.Expression.Evaluate
import Reckoner.Expression.Postfix
import Reckoner.Expression.Scan
import Reckoner.Expression.Token
import Reckoner.Files.Archive
import Reckoner.Files.Folder
import Reckoner.Files.Path
import Reckoner.Json.Basic
import Reckoner.Json.Escape
import Reckoner.Json.Parse
import Reckoner.Json.Strings
import Reckoner.Log
import Reckoner.Main
import Reckoner.Network.Address
import Reckoner.Network.Exchange
import Reckoner.Notes.Moment
import Reckoner.Notes.Payload
import Reckoner.Notes.Store
import Reckoner.Notes.Vault
import Reckoner.Number.Binary64
import Reckoner.Number.Decimal
import Reckoner.Number.Integer
import Reckoner.Number.Literal
import Reckoner.Proofs.Batch.Accounts
import Reckoner.Proofs.Batch.Input
import Reckoner.Proofs.Batch.Numbering
import Reckoner.Proofs.Batch.Outcome
import Reckoner.Proofs.Batch.Pipe
import Reckoner.Proofs.Batch.Readback
import Reckoner.Proofs.Batch.Reception
import Reckoner.Proofs.Batch.Reply
import Reckoner.Proofs.Batch.Report
import Reckoner.Proofs.Batch.Results
import Reckoner.Proofs.Batch.ResultsPath
import Reckoner.Proofs.Batch.Sharing
import Reckoner.Proofs.Cipher.Sealed
import Reckoner.Proofs.CommandLine.Agreement
import Reckoner.Proofs.CommandLine.Batch
import Reckoner.Proofs.CommandLine.Loss
import Reckoner.Proofs.CommandLine.Notes
import Reckoner.Proofs.Expression.Acceptance
import Reckoner.Proofs.Expression.Agreement
import Reckoner.Proofs.Expression.Arrangement
import Reckoner.Proofs.Expression.Conversion
import Reckoner.Proofs.Expression.Counts
import Reckoner.Proofs.Expression.Expansion
import Reckoner.Proofs.Expression.Faults
import Reckoner.Proofs.Expression.Grammar
import Reckoner.Proofs.Expression.Grouping
import Reckoner.Proofs.Expression.Hole
import Reckoner.Proofs.Expression.Integers
import Reckoner.Proofs.Expression.Lexeme
import Reckoner.Proofs.Expression.Listing
import Reckoner.Proofs.Expression.Margins
import Reckoner.Proofs.Expression.Marking
import Reckoner.Proofs.Expression.Printed
import Reckoner.Proofs.Expression.Reading
import Reckoner.Proofs.Expression.Respelling
import Reckoner.Proofs.Expression.Stages
import Reckoner.Proofs.Expression.Substitution
import Reckoner.Proofs.Expression.Waiting
import Reckoner.Proofs.Files.Archive
import Reckoner.Proofs.Files.Folder
import Reckoner.Proofs.Files.Path
import Reckoner.Proofs.Json.Strings
import Reckoner.Proofs.Notes.History
import Reckoner.Proofs.Notes.Listing
import Reckoner.Proofs.Notes.Opening
import Reckoner.Proofs.Notes.Separation
import Reckoner.Proofs.Notes.Vault
import Reckoner.Proofs.Number.Literal
import Reckoner.Proofs.Number.Nearest
import Reckoner.Proofs.Number.Numeral
import Reckoner.Proofs.Number.Order
import Reckoner.Proofs.Number.Plain
import Reckoner.Proofs.Number.Rounding
import Reckoner.Proofs.Number.Whole
import Reckoner.Proofs.Number.Zero
import Reckoner.Proofs.Result
import Reckoner.Proofs.Text.Base64
import Reckoner.Proofs.Text.Lines
import Reckoner.Proofs.Text.Utf8
import Reckoner.Proofs.Validation.Field
import Reckoner.Settings.Assignment
import Reckoner.Settings.Basic
import Reckoner.Settings.Variables
import Reckoner.Text.Base64
import Reckoner.Text.Blank
import Reckoner.Text.Digit
import Reckoner.Text.Line
import Reckoner.Text.Printable
import Reckoner.Text.Quoted
import Reckoner.Text.Split
import Reckoner.Text.Uppercase
import Reckoner.Text.Utf8
import Reckoner.Validation.Field
import Reckoner.Validation.Issue
import Reckoner.Proofs.Batch.Collection
