import DatabaseDump.Catalog
import DatabaseDump.Column
import DatabaseDump.CommandLine.Arguments
import DatabaseDump.CommandLine.Flag
import DatabaseDump.CommandLine.Help
import DatabaseDump.CommandLine.Token
import DatabaseDump.Config
import DatabaseDump.Config.File
import DatabaseDump.Connection
import DatabaseDump.Csv.Escape
import DatabaseDump.Csv.Field
import DatabaseDump.Csv.Record
import DatabaseDump.Decimal.Binary
import DatabaseDump.Decimal.Fixed
import DatabaseDump.Decimal.Shortest
import DatabaseDump.Dump.DryRun
import DatabaseDump.Dump.Filling
import DatabaseDump.Dump.Inserts
import DatabaseDump.Dump.Plan
import DatabaseDump.Dump.Rows
import DatabaseDump.Dump.Run
import DatabaseDump.Dump.SideFile
import DatabaseDump.Dump.Stats
import DatabaseDump.Dump.Writer
import DatabaseDump.Elapsed
import DatabaseDump.Failure
import DatabaseDump.Folder
import DatabaseDump.Json
import DatabaseDump.Log
import DatabaseDump.Log.File
import DatabaseDump.Log.Setup
import DatabaseDump.Main
import DatabaseDump.Options
import DatabaseDump.Options.Delimiter
import DatabaseDump.Options.Names
import DatabaseDump.Options.Settings
import DatabaseDump.Path
import DatabaseDump.Pool
import DatabaseDump.Pool.Block
import DatabaseDump.Program
import DatabaseDump.Proofs.Accounts
import DatabaseDump.Proofs.Complaints
import DatabaseDump.Proofs.Countdown
import DatabaseDump.Proofs.CountedBlocks
import DatabaseDump.Proofs.Counts
import DatabaseDump.Proofs.CsvReader
import DatabaseDump.Proofs.Cursors
import DatabaseDump.Proofs.Delays
import DatabaseDump.Proofs.Delimiters
import DatabaseDump.Proofs.DryRun
import DatabaseDump.Proofs.Effects
import DatabaseDump.Proofs.Endings
import DatabaseDump.Proofs.FewestStatements
import DatabaseDump.Proofs.FieldBytes
import DatabaseDump.Proofs.Filling
import DatabaseDump.Proofs.GivenSettings
import DatabaseDump.Proofs.Identifiers
import DatabaseDump.Proofs.Interruption
import DatabaseDump.Proofs.LoadStatement
import DatabaseDump.Proofs.Loans
import DatabaseDump.Proofs.Lookups
import DatabaseDump.Proofs.NameLists
import DatabaseDump.Proofs.Packing
import DatabaseDump.Proofs.Places
import DatabaseDump.Proofs.PlanFailures
import DatabaseDump.Proofs.Planning
import DatabaseDump.Proofs.QuotedNames
import DatabaseDump.Proofs.RawTexts
import DatabaseDump.Proofs.Readings
import DatabaseDump.Proofs.References
import DatabaseDump.Proofs.Repetition
import DatabaseDump.Proofs.Replay
import DatabaseDump.Proofs.Runs
import DatabaseDump.Proofs.Sections
import DatabaseDump.Proofs.Sentinel
import DatabaseDump.Proofs.SettingTexts
import DatabaseDump.Proofs.SettledOrder
import DatabaseDump.Proofs.SideFiles
import DatabaseDump.Proofs.SqlReader
import DatabaseDump.Proofs.Substitution
import DatabaseDump.Proofs.TableRows
import DatabaseDump.Proofs.UnsetSettings
import DatabaseDump.Proofs.Utf8
import DatabaseDump.Proofs.ValidOptions
import DatabaseDump.Proofs.ViewOrder
import DatabaseDump.Row
import DatabaseDump.Server
import DatabaseDump.Server.Script
import DatabaseDump.Session
import DatabaseDump.Sql.Budget
import DatabaseDump.Sql.Insert
import DatabaseDump.Sql.Literal
import DatabaseDump.Sql.Statement
import DatabaseDump.Table
import DatabaseDump.Text.Blank
import DatabaseDump.Text.DecimalDigit
import DatabaseDump.Text.Hex
import DatabaseDump.Text.Numeral
import DatabaseDump.Text.Printable
import DatabaseDump.Text.Quoted
import DatabaseDump.Text.Search
import DatabaseDump.Text.Utf8
import DatabaseDump.Value
import DatabaseDump.Value.Display
import DatabaseDump.Value.Equality
import DatabaseDump.Value.Items
import DatabaseDump.Value.Search
import DatabaseDump.ViewOrder
import DatabaseDump.ViewOrder.Countdown
