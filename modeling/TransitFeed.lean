import TransitFeed.Archive.Basic
import TransitFeed.Archive.Package
import TransitFeed.Archive.Zip.Checksum
import TransitFeed.Archive.Zip.Inflate
import TransitFeed.Archive.Zip.Reader
import TransitFeed.Archive.Zip.Writer
import TransitFeed.Cell.Clock
import TransitFeed.Cell.Day
import TransitFeed.Cell.Fractional
import TransitFeed.Cell.Link
import TransitFeed.Cell.Problem
import TransitFeed.Cell.Whole
import TransitFeed.CommandLine.Arguments
import TransitFeed.CommandLine.Examination
import TransitFeed.CommandLine.Notice
import TransitFeed.CommandLine.Run
import TransitFeed.CommandLine.Trial
import TransitFeed.Csv.Reader
import TransitFeed.Csv.Writer
import TransitFeed.Diagnostic.Basic
import TransitFeed.Diagnostic.Report
import TransitFeed.Fault
import TransitFeed.Feed.Basic
import TransitFeed.Feed.Load
import TransitFeed.Feed.Schemas
import TransitFeed.Feed.Turns
import TransitFeed.Feed.Write
import TransitFeed.File.Basic
import TransitFeed.File.Path
import TransitFeed.File.Tree
import TransitFeed.Glob.Pattern
import TransitFeed.Glob.Search
import TransitFeed.Json.Basic
import TransitFeed.Load.Basic
import TransitFeed.Load.Effects
import TransitFeed.Load.Row
import TransitFeed.Main
import TransitFeed.Number.Count
import TransitFeed.Number.Digits
import TransitFeed.Number.Double
import TransitFeed.Number.DoubleText
import TransitFeed.Number.Fixed
import TransitFeed.Number.Power
import TransitFeed.Number.Shortest
import TransitFeed.Session.Basic
import TransitFeed.Session.Pool
import TransitFeed.Session.Progress
import TransitFeed.Session.Settings
import TransitFeed.Session.SettingsFile
import TransitFeed.Session.Sightings
import TransitFeed.Table.Basic
import TransitFeed.Table.Key
import TransitFeed.Table.Schema
import TransitFeed.Table.Value
import TransitFeed.Text.Blank
import TransitFeed.Text.Quoted
import TransitFeed.Text.Split
import TransitFeed.Text.Utf8
import TransitFeed.Unicode.Composition
import TransitFeed.Unicode.Direction
import TransitFeed.Unicode.Joining
import TransitFeed.Unicode.Mapping
import TransitFeed.Unicode.Mark
import TransitFeed.Unicode.Printable
import TransitFeed.Unicode.Runs
import TransitFeed.Url.Address
import TransitFeed.Url.Basic
import TransitFeed.Url.Domain
import TransitFeed.Url.Host
import TransitFeed.Url.Parser
import TransitFeed.Url.Path
import TransitFeed.Url.Percent
import TransitFeed.Url.Punycode
import TransitFeed.Yaml.Document
import TransitFeed.Yaml.Lexer
import TransitFeed.Yaml.Node
import TransitFeed.Yaml.Scalar
import TransitFeed.Yaml.Source
import TransitFeed.Yaml.Tag
import TransitFeed.Yaml.Token
import TransitFeed.Proofs.Text.Utf8
import TransitFeed.Proofs.Csv.RoundTrip
import TransitFeed.Proofs.Archive.Package
import TransitFeed.Proofs.Table.Order
import TransitFeed.Proofs.Number.Digits
import TransitFeed.Proofs.Number.Rounding
import TransitFeed.Proofs.Number.DecimalText
import TransitFeed.Proofs.Cell.RoundTrip
import TransitFeed.Proofs.Table.Values
import TransitFeed.Proofs.Load.Effects
import TransitFeed.Proofs.Feed.Sound
import TransitFeed.Proofs.Feed.Written
import TransitFeed.Proofs.Feed.ReadBack
import TransitFeed.Proofs.Feed.RoundTrip
import TransitFeed.Proofs.Feed.Rewrite
import TransitFeed.Proofs.Load.References
import TransitFeed.Proofs.Feed.References
import TransitFeed.Proofs.Feed.Traces
import TransitFeed.Proofs.Load.Steps
import TransitFeed.Proofs.Session.Pool
import TransitFeed.Proofs.Session.Agree
import TransitFeed.Proofs.Feed.Interleaving
import TransitFeed.Proofs.Feed.Turns
import TransitFeed.Proofs.Session.Reports
import TransitFeed.Proofs.Session.FirstLookups
import TransitFeed.Proofs.Feed.Faults
import TransitFeed.Proofs.Csv.Terminated
import TransitFeed.Proofs.Load.Corrupt
import TransitFeed.Proofs.Cell.Ranges
import TransitFeed.Proofs.Load.Complaints
import TransitFeed.Proofs.Table.Problems
import TransitFeed.Proofs.Feed.Origins
import TransitFeed.Proofs.Feed.Complaints
import TransitFeed.Proofs.Number.Bounds
import TransitFeed.Proofs.Number.Order
import TransitFeed.Proofs.Cell.Fractional
import TransitFeed.Proofs.Load.Rows
import TransitFeed.Proofs.Load.Keys
import TransitFeed.Proofs.Load.Columns
import TransitFeed.Proofs.Load.Places
import TransitFeed.Proofs.Feed.Past
import TransitFeed.Proofs.Load.Location
import TransitFeed.Proofs.Feed.LoadedTables
import TransitFeed.Proofs.Load.Layout
import TransitFeed.Proofs.File.Tree
import TransitFeed.Proofs.CommandLine.Trial
import TransitFeed.Proofs.CommandLine.Examination
import TransitFeed.Proofs.CommandLine.Feeds
import TransitFeed.Proofs.CommandLine.Isolation
import TransitFeed.Proofs.File.Path
import TransitFeed.Proofs.CommandLine.Replacement
import TransitFeed.Proofs.Cell.Clock
import TransitFeed.Proofs.Cell.Day
import TransitFeed.Proofs.Feed.Positions
import TransitFeed.Proofs.Archive.Interrupted
import TransitFeed.Proofs.Session.Tenths
import TransitFeed.Proofs.Session.Requests
import TransitFeed.Proofs.Session.Texts
import TransitFeed.Proofs.Session.Milestones
import TransitFeed.Proofs.Load.Intake
import TransitFeed.Proofs.Load.Counted
import TransitFeed.Proofs.Number.Shortest
import TransitFeed.Proofs.Json.Unambiguous
import TransitFeed.Proofs.Diagnostic.Report
import TransitFeed.Proofs.Load.KeyText
