import PageCrawl.CommandLine.Arguments
import PageCrawl.CommandLine.Help
import PageCrawl.CommandLine.Run
import PageCrawl.Crawl.Crawler
import PageCrawl.Crawl.Source
import PageCrawl.Digest.MD5
import PageCrawl.Extract
import PageCrawl.Fetch
import PageCrawl.Html.Builder
import PageCrawl.Html.Builder.Formatting
import PageCrawl.Html.Builder.Rules
import PageCrawl.Html.CharRef
import PageCrawl.Html.CharRef.Names
import PageCrawl.Html.Document
import PageCrawl.Html.Families
import PageCrawl.Html.Foreign
import PageCrawl.Html.Lexer
import PageCrawl.Html.Render
import PageCrawl.Html.Token
import PageCrawl.Html.Tree
import PageCrawl.Http.Network
import PageCrawl.Http.Status
import PageCrawl.Json.Fields
import PageCrawl.Json.Reader
import PageCrawl.Json.Text
import PageCrawl.Log.Event
import PageCrawl.Log.Filter
import PageCrawl.Main
import PageCrawl.Pool
import PageCrawl.Pool.Tasks
import PageCrawl.Proofs.CommandLine.Defects
import PageCrawl.Proofs.CommandLine.Outcomes
import PageCrawl.Proofs.CommandLine.Reports
import PageCrawl.Proofs.Extract.Cleaned
import PageCrawl.Proofs.Extract.First
import PageCrawl.Proofs.Extract.Local
import PageCrawl.Proofs.Extract.Order
import PageCrawl.Proofs.Extract.Rendered
import PageCrawl.Proofs.Html.Actions
import PageCrawl.Proofs.Html.Early
import PageCrawl.Proofs.Html.Formatting
import PageCrawl.Proofs.Html.Late
import PageCrawl.Proofs.Html.Links
import PageCrawl.Proofs.Html.Parsed
import PageCrawl.Proofs.Html.Rules
import PageCrawl.Proofs.Html.Steady
import PageCrawl.Proofs.Html.Tour
import PageCrawl.Proofs.Html.Walk
import PageCrawl.Proofs.Json.Written
import PageCrawl.Proofs.Pool.Alone
import PageCrawl.Proofs.Pool.Calls
import PageCrawl.Proofs.Pool.Cancellation
import PageCrawl.Proofs.Pool.Channel
import PageCrawl.Proofs.Pool.Conservation
import PageCrawl.Proofs.Pool.Domination
import PageCrawl.Proofs.Pool.History
import PageCrawl.Proofs.Pool.LastReport
import PageCrawl.Proofs.Pool.Ledger
import PageCrawl.Proofs.Pool.Leftovers
import PageCrawl.Proofs.Pool.Limit
import PageCrawl.Proofs.Pool.Makespan
import PageCrawl.Proofs.Pool.Order
import PageCrawl.Proofs.Pool.Punctual
import PageCrawl.Proofs.Pool.Schedule
import PageCrawl.Proofs.Pool.Sequential
import PageCrawl.Proofs.Pool.Spread
import PageCrawl.Proofs.Pool.Timely
import PageCrawl.Proofs.Pool.Timing
import PageCrawl.Proofs.Pool.Transitions
import PageCrawl.Proofs.Pool.Verdict
import PageCrawl.Proofs.Pool.Workload
import PageCrawl.Proofs.Recrawl.Attempts
import PageCrawl.Proofs.Recrawl.Cancellation
import PageCrawl.Proofs.Recrawl.Chronicle
import PageCrawl.Proofs.Recrawl.Deadline
import PageCrawl.Proofs.Recrawl.Failure
import PageCrawl.Proofs.Recrawl.Handover
import PageCrawl.Proofs.Recrawl.Partition
import PageCrawl.Proofs.Recrawl.Rounds
import PageCrawl.Proofs.Recrawl.Spread
import PageCrawl.Proofs.Report.Instant
import PageCrawl.Proofs.Report.RoundTrip
import PageCrawl.Proofs.Selector.Scope
import PageCrawl.Proofs.Session.Addresses
import PageCrawl.Proofs.Session.Pages
import PageCrawl.Proofs.Session.Redirects
import PageCrawl.Proofs.Settings.Numerals
import PageCrawl.Proofs.Settings.Variables
import PageCrawl.Proofs.Tasks.Barrier
import PageCrawl.Proofs.Tasks.Completion
import PageCrawl.Proofs.Tasks.Crew
import PageCrawl.Proofs.Tasks.Executions
import PageCrawl.Proofs.Tasks.Independence
import PageCrawl.Proofs.Tasks.Leftovers
import PageCrawl.Proofs.Tasks.Scheduled
import PageCrawl.Proofs.Text.Blank
import PageCrawl.Proofs.Text.Remove
import PageCrawl.Proofs.Text.Utf8
import PageCrawl.Proofs.Url.Filling
import PageCrawl.Proofs.Url.Reading
import PageCrawl.Proofs.Url.Written
import PageCrawl.Recrawl
import PageCrawl.Recrawl.Check
import PageCrawl.Report.Basic
import PageCrawl.Report.Instant
import PageCrawl.Selector.Basic
import PageCrawl.Selector.Fault
import PageCrawl.Selector.Match
import PageCrawl.Selector.Parse
import PageCrawl.Selector.Token
import PageCrawl.Settings.Decimal
import PageCrawl.Settings.Dispatch
import PageCrawl.Settings.Environment
import PageCrawl.Settings.Session
import PageCrawl.Text.Blank
import PageCrawl.Text.Duration
import PageCrawl.Text.Quoted
import PageCrawl.Text.Remove
import PageCrawl.Text.Single
import PageCrawl.Text.Split
import PageCrawl.Text.Utf8
import PageCrawl.Url.Basic
import PageCrawl.Url.Domain
import PageCrawl.Url.Form
import PageCrawl.Url.Host
import PageCrawl.Url.Parse
import PageCrawl.Url.Percent
import PageCrawl.Url.Punycode
