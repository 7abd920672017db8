import IppPrinterApp.Lib.AnyOrder
import IppPrinterApp.Lib.Ascii
import IppPrinterApp.Lib.AssocMap
import IppPrinterApp.Lib.Calendar
import IppPrinterApp.Lib.Call
import IppPrinterApp.Lib.Chronicle
import IppPrinterApp.Lib.Decimal
import IppPrinterApp.Lib.Fallible
import IppPrinterApp.Lib.FirstMatch
import IppPrinterApp.Lib.Ledger
import IppPrinterApp.Lib.MergeNew
import IppPrinterApp.Lib.Pool
import IppPrinterApp.Lib.Recency
import IppPrinterApp.Lib.TornFile
import IppPrinterApp.Lib.Transition
import IppPrinterApp.Lib.Words
import IppPrinterApp.Lib.WriteBack
import IppPrinterApp.Ipp
import IppPrinterApp.Flags
import IppPrinterApp.Printer
import IppPrinterApp.Job
import IppPrinterApp.Request
import IppPrinterApp.Attributes
import IppPrinterApp.Replies
import IppPrinterApp.HandleIpp
import IppPrinterApp.Worker
import IppPrinterApp.Poller
import IppPrinterApp.MediaPage
import IppPrinterApp.System
import IppPrinterApp.Lifecycle
import IppPrinterApp.Timestamps
import IppPrinterApp.Documents
import IppPrinterApp.PrinterState
import IppPrinterApp.Reasons
import IppPrinterApp.Persist
import IppPrinterApp.Refusals
import IppPrinterApp.CancelMyJobs
import IppPrinterApp.Isolation
import IppPrinterApp.JobIds
import IppPrinterApp.Bootstrap
import IppPrinterApp.Restarts
import IppPrinterApp.Mdns
import IppPrinterApp.Conversions
import IppPrinterApp.InBand
import IppPrinterApp.Listing
import IppPrinterApp.MediaCollections
import IppPrinterApp.LoadedMedia
import IppPrinterApp.Pages
import IppPrinterApp.OperationOrder
import IppPrinterApp.PollRound
import IppPrinterApp.Retries
import IppPrinterApp.MediaNames
import IppPrinterApp.SideMargins
import IppPrinterApp.MediaApply
import IppPrinterApp.MediaForms
import IppPrinterApp.Datetimes
import IppPrinterApp.Slugs
import IppPrinterApp.JobRefs
import IppPrinterApp.Escapes
import IppPrinterApp.Sleeps
import IppPrinterApp.PrintOptions
import IppPrinterApp.Announcements
import IppPrinterApp.Filters
import IppPrinterApp.JobTimes
import IppPrinterApp.Cancels
import IppPrinterApp.Accounts
import IppPrinterApp.Draining
import IppPrinterApp.CancelLatency
import IppPrinterApp.JobLife
import IppPrinterApp.Queues
import IppPrinterApp.Discovery
import IppPrinterApp.Lives
import IppPrinterApp.Rolls
import IppPrinterApp.Sweeps
import IppPrinterApp.Deliveries
import IppPrinterApp.Outcomes
import IppPrinterApp.Served
import IppPrinterApp.Queries
import IppPrinterApp.Spooler
