import BlocklistSync.FileTree.Listing
import BlocklistSync.Maps.Writer
import BlocklistSync.MailServer.Report
import BlocklistSync.Notify
import BlocklistSync.PidFile
import BlocklistSync.Retry
import BlocklistSync.Settings.Load
import BlocklistSync.Store.DatabaseStore
import BlocklistSync.Store.Location
import BlocklistSync.Store.Memory
import BlocklistSync.Text.Lines
import BlocklistSync.Trigger
import BlocklistSync.Service
import BlocklistSync.Engine.Session
import BlocklistSync.Main
import BlocklistSync.Proofs.Engine.Abort
import BlocklistSync.Proofs.Engine.Freshness
import BlocklistSync.Proofs.Engine.Sessions
import BlocklistSync.Proofs.Engine.Cycles
import BlocklistSync.Proofs.Engine.Rewriting
import BlocklistSync.Proofs.Engine.Pending
import BlocklistSync.Proofs.Engine.Journal
import BlocklistSync.Proofs.Engine.Outages
import BlocklistSync.Proofs.Engine.Shutdown
import BlocklistSync.Proofs.Engine.Story
import BlocklistSync.Proofs.Engine.Counters
import BlocklistSync.Proofs.Engine.Warnings
import BlocklistSync.Proofs.Maps.Rules
import BlocklistSync.Proofs.Maps.Lines
import BlocklistSync.Proofs.Maps.Contents
import BlocklistSync.Proofs.Maps.Readers
import BlocklistSync.Proofs.FileTree.Trail
import BlocklistSync.Proofs.Calendar.DayNumber
import BlocklistSync.Proofs.Calendar.Rendering
import BlocklistSync.Proofs.Text.Utf8
import BlocklistSync.Proofs.Store.Bookkeeping
import BlocklistSync.Proofs.Store.MemoryHistory
import BlocklistSync.Proofs.Store.TableHistory
import BlocklistSync.Proofs.Trigger.Marks
import BlocklistSync.Proofs.Trigger.Slot
import BlocklistSync.Proofs.Trigger.Timeline
import BlocklistSync.Proofs.Engine.Refreshes
import BlocklistSync.Proofs.Backoff.Attempts
import BlocklistSync.Proofs.Settings.Pace
import BlocklistSync.Proofs.PidFile.Publishing
import BlocklistSync.Proofs.Backoff.Registers
import BlocklistSync.Proofs.Store.Stamps
import BlocklistSync.Proofs.Store.Connections
import BlocklistSync.Proofs.Calendar.Spellings
import BlocklistSync.Proofs.Notify.Signals
import BlocklistSync.Proofs.Settings.Layers
import BlocklistSync.Proofs.Settings.ProcessEnvironment
import BlocklistSync.Proofs.Store.MemoryLedger
import BlocklistSync.Proofs.MailServer.Applications
import BlocklistSync.Proofs.Store.Locations
import BlocklistSync.Proofs.Store.Markers
