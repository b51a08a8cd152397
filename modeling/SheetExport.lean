import SheetExport.Cancellation.Machine
import SheetExport.Config.Environment
import SheetExport.Job.Service
import SheetExport.Storage.Local
import SheetExport.Storage.Retrying
import SheetExport.Proofs.Xml.RoundTrip
import SheetExport.Proofs.Job.StatusRace
import SheetExport.Proofs.Job.Cancel
import SheetExport.Proofs.Export.Upkeep
import SheetExport.Proofs.Job.Closing
import SheetExport.Proofs.Calendar.Timestamp
import SheetExport.Proofs.Job.Written
import SheetExport.Proofs.Job.Calls
import SheetExport.Proofs.Job.Course
import SheetExport.Proofs.Job.Background
import SheetExport.Proofs.Job.Announcement
import SheetExport.Proofs.Cell.Formula
import SheetExport.Proofs.Workbook.Documents
import SheetExport.Proofs.Job.Eviction
import SheetExport.Proofs.Job.Forward
import SheetExport.Proofs.Export.Events
import SheetExport.Proofs.Cancellation.Account
import SheetExport.Proofs.Cancellation.Once
import SheetExport.Proofs.Job.ConcurrentUpdates
import SheetExport.Proofs.Cancellation.Disposal
import SheetExport.Proofs.Source.Resources
import SheetExport.Proofs.Export.Release
import SheetExport.Proofs.Xml.Tags
import SheetExport.Proofs.Workbook.Sound
import SheetExport.Proofs.Workbook.Formats
import SheetExport.Proofs.Sheet.CellTags
import SheetExport.Proofs.Sheet.Dimension
import SheetExport.Proofs.Workbook.NumberFormats
import SheetExport.Proofs.Export.Success
import SheetExport.Proofs.Export.Resolution
import SheetExport.Proofs.Sheet.Rewriting
import SheetExport.Proofs.Export.LookAhead
import SheetExport.Proofs.Export.Failure
import SheetExport.Proofs.Storage.FileTree
import SheetExport.Proofs.Storage.Retrying
import SheetExport.Proofs.Storage.Saving
import SheetExport.Proofs.Storage.Deleting
import SheetExport.Proofs.Filter.Refusal
import SheetExport.Proofs.Source.OpenStreams
import SheetExport.Proofs.Export.Terminal
import SheetExport.Proofs.Sheet.Name
import SheetExport.Proofs.Storage.FileName
import SheetExport.Proofs.Config.Environment
import SheetExport.Proofs.Job.SavedFile
import SheetExport.Proofs.Source.ReleasedOnce
import SheetExport.Proofs.Number.Whole
import SheetExport.Proofs.Filter.Order
import SheetExport.Proofs.Calendar.Date
import SheetExport.Proofs.Cell.Serial
import SheetExport.Proofs.Job.HashViews
import SheetExport.Proofs.Workbook.Registration
import SheetExport.Proofs.Xml.Buffering
import SheetExport.Proofs.Sheet.Columns
