import SensorTasks.Interval.Codec
import SensorTasks.Json.Texts
import SensorTasks.Main
import SensorTasks.Proofs.Acceptance
import SensorTasks.Proofs.Agreement
import SensorTasks.Proofs.Contention
import SensorTasks.Proofs.Documents
import SensorTasks.Proofs.Entries
import SensorTasks.Proofs.EntryFiles
import SensorTasks.Proofs.FileVisibility
import SensorTasks.Proofs.Identity
import SensorTasks.Proofs.InFlight
import SensorTasks.Proofs.LastWrite
import SensorTasks.Proofs.Naming
import SensorTasks.Proofs.Overlap
import SensorTasks.Proofs.Redelivery
import SensorTasks.Proofs.ResultFiles
import SensorTasks.Proofs.DocumentDates
import SensorTasks.Proofs.ManagedObjects
import SensorTasks.Proofs.Arriving
import SensorTasks.Proofs.Messages
import SensorTasks.Proofs.RoundRobin
import SensorTasks.Proofs.Traffic
import SensorTasks.Proofs.Conservation
import SensorTasks.Proofs.FetchMessage
import SensorTasks.Proofs.Resync
import SensorTasks.Proofs.ExposedPlatforms
import SensorTasks.Proofs.Commuting
import SensorTasks.Proofs.UploadMessage
import SensorTasks.Proofs.AcceptedReports
import SensorTasks.Proofs.SensorNames
import SensorTasks.Proofs.FileDeletion
import SensorTasks.Proofs.Pages
import SensorTasks.Proofs.Extending
import SensorTasks.Proofs.Ousting
import SensorTasks.Proofs.FailedRequest
import SensorTasks.Proofs.BulkDeletion
import SensorTasks.Proofs.BulkUpdates
import SensorTasks.Proofs.IntervalText
import SensorTasks.Proofs.IntervalSums
import SensorTasks.Proofs.DayNumbers
import SensorTasks.Proofs.WireGrammar
import SensorTasks.Proofs.Resending
