import FileTrans.Client.BatchRuns
import FileTrans.Client.BatchStarts
import FileTrans.Client.Completion
import FileTrans.Client.DownloadPath
import FileTrans.Client.Locking
import FileTrans.Client.StateMachine
import FileTrans.Client.Waiting
import FileTrans.Cloud.AzureDownloads
import FileTrans.Cloud.AzureSignatures
import FileTrans.Cloud.AzureStorage
import FileTrans.Cloud.CountedWrites
import FileTrans.Cloud.CredentialProfiles
import FileTrans.Cloud.GcsRoundTrips
import FileTrans.Cloud.GcsUploads
import FileTrans.Cloud.LateParts
import FileTrans.Cloud.PartLists
import FileTrans.Cloud.PresignedSignatures
import FileTrans.Cloud.RetryDelay
import FileTrans.Cloud.S3TransportFailures
import FileTrans.Core.AdaptiveCompression
import FileTrans.Core.AssemblerPaths
import FileTrans.Core.BandwidthLimits
import FileTrans.Core.Crc32Bursts
import FileTrans.Core.FinalizeFailures
import FileTrans.Core.Reassembly
import FileTrans.Core.RejectedChunks
import FileTrans.Core.Sha256Standard
import FileTrans.Encryption.ChunkOrder
import FileTrans.Encryption.EncryptionStream
import FileTrans.Encryption.IvReuse
import FileTrans.Encryption.KeyConsistency
import FileTrans.Encryption.KeyRoundTrip
import FileTrans.Encryption.MetadataExchange
import FileTrans.Encryption.Rederivation
import FileTrans.Logging.LogEntries
import FileTrans.Logging.Rotation
import FileTrans.Resume.BatchMarks
import FileTrans.Resume.Checkpoint
import FileTrans.Resume.Crash
import FileTrans.Resume.Histories
import FileTrans.Server.CleanupOrder
import FileTrans.Server.CompressionStatistics
import FileTrans.Server.Conservation
import FileTrans.Server.GlobLanguage
import FileTrans.Server.KeyConfinement
import FileTrans.Server.LocalListing
import FileTrans.Server.PipelineRoundTrip
import FileTrans.Server.PlaintextDownloads
import FileTrans.Server.PolicyDeletion
import FileTrans.Server.QuotaAdmission
import FileTrans.Server.QuotaWarnings
import FileTrans.Server.RuleSelection
import FileTrans.Server.StorageGauges
import FileTrans.Server.TierSettling
import FileTrans.Server.TieringCycles
import FileTrans.Server.UploadAdmission
import FileTrans.Transport.MigrationAverages
import FileTrans.Transport.MigrationCancel
import FileTrans.Transport.MigrationDeadlocks
import FileTrans.Transport.PreviousPaths
import FileTrans.Transport.ReceiveWaiting
import FileTrans.Transport.Reconnecting
import FileTrans.Transport.RejectedTickets
import FileTrans.Transport.TicketCorruption
import FileTrans.Transport.TicketEviction
import FileTrans.Transport.TicketRoundTrip
