import EmailTriage.Lib.Runs
import EmailTriage.Lib.Table
import EmailTriage.Lib.Codec
import EmailTriage.Lib.JsString
import EmailTriage.Lib.JsNumber
import EmailTriage.Database.TenantTransaction
import EmailTriage.ThreatDetection.ValueObjects
import EmailTriage.ThreatDetection.ThreatAssessment
import EmailTriage.ThreatDetection.ThreatAssessmentRepository
import EmailTriage.ThreatDetection.QuarantinePersistence
import EmailTriage.ThreatDetection.ConcurrentLayers
import EmailTriage.FeedbackLearning.CorrectionRecord
import EmailTriage.FeedbackLearning.CorrectionRecordRepository
import EmailTriage.Classification.MessageClassification
import EmailTriage.MailboxIngestion.MessageEnvelope
import EmailTriage.Classification.ClassificationService
import EmailTriage.MailboxWriteback.MessageWriteBackRepository
import EmailTriage.MailboxWriteback.MessageWriteBackService
import EmailTriage.MailboxWriteback.WriteBackRuns
import EmailTriage.MailboxWriteback.ConcurrentWriteBack
import EmailTriage.Queue.EventRouting
import EmailTriage.Queue.OutboxDelivery
import EmailTriage.Queue.OutboxWrites
import EmailTriage.Queue.OverlappingSweeps
import EmailTriage.Queue.CalmSweep
import EmailTriage.Queue.OutboxRetention
import EmailTriage.MailboxIngestion.SyncCursor
import EmailTriage.MailboxIngestion.MailboxConnectionRepository
import EmailTriage.MailboxIngestion.ConnectionHistories
import EmailTriage.MailboxIngestion.IngestedMessageRepository
import EmailTriage.MailboxIngestion.ConcurrentIngestion
import EmailTriage.IdentityAccess.MailboxAuthorization
import EmailTriage.IdentityAccess.MailboxAuthorizationRepository
import EmailTriage.IdentityAccess.MailboxAuthorizationService
import EmailTriage.IdentityAccess.ServiceOutcomes
import EmailTriage.IdentityAccess.IdentityEvents
import EmailTriage.IdentityAccess.OAuthAdapters
import EmailTriage.IdentityAccess.AuthorizationHistories
import EmailTriage.IdentityAccess.GrantedCredential
import EmailTriage.IdentityAccess.Revocation
import EmailTriage.IdentityAccess.TenantSuspension
import EmailTriage.IdentityAccess.ConsentOnRecord
import EmailTriage.NotificationAlerting.AlertCoolDown
import EmailTriage.NotificationAlerting.AlertDispatch
import EmailTriage.NotificationAlerting.AlertDispatchRepository
import EmailTriage.TenantSubscription.UsageMeter
import EmailTriage.TenantSubscription.UsageMeterRepository
import EmailTriage.TenantSubscription.MeteredUsage
import EmailTriage.TenantSubscription.IncrementPaths
import EmailTriage.TenantSubscription.Subscription
import EmailTriage.TenantSubscription.ChangePlan
import EmailTriage.TenantSubscription.PaymentWebhook
import EmailTriage.TenantSubscription.Standings
import EmailTriage.TenantSubscription.LostStandings
import EmailTriage.Classification.CanaryRollout
import EmailTriage.Classification.RolloutInstances
import EmailTriage.Classification.LlmBehaviour
import EmailTriage.Classification.MessageClassificationRepository
import EmailTriage.Api.Noninterference
import EmailTriage.Lib.KeyOrder
import EmailTriage.MailboxWriteback.AggregateRuns
import EmailTriage.MailboxWriteback.ValueComparison
import EmailTriage.ThreatDetection.AssessmentJson
import EmailTriage.ThreatDetection.BrandWatchlistRepository
import EmailTriage.ThreatDetection.AssessmentRuns
import EmailTriage.Api.SubmittedCorrections
import EmailTriage.FeedbackLearning.SavedCorrections
import EmailTriage.Lib.RegExp
import EmailTriage.Lib.Scanning
import EmailTriage.Lib.Sql
import EmailTriage.Scripts.CheckRlsPolicies
import EmailTriage.Scripts.SchemaBlocks
import EmailTriage.Scripts.RlsSoundness
import EmailTriage.Scripts.CheckOutboxRouting
import EmailTriage.MailboxWriteback.FacetIndependence
import EmailTriage.MailboxWriteback.PlatformAdapters
import EmailTriage.Prioritization.ScoringBounds
import EmailTriage.Prioritization.Rescoring
import EmailTriage.Prioritization.ComponentBookkeeping
import EmailTriage.Prioritization.Escalations
import EmailTriage.ContactGraph.PublishedClassification
import EmailTriage.ContactGraph.VipDesignation
import EmailTriage.ContactGraph.SenderProfileRepository
import EmailTriage.ContactGraph.DeliveredInteractions
import EmailTriage.ContactGraph.InteractionHistories
import EmailTriage.ContactGraph.VipTransitions
import EmailTriage.ContactGraph.SignalDirections
import EmailTriage.FeedbackLearning.CorrectionTrust
import EmailTriage.FeedbackLearning.ReputationPersistence
import EmailTriage.FeedbackLearning.ConcurrentObservations
import EmailTriage.FeedbackLearning.ReputationRegister
import EmailTriage.NotificationAlerting.NotificationSubscription
import EmailTriage.NotificationAlerting.SubscriptionRepository
import EmailTriage.NotificationAlerting.AlertReload
import EmailTriage.TenantSubscription.BillingPeriods
import EmailTriage.TenantSubscription.OverageDetection
import EmailTriage.NotificationAlerting.DigestWindow
import EmailTriage.Classification.DegradationRestarts
import EmailTriage.Classification.CanaryCohorts
import EmailTriage.MailboxIngestion.HistoryIds
import EmailTriage.MailboxIngestion.QuotaUnits
import EmailTriage.IdentityAccess.OAuthState
import EmailTriage.IdentityAccess.ScopeSets
import EmailTriage.IdentityAccess.MailboxApi
import EmailTriage.Lib.Paging
import EmailTriage.Lib.Shell
import EmailTriage.Api.MessageReads
import EmailTriage.Api.StableReads
import EmailTriage.Api.MessagePages
import EmailTriage.Api.MailboxEndpoints
import EmailTriage.Api.VipList
import EmailTriage.Api.VipDesignations
import EmailTriage.Classification.TenantLabels
import EmailTriage.Api.TriagedMessages
import EmailTriage.Scripts.PostgresContainer
import EmailTriage.Scripts.RestoreDatabase
import EmailTriage.Scripts.BackupDatabase
import EmailTriage.Queue.EventBridge
import EmailTriage.Queue.RoutedJobs
import EmailTriage.Queue.BridgeDelivery
import EmailTriage.MailboxIngestion.IngestedEvents
import EmailTriage.Lib.Session
import EmailTriage.Lib.RowSecurity
import EmailTriage.Database.TenantRows
import EmailTriage.MailboxIngestion.RepositoryStatements
import EmailTriage.Database.TenantContext
import EmailTriage.Database.TenantIsolation
