import PCenter.PveContent
import PCenter.NodePicture
import PCenter.Lib.ServeMux
import PCenter.Accounts
import PCenter.Auth
import PCenter.Routes
import PCenter.Router
import PCenter.Lib.Transition
import PCenter.Rbac
import PCenter.RbacApi
import PCenter.GuestTasks
import PCenter.Lib.Float64
import PCenter.Executor
import PCenter.Handlers
import PCenter.GuestOps
import PCenter.GuestGuards
import PCenter.Transports
import PCenter.Inventory
import PCenter.InventoryStore
import PCenter.Drs
import PCenter.DrsCheck
import PCenter.MetricsRollup
import PCenter.InventoryFiling
import PCenter.InventoryStatus
import PCenter.InventoryCorrelation
import PCenter.InventoryPromotion
import PCenter.MigrationRuns
import PCenter.Migrations
import PCenter.RbacCache
import PCenter.RbacResolver
import PCenter.Webhooks
import PCenter.InventoryRuns
import PCenter.Lib.Procedure
import PCenter.PveCluster
import PCenter.Lib.Program
import PCenter.Lib.Thread
import PCenter.Lib.Forest
import PCenter.Maintenance
import PCenter.Evacuation
import PCenter.MaintenanceRuns
import PCenter.CephCluster
import PCenter.CephDestroy
import PCenter.CommandTracker
import PCenter.AgentRegistry
import PCenter.AgentConnection
import PCenter.SchedulerRuns
import PCenter.Alarms
import PCenter.AlarmRuns
import PCenter.Folders
import PCenter.FolderMembers
import PCenter.FolderRuns
import PCenter.Lockout
import PCenter.RecoveryCodes
import PCenter.Registration
import PCenter.UserUpdates
import PCenter.TrustedIPs
import PCenter.LegacyReconcile
import PCenter.Lib.Transaction
import PCenter.InventoryTransactions
import PCenter.Reconciliation
import PCenter.NodeReports
import PCenter.ClusterPollers
import PCenter.Lib.Aggregate
import PCenter.MetricsAggregation
import PCenter.MetricsRestarts
import PCenter.Lib.Sql
import PCenter.AlarmQueries
import PCenter.SchedulerRequests
import PCenter.SchedulerHistory
import PCenter.WebhookDispatch
import PCenter.SerialLogins
import PCenter.Sessions
import PCenter.ClusterJobs
import PCenter.ClusterPreflight
import PCenter.ClusterJobRuns
import PCenter.Lib.Channel
import PCenter.BrowserHub
import PCenter.FolderNames
import PCenter.ScheduledActions
import PCenter.ActionTransport
import PCenter.Lib.Slice
import PCenter.DrsApply
import PCenter.CephInstall
import PCenter.CephHistories
import PCenter.CephInstallRuns
import PCenter.CephJobEnds
import PCenter.CephManager
import PCenter.MaintenanceFlag
import PCenter.Lib.MapOrder
import PCenter.MaintenancePreflight
import PCenter.EvacuationAnnounced
import PCenter.CronGrammar
import PCenter.CronSearch
import PCenter.RbacSpec
import PCenter.DrsSound
import PCenter.FolderTree
import PCenter.Lib.Traverse
import PCenter.FolderMoves
import PCenter.AlarmScope
import PCenter.Lib.Gather
import PCenter.MetricsQuery
import PCenter.MetricsCollector
import PCenter.Lib.CaseFold
import PCenter.WebhookFilters
import PCenter.LockoutDoubling
import PCenter.TOTPMigration
import PCenter.RecoveryCodeSpelling
import PCenter.Lib.NestedLoop
import PCenter.Lib.Sorting
import PCenter.StateMessage
import PCenter.ScheduledTargets
import PCenter.Lib.FloatText
import PCenter.SnapshotRetention
import PCenter.GuestSchedules
import PCenter.ConfigUpdates
import PCenter.SnapshotPaths
import PCenter.GuestCommands
import PCenter.AgentForms
import PCenter.TokenCreation
import PCenter.Lib.Like
import PCenter.Library
import PCenter.DrsActivity
import PCenter.AcmeDomains
import PCenter.SmartHealth
import PCenter.TaskWaits
import PCenter.EncryptionKey
import PCenter.Lib.Pattern
import PCenter.Lib.Shell
import PCenter.PgIds
import PCenter.Lib.SemVer
import PCenter.Updater
import PCenter.WebhookDelivery
import PCenter.CephOSDs
import PCenter.Lib.Characters
import PCenter.Tags
import PCenter.TagAssignments
import PCenter.Lib.Paging
import PCenter.Activity
import PCenter.UseWebSocket
import PCenter.ConfigEditors
import PCenter.AlarmDefinitions
import PCenter.AcmePlugins
