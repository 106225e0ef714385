import AccessService.Lib.Kleene
import AccessService.Js.Value
import AccessService.Lib.SqlCondition
import AccessService.Pg.Types
import AccessService.UserGroups.MatchingAgreement
import AccessService.Authorization.SyncQueueMoves
import AccessService.Authorization.WorkerExclusion
import AccessService.Authorization.EnqueueDeduplication
import AccessService.Authorization.TerminalJobs
import AccessService.Authorization.ProjectionWatermark
import AccessService.Lib.Credit
import AccessService.Authorization.WakeUps
import AccessService.Js.Collections
import AccessService.Lib.Faulty
import AccessService.Lib.Table
import AccessService.Persistence.Database
import AccessService.UserGroups.Repositories
import AccessService.UserGroups.EffectiveRoleSync
import AccessService.UserGroups.EffectiveRoleMeaning
import AccessService.UserGroups.GroupGrants
import AccessService.Authorization.UserAuthorizationCache
import AccessService.Authorization.EffectiveRoleProjection
import AccessService.Authorization.ProjectionExactness
import AccessService.UserGroups.MembershipReconciler
import AccessService.Authorization.CacheCoherence
import AccessService.Authorization.ProfileVersions
import AccessService.UserGroups.ReconcilerAtomicity
import AccessService.Lib.Versioned
import AccessService.UserGroups.UserGroupAggregate
import AccessService.UserGroups.GroupUpdates
import AccessService.UserGroups.GroupVersions
import AccessService.Permissions.PermissionDependency
import AccessService.Roles.Role
import AccessService.Roles.RoleUpdates
import AccessService.Roles.RoleVersions
import AccessService.Roles.RoleApplicationService
import AccessService.Roles.RoleEffects
import AccessService.Roles.RoleCacheCoherence
import AccessService.Authorization.BootstrapAuthorization
import AccessService.Authorization.InactiveRoles
import AccessService.Accounts.AccountStore
import AccessService.Accounts.AccountRepositories
import AccessService.Accounts.Sessions
import AccessService.Accounts.Credentials
import AccessService.Accounts.Authentication
import AccessService.Accounts.AccountEffects
import AccessService.Accounts.AccountOperations
import AccessService.Accounts.OffboardedUsers
import AccessService.Accounts.SecurityVersions
import AccessService.Accounts.SessionEffects
import AccessService.Accounts.SessionRevocation
import AccessService.Accounts.LoginEffects
import AccessService.Accounts.Challenges
import AccessService.Accounts.TokenIssue
import AccessService.UserGroups.EmployeeAttributePropagation
import AccessService.Accounts.SessionIndex
import AccessService.Accounts.StatusEvents
import AccessService.Accounts.ConcurrentStatusEvents
import AccessService.Authorization.UrgentJobs
import AccessService.Authorization.RecomputeSweep
import AccessService.Employee.EmployeeStore
import AccessService.Employee.EmployeeEvents
import AccessService.Employee.EmployeeProjection
import AccessService.Employee.ReporteeCounts
import AccessService.Employee.MembershipMirror
import AccessService.Permissions.PermissionGraph
import AccessService.Roles.SystemRoleSeeder
import AccessService.Roles.RolePermissionClosure
import AccessService.Roles.SystemRoleProtection
import AccessService.Authorization.ReconciliationWorker
import AccessService.Authorization.AuthorizationSync
import AccessService.Authorization.FailedSync
import AccessService.Authorization.MembershipPaths
import AccessService.Authorization.CumulativeAccess
import AccessService.Lib.DepthFirst
import AccessService.Permissions.PermissionCatalogValidator
import AccessService.Permissions.PermissionCatalog
import AccessService.Authorization.RoleSyncTargets
import AccessService.Roles.PermissionReplacement
import AccessService.UserGroups.GroupAdministration
import AccessService.UserGroups.GroupAdministrationEffects
import AccessService.UserGroups.RoleReplacement
import AccessService.UserGroups.RequestedRoles
import AccessService.UserGroups.ScopeWellFormed
import AccessService.Accounts.ActiveSessions
import AccessService.ImpactAnalysis.AccessStore
import AccessService.Lib.Sources
import AccessService.ImpactAnalysis.AccessSources
import AccessService.ImpactAnalysis.FullReconciliation
import AccessService.ImpactAnalysis.GroupImpact
import AccessService.ImpactAnalysis.GroupMutations
import AccessService.ImpactAnalysis.RoleImpact
import AccessService.ImpactAnalysis.RoleMutations
import AccessService.ImpactAnalysis.HighImpactGate
import AccessService.ImpactAnalysis.SynchronizedImpact
import AccessService.Js.Grouping
import AccessService.Permissions.CatalogService
import AccessService.Permissions.CatalogViews
import AccessService.Permissions.CatalogReload
import AccessService.Authorization.BootstrapCapabilities
import AccessService.Authorization.JobCompletion
import AccessService.Authorization.SyncStatusProjection
import AccessService.Authorization.TruthfulStatus
import AccessService.Accounts.ConcurrentLockouts
import AccessService.Accounts.LoginIsolation
import AccessService.Accounts.TenantLogins
import AccessService.Accounts.UniformDenials
import AccessService.Accounts.ConcurrentChallenges
import AccessService.Accounts.ConcurrentResetCodes
import AccessService.Accounts.ConcurrentPasswordResets
import AccessService.Accounts.SettingsUpdates
import AccessService.Accounts.ConcurrentSettings
import AccessService.Accounts.MfaFactors
import AccessService.Accounts.IpRangePolicy
import AccessService.Accounts.IpRangeMatching
import AccessService.ImpactAnalysis.ImpactPreviews
import AccessService.ImpactAnalysis.CoverageLoss
import AccessService.UserGroups.AttributeKeys
import AccessService.Lib.Placeholders
import AccessService.UserGroups.MatchingQueryText
import AccessService.Accounts.ConcurrentInvitations
import AccessService.Authorization.LockIdArithmetic
import AccessService.Constants.EffectiveRoleKeys
import AccessService.Permissions.GraphRelations
import AccessService.Lib.Joins
import AccessService.UserGroups.RoleAssignmentImpact
import AccessService.ImpactAnalysis.CriteriaPreview
import AccessService.Authorization.ScheduledScanner
import AccessService.UserGroups.AggregateInvariants
import AccessService.Accounts.CognitoProvisioning
import AccessService.Accounts.CognitoIdentities
import AccessService.Authorization.SweepConvergence
import AccessService.Roles.RoleJournal
import AccessService.Accounts.RootAdminDeliveries
import AccessService.Authorization.JobEndings
import AccessService.UserGroups.GroupJournal
import AccessService.Authorization.AccessConvergence
import AccessService.Authorization.StuckJobRecovery
