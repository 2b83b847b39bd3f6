import PCenter.Auth

/-!
# The route tables of `internal/api/router.go`

`NewRouter` registers its handlers on two multiplexers: the outer one, whose routes carry
their wrappers one by one, and the protected one, mounted under `/api/` behind
`RequireAuth` and `RequireFullAuth`.
-/

namespace Routes

open ServeMux
open Auth (Wrapper)

/-- The handlers, under the names of the methods that `NewRouter` registers. -/
inductive Endpoint where
  | health | handleLogin | handleRegister | handleUserCount | handleCheckAuth
  | handleVerifyTOTP | handleLogout | handleMe | handleChangePassword | handleTOTPSetup
  | handleTOTPVerifySetup | handleTOTPDisable | handleListSessions | handleRevokeSession
  | handleListUsers | handleCreateUser | handleDeleteUser | handleListEvents
  | getWebhooks | createWebhook | updateWebhook | deleteWebhook | testWebhook
  | handleWebSocket | agentWebSocket | agentCommand | getConnectedAgents
  | serveOpenAPIYAML | serveOpenAPIJSON | serveSwaggerUI | serveSwaggerUICSS
  | serveSwaggerUIJS | spaHandler
  | getSummary | getClusters | getNodes | getVMs | getVM | vMAction | getContainers
  | getContainer | containerAction | getAllGuests | getStorage | getStorageContent
  | uploadToStorage | getCeph | runCephCommand | getSmart | getMigrations
  | clearMigration | getDiskMoves | clearDiskMove | getDRSRecommendations | consoleTicket
  | consoleWebsocket | getClusterSummary | getClusterCeph | createClusterCephPool
  | updateClusterCephPool | deleteClusterCephPool | toggleClusterCephFlag
  | createClusterCephOSD | deleteClusterCephOSD | setClusterCephOSDIn
  | setClusterCephOSDOut | scrubClusterCephOSD | createClusterCephMON
  | deleteClusterCephMON | createClusterCephMGR | deleteClusterCephMGR
  | createClusterCephMDS | deleteClusterCephMDS | createClusterCephFS
  | deleteClusterCephFS | getClusterCephCrushMap | preflightCephInstall
  | startCephInstall | getCephJob | listCephJobs | startCephDestroy | getClusterNodes
  | getNodeConfig | updateNodeDNS | updateNodeTimezone | updateNodeHosts
  | createNodeNetworkInterface | updateNodeNetworkInterface | deleteNodeNetworkInterface
  | applyNodeNetwork | revertNodeNetwork | getClusterGuests | clusterVMAction
  | getClusterVMConfig | updateClusterVMConfig | clusterContainerAction
  | getClusterContainerConfig | updateClusterContainerConfig | getVMSnapshots
  | createVMSnapshot | rollbackVMSnapshot | deleteVMSnapshot | getContainerSnapshots
  | createContainerSnapshot | rollbackContainerSnapshot | deleteContainerSnapshot
  | getNextVMID | createClusterVM | createClusterContainer | deleteClusterVM
  | deleteClusterContainer | getClusterHA | getClusterDRS | applyDRSRecommendation
  | dismissDRSRecommendation | getDRSRules | createDRSRule | updateDRSRule
  | deleteDRSRule | getDRSViolations | getHAGroups | enableHA | disableHA
  | getClusterNetwork | getClusterNetworkInterfaces | getClusterSDNZones
  | getClusterSDNVNets | getClusterSDNSubnets | getQDeviceStatus
  | getMaintenancePreflight | getMaintenanceState | enterMaintenanceMode
  | exitMaintenanceMode | migrateVM | migrateContainer | clusterMigrateVM
  | clusterMigrateContainer | clusterMoveVMDisk | clusterMoveContainerVolume | cloneVM
  | cloneContainer | convertVMToTemplate | convertContainerToTemplate
  | getNodeCertificates | renewNodeACMECertificate | uploadNodeCustomCertificate
  | deleteNodeCustomCertificate | getNodeACMEDomains | setNodeACMEDomains
  | listACMEAccounts | createACMEAccount | updateACMEAccount | deleteACMEAccount
  | listACMEPlugins | createACMEPlugin | updateACMEPlugin | deleteACMEPlugin
  | listACMEDirectories | getACMETOSURL | listACMEChallengeSchemas | createBackup
  | listPools | getPool | createPool | updatePool | deletePool
  | getClusterNodesForMigration | getMetrics | getNodeMetrics | getVMMetrics
  | getContainerMetrics | getClusterMetrics | getTaskStatus | getActivity | getFolderTree
  | createFolder | renameFolder | deleteFolder | moveFolder | addFolderMember
  | removeFolderMember | moveResource | getLibraryItems | getLibraryCategories
  | getLibraryItem | createLibraryItem | updateLibraryItem | deleteLibraryItem
  | deployLibraryItem | getRunningConfig | getActiveAlarms | getAlarmDefinitions
  | createAlarmDefinition | updateAlarmDefinition | deleteAlarmDefinition
  | acknowledgeAlarm | getAlarmHistory | getAlarmChannels | createAlarmChannel
  | deleteAlarmChannel | testAlarmChannel | getTags | getTagCategories | createTag
  | updateTag | deleteTag | getAllTagAssignments | assignTag | unassignTag
  | bulkAssignTags | getVersion | getScheduledTasks | createScheduledTask
  | updateScheduledTask | deleteScheduledTask | getTaskRuns | getRoles | createRole
  | updateRole | deleteRole | getRoleAssignments | createRoleAssignment
  | deleteRoleAssignment | getAllPermissions | getMyPermissions | listDatacenters
  | createDatacenter | getDatacenter | updateDatacenter | deleteDatacenter
  | getDatacenterTree | addDatacenterHost | listInventoryClusters
  | createInventoryCluster | getInventoryCluster | updateInventoryCluster
  | deleteInventoryCluster | moveClusterToDatacenter | listClusterHosts | addClusterHost
  | getHost | updateHost | deleteHost | moveHostToCluster | activateHost | setupHostSSH
  | deployAgent | testHostConnection | pveClusterPreflight | createPveCluster
  | getPveClusterJob | pveClusterJoinPreflight | joinPveCluster | reconcileInventory
  deriving DecidableEq

/-- `mux.HandleFunc("METHOD /path", handler)` -/
def on {H : Type} (method : String) (segments : List Segment) (handler : H) : Entry H :=
  ⟨⟨some method, segments, false⟩, handler⟩

/-- `mux.Handle("/path/", handler)`: every method, the whole subtree. -/
def under {H : Type} (segments : List Segment) (handler : H) : Entry H :=
  ⟨⟨none, segments, true⟩, handler⟩

section Protected

/-- The routes over all clusters. -/
def globalRoutes : List (Entry Endpoint) :=
  [ on "GET" ["api", "summary"] .getSummary,
    on "GET" ["api", "clusters"] .getClusters,
    on "GET" ["api", "nodes"] .getNodes,
    on "GET" ["api", "vms"] .getVMs,
    on "GET" ["api", "vms", .wild "vmid"] .getVM,
    on "POST" ["api", "vms", .wild "vmid", .wild "action"] .vMAction,
    on "GET" ["api", "containers"] .getContainers,
    on "GET" ["api", "containers", .wild "vmid"] .getContainer,
    on "POST" ["api", "containers", .wild "vmid", .wild "action"] .containerAction,
    on "GET" ["api", "guests"] .getAllGuests,
    on "GET" ["api", "storage"] .getStorage,
    on "GET" ["api", "storage", .wild "storage", "content"] .getStorageContent,
    on "POST" ["api", "storage", .wild "storage", "upload"] .uploadToStorage,
    on "GET" ["api", "ceph"] .getCeph,
    on "POST" ["api", "ceph", "command"] .runCephCommand,
    on "GET" ["api", "smart"] .getSmart,
    on "GET" ["api", "migrations"] .getMigrations,
    on "DELETE" ["api", "migrations", .wild "upid"] .clearMigration,
    on "GET" ["api", "disk-moves"] .getDiskMoves,
    on "DELETE" ["api", "disk-moves", .wild "upid"] .clearDiskMove,
    on "GET" ["api", "drs", "recommendations"] .getDRSRecommendations,
    on "GET" ["api", "console", .wild "type", .wild "vmid", "ticket"] .consoleTicket,
    on "GET" ["api", "console", .wild "type", .wild "vmid", "ws"] .consoleWebsocket,
    on "POST" ["api", "vms", .wild "vmid", "migrate"] .migrateVM,
    on "POST" ["api", "containers", .wild "vmid", "migrate"] .migrateContainer,
    on "GET" ["api", "metrics"] .getMetrics,
    on "GET" ["api", "metrics", "node", .wild "node"] .getNodeMetrics,
    on "GET" ["api", "metrics", "vm", .wild "vmid"] .getVMMetrics,
    on "GET" ["api", "metrics", "ct", .wild "vmid"] .getContainerMetrics,
    on "GET" ["api", "activity"] .getActivity,
    on "GET" ["api", "folders", .wild "tree"] .getFolderTree,
    on "POST" ["api", "folders"] .createFolder,
    on "PUT" ["api", "folders", .wild "id"] .renameFolder,
    on "DELETE" ["api", "folders", .wild "id"] .deleteFolder,
    on "POST" ["api", "folders", .wild "id", "move"] .moveFolder,
    on "POST" ["api", "folders", .wild "id", "members"] .addFolderMember,
    on "DELETE" ["api", "folders", .wild "id", "members"] .removeFolderMember,
    on "POST" ["api", "resources", "move"] .moveResource,
    on "GET" ["api", "library"] .getLibraryItems,
    on "GET" ["api", "library", "categories"] .getLibraryCategories,
    on "GET" ["api", "library", .wild "id"] .getLibraryItem,
    on "POST" ["api", "library"] .createLibraryItem,
    on "PUT" ["api", "library", .wild "id"] .updateLibraryItem,
    on "DELETE" ["api", "library", .wild "id"] .deleteLibraryItem,
    on "POST" ["api", "library", .wild "id", "deploy"] .deployLibraryItem,
    on "GET" ["api", "config"] .getRunningConfig,
    on "GET" ["api", "alarms"] .getActiveAlarms,
    on "GET" ["api", "alarms", "definitions"] .getAlarmDefinitions,
    on "POST" ["api", "alarms", "definitions"] .createAlarmDefinition,
    on "PUT" ["api", "alarms", "definitions", .wild "id"] .updateAlarmDefinition,
    on "DELETE" ["api", "alarms", "definitions", .wild "id"] .deleteAlarmDefinition,
    on "POST" ["api", "alarms", .wild "id", "acknowledge"] .acknowledgeAlarm,
    on "GET" ["api", "alarms", "history"] .getAlarmHistory,
    on "GET" ["api", "alarms", "channels"] .getAlarmChannels,
    on "POST" ["api", "alarms", "channels"] .createAlarmChannel,
    on "DELETE" ["api", "alarms", "channels", .wild "id"] .deleteAlarmChannel,
    on "POST" ["api", "alarms", "channels", .wild "id", "test"] .testAlarmChannel,
    on "GET" ["api", "tags"] .getTags,
    on "GET" ["api", "tags", "categories"] .getTagCategories,
    on "POST" ["api", "tags"] .createTag,
    on "PUT" ["api", "tags", .wild "id"] .updateTag,
    on "DELETE" ["api", "tags", .wild "id"] .deleteTag,
    on "GET" ["api", "tags", "assignments"] .getAllTagAssignments,
    on "POST" ["api", "tags", "assign"] .assignTag,
    on "DELETE" ["api", "tags", "assign"] .unassignTag,
    on "POST" ["api", "tags", "bulk-assign"] .bulkAssignTags,
    on "GET" ["api", "version"] .getVersion,
    on "GET" ["api", "scheduler", "tasks"] .getScheduledTasks,
    on "POST" ["api", "scheduler", "tasks"] .createScheduledTask,
    on "PUT" ["api", "scheduler", "tasks", .wild "id"] .updateScheduledTask,
    on "DELETE" ["api", "scheduler", "tasks", .wild "id"] .deleteScheduledTask,
    on "GET" ["api", "scheduler", "runs"] .getTaskRuns,
    on "GET" ["api", "rbac", "roles"] .getRoles,
    on "POST" ["api", "rbac", "roles"] .createRole,
    on "PUT" ["api", "rbac", "roles", .wild "id"] .updateRole,
    on "DELETE" ["api", "rbac", "roles", .wild "id"] .deleteRole,
    on "GET" ["api", "rbac", "assignments"] .getRoleAssignments,
    on "POST" ["api", "rbac", "assignments"] .createRoleAssignment,
    on "DELETE" ["api", "rbac", "assignments", .wild "id"] .deleteRoleAssignment,
    on "GET" ["api", "rbac", "permissions"] .getAllPermissions,
    on "GET" ["api", "rbac", "my-permissions"] .getMyPermissions ]

def inCluster (segments : List Segment) : List Segment :=
  "api" :: "clusters" :: .wild "cluster" :: segments

/-- The routes below `/api/clusters/{cluster}`. -/
def clusterRoutes : List (Entry Endpoint) :=
  [ on "GET" (inCluster ["summary"]) .getClusterSummary,
    on "GET" (inCluster ["ceph"]) .getClusterCeph,
    on "POST" (inCluster ["ceph", "pool"]) .createClusterCephPool,
    on "PUT" (inCluster ["ceph", "pool", .wild "pool"]) .updateClusterCephPool,
    on "DELETE" (inCluster ["ceph", "pool", .wild "pool"]) .deleteClusterCephPool,
    on "POST" (inCluster ["ceph", "flags", .wild "flag"]) .toggleClusterCephFlag,
    on "POST" (inCluster ["nodes", .wild "node", "ceph", "osd"]) .createClusterCephOSD,
    on "DELETE" (inCluster ["nodes", .wild "node", "ceph", "osd", .wild "osdid"])
      .deleteClusterCephOSD,
    on "POST" (inCluster ["nodes", .wild "node", "ceph", "osd", .wild "osdid", "in"])
      .setClusterCephOSDIn,
    on "POST" (inCluster ["nodes", .wild "node", "ceph", "osd", .wild "osdid", "out"])
      .setClusterCephOSDOut,
    on "POST" (inCluster ["nodes", .wild "node", "ceph", "osd", .wild "osdid", "scrub"])
      .scrubClusterCephOSD,
    on "POST" (inCluster ["nodes", .wild "node", "ceph", "mon"]) .createClusterCephMON,
    on "DELETE" (inCluster ["nodes", .wild "node", "ceph", "mon", .wild "monid"])
      .deleteClusterCephMON,
    on "POST" (inCluster ["nodes", .wild "node", "ceph", "mgr"]) .createClusterCephMGR,
    on "DELETE" (inCluster ["nodes", .wild "node", "ceph", "mgr", .wild "mgrid"])
      .deleteClusterCephMGR,
    on "POST" (inCluster ["nodes", .wild "node", "ceph", "mds"]) .createClusterCephMDS,
    on "DELETE" (inCluster ["nodes", .wild "node", "ceph", "mds", .wild "name"])
      .deleteClusterCephMDS,
    on "POST" (inCluster ["nodes", .wild "node", "ceph", "fs", .wild "name"])
      .createClusterCephFS,
    on "DELETE" (inCluster ["nodes", .wild "node", "ceph", "fs", .wild "name"])
      .deleteClusterCephFS,
    on "GET" (inCluster ["ceph", "crush"]) .getClusterCephCrushMap,
    on "POST" (inCluster ["ceph", "install", "preflight"]) .preflightCephInstall,
    on "POST" (inCluster ["ceph", "install"]) .startCephInstall,
    on "GET" (inCluster ["ceph", "jobs", .wild "job_id"]) .getCephJob,
    on "GET" (inCluster ["ceph", "jobs"]) .listCephJobs,
    on "POST" (inCluster ["ceph", "destroy"]) .startCephDestroy,
    on "GET" (inCluster ["nodes"]) .getClusterNodes,
    on "GET" (inCluster ["nodes", .wild "node", "config"]) .getNodeConfig,
    on "PUT" (inCluster ["nodes", .wild "node", "dns"]) .updateNodeDNS,
    on "PUT" (inCluster ["nodes", .wild "node", "time"]) .updateNodeTimezone,
    on "PUT" (inCluster ["nodes", .wild "node", "hosts"]) .updateNodeHosts,
    on "POST" (inCluster ["nodes", .wild "node", "network"]) .createNodeNetworkInterface,
    on "PUT" (inCluster ["nodes", .wild "node", "network", .wild "iface"])
      .updateNodeNetworkInterface,
    on "DELETE" (inCluster ["nodes", .wild "node", "network", .wild "iface"])
      .deleteNodeNetworkInterface,
    on "POST" (inCluster ["nodes", .wild "node", "network-apply"]) .applyNodeNetwork,
    on "POST" (inCluster ["nodes", .wild "node", "network-revert"]) .revertNodeNetwork,
    on "GET" (inCluster ["guests"]) .getClusterGuests,
    on "POST" (inCluster ["vms", .wild "vmid", .wild "action"]) .clusterVMAction,
    on "GET" (inCluster ["vms", .wild "vmid", "config"]) .getClusterVMConfig,
    on "PUT" (inCluster ["vms", .wild "vmid", "config"]) .updateClusterVMConfig,
    on "POST" (inCluster ["containers", .wild "vmid", .wild "action"])
      .clusterContainerAction,
    on "GET" (inCluster ["containers", .wild "vmid", "config"]) .getClusterContainerConfig,
    on "PUT" (inCluster ["containers", .wild "vmid", "config"])
      .updateClusterContainerConfig,
    on "GET" (inCluster ["vms", .wild "vmid", "snapshots"]) .getVMSnapshots,
    on "POST" (inCluster ["vms", .wild "vmid", "snapshots"]) .createVMSnapshot,
    on "POST" (inCluster ["vms", .wild "vmid", "snapshots", .wild "snapname", "rollback"])
      .rollbackVMSnapshot,
    on "DELETE" (inCluster ["vms", .wild "vmid", "snapshots", .wild "snapname"])
      .deleteVMSnapshot,
    on "GET" (inCluster ["containers", .wild "vmid", "snapshots"]) .getContainerSnapshots,
    on "POST" (inCluster ["containers", .wild "vmid", "snapshots"]) .createContainerSnapshot,
    on "POST" (inCluster ["containers", .wild "vmid", "snapshots", .wild "snapname", "rollback"])
      .rollbackContainerSnapshot,
    on "DELETE" (inCluster ["containers", .wild "vmid", "snapshots", .wild "snapname"])
      .deleteContainerSnapshot,
    on "GET" (inCluster ["nextid"]) .getNextVMID,
    on "POST" (inCluster ["nodes", .wild "node", "vms"]) .createClusterVM,
    on "POST" (inCluster ["nodes", .wild "node", "containers"]) .createClusterContainer,
    on "DELETE" (inCluster ["vms", .wild "vmid"]) .deleteClusterVM,
    on "DELETE" (inCluster ["containers", .wild "vmid"]) .deleteClusterContainer,
    on "GET" (inCluster ["ha", "status"]) .getClusterHA,
    on "GET" (inCluster ["drs", "recommendations"]) .getClusterDRS,
    on "POST" (inCluster ["drs", "apply", .wild "id"]) .applyDRSRecommendation,
    on "DELETE" (inCluster ["drs", "recommendations", .wild "id"]) .dismissDRSRecommendation,
    on "GET" (inCluster ["drs", "rules"]) .getDRSRules,
    on "POST" (inCluster ["drs", "rules"]) .createDRSRule,
    on "PUT" (inCluster ["drs", "rules", .wild "id"]) .updateDRSRule,
    on "DELETE" (inCluster ["drs", "rules", .wild "id"]) .deleteDRSRule,
    on "GET" (inCluster ["drs", "violations"]) .getDRSViolations,
    on "GET" (inCluster ["ha", "groups"]) .getHAGroups,
    on "POST" (inCluster ["ha", .wild "type", .wild "vmid", "enable"]) .enableHA,
    on "DELETE" (inCluster ["ha", .wild "type", .wild "vmid"]) .disableHA,
    on "GET" (inCluster ["network"]) .getClusterNetwork,
    on "GET" (inCluster ["network", "interfaces"]) .getClusterNetworkInterfaces,
    on "GET" (inCluster ["sdn", "zones"]) .getClusterSDNZones,
    on "GET" (inCluster ["sdn", "vnets"]) .getClusterSDNVNets,
    on "GET" (inCluster ["sdn", "subnets"]) .getClusterSDNSubnets,
    on "GET" (inCluster ["qdevice"]) .getQDeviceStatus,
    on "GET" (inCluster ["maintenance", .wild "node", "preflight"]) .getMaintenancePreflight,
    on "GET" (inCluster ["maintenance", .wild "node", "state"]) .getMaintenanceState,
    on "POST" (inCluster ["maintenance", .wild "node", "enter"]) .enterMaintenanceMode,
    on "POST" (inCluster ["maintenance", .wild "node", "exit"]) .exitMaintenanceMode,
    on "POST" (inCluster ["vms", .wild "vmid", "migrate"]) .clusterMigrateVM,
    on "POST" (inCluster ["containers", .wild "vmid", "migrate"]) .clusterMigrateContainer,
    on "POST" (inCluster ["vms", .wild "vmid", "disk", "move"]) .clusterMoveVMDisk,
    on "POST" (inCluster ["containers", .wild "vmid", "volume", "move"])
      .clusterMoveContainerVolume,
    on "POST" (inCluster ["vms", .wild "vmid", "clone"]) .cloneVM,
    on "POST" (inCluster ["containers", .wild "vmid", "clone"]) .cloneContainer,
    on "POST" (inCluster ["vms", .wild "vmid", "template"]) .convertVMToTemplate,
    on "POST" (inCluster ["containers", .wild "vmid", "template"])
      .convertContainerToTemplate,
    on "GET" (inCluster ["nodes", .wild "node", "certificates"]) .getNodeCertificates,
    on "POST" (inCluster ["nodes", .wild "node", "certificates", "acme", "renew"])
      .renewNodeACMECertificate,
    on "POST" (inCluster ["nodes", .wild "node", "certificates", "custom"])
      .uploadNodeCustomCertificate,
    on "DELETE" (inCluster ["nodes", .wild "node", "certificates", "custom"])
      .deleteNodeCustomCertificate,
    on "GET" (inCluster ["nodes", .wild "node", "acme", "domains"]) .getNodeACMEDomains,
    on "PUT" (inCluster ["nodes", .wild "node", "acme", "domains"]) .setNodeACMEDomains,
    on "GET" (inCluster ["acme", "accounts"]) .listACMEAccounts,
    on "POST" (inCluster ["acme", "accounts"]) .createACMEAccount,
    on "PUT" (inCluster ["acme", "accounts", .wild "name"]) .updateACMEAccount,
    on "DELETE" (inCluster ["acme", "accounts", .wild "name"]) .deleteACMEAccount,
    on "GET" (inCluster ["acme", "plugins"]) .listACMEPlugins,
    on "POST" (inCluster ["acme", "plugins"]) .createACMEPlugin,
    on "PUT" (inCluster ["acme", "plugins", .wild "id"]) .updateACMEPlugin,
    on "DELETE" (inCluster ["acme", "plugins", .wild "id"]) .deleteACMEPlugin,
    on "GET" (inCluster ["acme", "directories"]) .listACMEDirectories,
    on "GET" (inCluster ["acme", "tos"]) .getACMETOSURL,
    on "GET" (inCluster ["acme", "challenge-schema"]) .listACMEChallengeSchemas,
    on "POST" (inCluster ["nodes", .wild "node", "backup"]) .createBackup,
    on "GET" (inCluster ["pools"]) .listPools,
    on "GET" (inCluster ["pools", .wild "poolid"]) .getPool,
    on "POST" (inCluster ["pools"]) .createPool,
    on "PUT" (inCluster ["pools", .wild "poolid"]) .updatePool,
    on "DELETE" (inCluster ["pools", .wild "poolid"]) .deletePool,
    on "GET" (inCluster ["nodes", "migration-targets"]) .getClusterNodesForMigration,
    on "GET" (inCluster ["metrics"]) .getClusterMetrics,
    on "GET" (inCluster ["tasks", .wild "upid"]) .getTaskStatus ]

/-- The routes of the configured inventory. -/
def inventoryRoutes : List (Entry Endpoint) :=
  [ on "GET" ["api", "datacenters"] .listDatacenters,
    on "POST" ["api", "datacenters"] .createDatacenter,
    on "GET" ["api", "datacenters", .wild "id"] .getDatacenter,
    on "PUT" ["api", "datacenters", .wild "id"] .updateDatacenter,
    on "DELETE" ["api", "datacenters", .wild "id"] .deleteDatacenter,
    on "GET" ["api", "datacenters", "tree"] .getDatacenterTree,
    on "POST" ["api", "datacenters", .wild "id", "hosts"] .addDatacenterHost,
    on "GET" ["api", "inventory", "clusters"] .listInventoryClusters,
    on "POST" ["api", "inventory", "clusters"] .createInventoryCluster,
    on "GET" ["api", "inventory", "clusters", .wild "name"] .getInventoryCluster,
    on "PUT" ["api", "inventory", "clusters", .wild "name"] .updateInventoryCluster,
    on "DELETE" ["api", "inventory", "clusters", .wild "name"] .deleteInventoryCluster,
    on "POST" ["api", "inventory", "clusters", .wild "name", "move"]
      .moveClusterToDatacenter,
    on "GET" ["api", "inventory", "clusters", .wild "name", "hosts"] .listClusterHosts,
    on "POST" ["api", "inventory", "clusters", .wild "name", "hosts"] .addClusterHost,
    on "GET" ["api", "inventory", "hosts", .wild "id"] .getHost,
    on "PUT" ["api", "inventory", "hosts", .wild "id"] .updateHost,
    on "DELETE" ["api", "inventory", "hosts", .wild "id"] .deleteHost,
    on "POST" ["api", "inventory", "hosts", .wild "id", "move"] .moveHostToCluster,
    on "POST" ["api", "inventory", "hosts", .wild "id", "activate"] .activateHost,
    on "POST" ["api", "inventory", "hosts", .wild "id", "setup-ssh"] .setupHostSSH,
    on "POST" ["api", "inventory", "hosts", .wild "id", "deploy-agent"] .deployAgent,
    on "POST" ["api", "inventory", "test-connection"] .testHostConnection,
    on "POST" ["api", "inventory", "pve-cluster", "preflight"] .pveClusterPreflight,
    on "POST" ["api", "inventory", "pve-cluster"] .createPveCluster,
    on "GET" ["api", "inventory", "pve-cluster-jobs", .wild "id"] .getPveClusterJob,
    on "POST" ["api", "inventory", "pve-cluster", "join", "preflight"]
      .pveClusterJoinPreflight,
    on "POST" ["api", "inventory", "pve-cluster", "join"] .joinPveCluster,
    on "POST" ["api", "inventory", "reconcile"] .reconcileInventory ]

def protectedMux : List (Entry Endpoint) := globalRoutes ++ clusterRoutes ++ inventoryRoutes

end Protected

section Outer

inductive Target where
  | endpoint (e : Endpoint)
  | protectedMux
  deriving DecidableEq

/-- A handler of the outer multiplexer inside its wrappers, the outermost first. -/
structure Route where
  wrappers : List Wrapper
  target : Target
  deriving DecidableEq

def bare (e : Endpoint) : Route := ⟨[], .endpoint e⟩

def session (e : Endpoint) : Route := ⟨[.requireAuth], .endpoint e⟩

def full (e : Endpoint) : Route := ⟨[.requireAuth, .requireFullAuth], .endpoint e⟩

def fullCSRF (e : Endpoint) : Route :=
  ⟨[.requireAuth, .requireFullAuth, .csrfProtection], .endpoint e⟩

def adminOnly (e : Endpoint) : Route :=
  ⟨[.requireAuth, .requireFullAuth, .requireAdmin], .endpoint e⟩

def adminCSRF (e : Endpoint) : Route :=
  ⟨[.requireAuth, .requireFullAuth, .requireAdmin, .csrfProtection], .endpoint e⟩

def authRoutes : List (Entry Route) :=
  [ on "POST" ["api", "auth", "login"] (bare .handleLogin),
    on "POST" ["api", "auth", "register"] (bare .handleRegister),
    on "GET" ["api", "auth", "user-count"] (bare .handleUserCount),
    on "GET" ["api", "auth", "check"] (bare .handleCheckAuth),
    on "POST" ["api", "auth", "verify-totp"] (session .handleVerifyTOTP),
    on "POST" ["api", "auth", "logout"] (session .handleLogout),
    on "GET" ["api", "auth", "me"] (session .handleMe),
    on "PUT" ["api", "auth", "password"]
      ⟨[.requireAuth, .csrfProtection], .endpoint .handleChangePassword⟩,
    on "POST" ["api", "auth", "totp", "setup"] (fullCSRF .handleTOTPSetup),
    on "POST" ["api", "auth", "totp", "verify-setup"] (fullCSRF .handleTOTPVerifySetup),
    on "DELETE" ["api", "auth", "totp"] (fullCSRF .handleTOTPDisable),
    on "GET" ["api", "auth", "sessions"] (full .handleListSessions),
    on "DELETE" ["api", "auth", "sessions", .wild "id"] (fullCSRF .handleRevokeSession),
    on "GET" ["api", "users"] (adminOnly .handleListUsers),
    on "POST" ["api", "users"] (adminCSRF .handleCreateUser),
    on "DELETE" ["api", "users", .wild "id"] (adminCSRF .handleDeleteUser),
    on "GET" ["api", "auth", "events"] (adminOnly .handleListEvents),
    on "GET" ["api", "webhooks"] (adminOnly .getWebhooks),
    on "POST" ["api", "webhooks"] (adminCSRF .createWebhook),
    on "PUT" ["api", "webhooks", .wild "id"] (adminCSRF .updateWebhook),
    on "DELETE" ["api", "webhooks", .wild "id"] (adminCSRF .deleteWebhook),
    on "POST" ["api", "webhooks", .wild "id", "test"] (adminCSRF .testWebhook),
    on "GET" ["ws"] ⟨[.authenticatedWebSocket], .endpoint .handleWebSocket⟩ ]

/-- The agents' WebSocket, and the two routes that drive agents over HTTP. -/
def agentRoutes : List (Entry Route) :=
  [ on "GET" ["api", "agent", "ws"] (bare .agentWebSocket),
    on "POST" ["api", "agent", "command"] (bare .agentCommand),
    on "GET" ["api", "agent", "connected"] (bare .getConnectedAgents) ]

def docRoutes : List (Entry Route) :=
  [ on "GET" ["api", "openapi.yaml"] (bare .serveOpenAPIYAML),
    on "GET" ["api", "openapi.json"] (bare .serveOpenAPIJSON),
    on "GET" ["api", "docs"] (bare .serveSwaggerUI),
    on "GET" ["api", "swagger-ui", "swagger-ui.css"] (bare .serveSwaggerUICSS),
    on "GET" ["api", "swagger-ui", "swagger-ui-bundle.js"] (bare .serveSwaggerUIJS) ]

/-- The outer multiplexer, with authentication (`authSvc`) and agents (`agentHub`) or
without them. -/
def mux (authSvc agentHub : Bool) : List (Entry Route) :=
  [on "GET" ["health"] (bare .health)]
    ++ (if authSvc then authRoutes else [on "GET" ["ws"] (bare .handleWebSocket)])
    ++ (if agentHub then agentRoutes else [])
    ++ docRoutes
    ++ [ under ["api"]
          ⟨if authSvc then [.requireAuth, .requireFullAuth] else [], .protectedMux⟩,
        under [] (bare .spaHandler) ]

end Outer

end Routes
