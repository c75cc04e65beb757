/-
  RedisOperator.Webhook.Validator

  `rediscluster_validator.go`: what the validating webhook makes of an object.
  A check that fails adds a field error, with the path, the value and the text
  of the source; an object passes if there is none.

  What the API server returns to the validator's reader is given with it; so
  are the order in which it visits the storage classes and what the Kubernetes
  library has to say about object names.  The CRD schema, which the API server
  applies by itself, is `SchemaAdmits`.
-/

import RedisOperator.Cluster.Requests

namespace RedisOperator

open Lib

/-! ## Field errors -/

/-- `field.ErrorType`. -/
inductive FieldErrorType
  | required | invalid | forbidden | notFound | internal
  deriving DecidableEq, Repr

/-- The value a field error complains about. -/
inductive BadValue
  | omitted | int (n : Int) | bool (b : Bool) | text (s : String) | quantity (bytes : Int)
  deriving DecidableEq, Repr

/-- `field.Error`. -/
structure FieldError where
  type : FieldErrorType
  field : String
  badValue : BadValue := .omitted
  detail : String := ""
  deriving DecidableEq, Repr

/-- The error, where the condition holds. -/
def reject (c : Prop) [Decidable c] (e : FieldError) : List FieldError := if c then [e] else []

@[simp] theorem reject_eq_nil {c : Prop} [Decidable c] {e : FieldError} :
    reject c e = [] ↔ ¬ c := by
  unfold reject
  split <;> simp [*]

/-! ## Messages -/

def sentinelInstancesMinMessage : String := "sentinel mode requires at least 3 redis instances"
def clusterShardsMinMessage : String := "cluster mode requires spec.shards >= 3"
def clusterInstancesForbiddenMessage : String :=
  "spec.instances is not allowed in cluster mode; use shards and replicasPerShard"
def clusterMinSyncUnsupportedMessage : String := "minSyncReplicas is not supported in cluster mode"
def clusterMaxSyncUnsupportedMessage : String := "maxSyncReplicas is not supported in cluster mode"
def clusterReplicaModeUnsupported : String := "replicaMode is not supported in cluster mode"
def tlsSecretRequiredMessage : String := "tlsSecret is required when caSecret is set"
def caSecretRequiredMessage : String := "caSecret is required when tlsSecret is set"
def primaryUpdateApprovalValue : String := "must be \"true\" when present"
def maintenanceSingleInstanceMessage : String :=
  "nodeMaintenanceWindow.reusePVC=false is not allowed for single-instance clusters; " ++
    "set reusePVC=true or scale up first"
def replicaModeSourceRequiredMessage : String := "source is required when replicaMode.enabled=true"
def replicaModeHostRequiredMessage : String :=
  "source.host is required when replicaMode.enabled=true"
def replicaModePromoteMessage : String :=
  "replicaMode.promote=true requires replicaMode.enabled=true"
def replicaModeDisableMessage : String :=
  "replicaMode.enabled cannot be disabled directly; set replicaMode.promote=true first"
def ephemeralBootstrapMessage : String :=
  "bootstrap is not supported with ephemeral storage (storage.type=emptyDir); " ++
    "restored data would be lost when pods are recreated"
def ephemeralStorageClassMessage : String :=
  "storageClassName has no effect with ephemeral storage (storage.type=emptyDir); remove it"
def storageTypeImmutableMessage : String :=
  "storage.type is immutable after creation; switching between pvc and emptyDir would " ++
    "destroy or migrate data"
def memoryRedisConflictMessage : String :=
  "configure Redis memory via spec.memory; remove maxmemory/maxmemory-policy from spec.redis"
def memoryMutualExclusiveMessage : String :=
  "spec.memory.maxMemory and spec.memory.maxMemoryPercent are mutually exclusive; set only one"
def memoryPercentRequiresLimit : String :=
  "spec.memory.maxMemoryPercent requires spec.resources.limits.memory to be set"
def memoryExceedsLimitMessage : String :=
  "spec.memory.maxMemory must not exceed spec.resources.limits.memory"
def memoryNonPositiveMessage : String := "spec.memory.maxMemory must be greater than 0"
def modeTransitionUnsupportedMessage : String :=
  "unsupported mode transition; only standalone->sentinel is supported as an in-place " ++
    "migration (set instances>=3 and do not enable TLS). See " ++
    "docs/runbooks/standalone-to-sentinel-migration.md"
def modeMigrationNotReadyMessage : String :=
  "cannot migrate standalone->sentinel until status.currentPrimary is set; wait for the " ++
    "cluster to become Healthy before changing mode"
def modeMigrationTLSMessage : String :=
  "cannot migrate standalone->sentinel in place for a TLS-enabled cluster; the in-place " ++
    "migration does not support TLS (clearing tlsSecret/caSecret in the same change would " ++
    "strand the migration). Sentinel mode itself does support TLS for clusters created as " ++
    "sentinel. Use the backup/recreate path. See docs/runbooks/standalone-to-sentinel-migration.md"

/-! ## The validator -/

/-- What the validator's reader gets from the API server. -/
structure Reader where
  getSecret : String → Api Unit
  getBackup : String → Api RedisBackup
  listClusterPVCs : Api (List PVC)
  getStorageClass : String → Api StorageClass

/-- `RedisClusterValidator`, for an object in `objectNamespace`. -/
structure RedisClusterValidator where
  reader : Option Reader
  objectNamespace : String
  /-- `validation.IsDNS1123Subdomain`: what is wrong with a name -/
  isDNS1123Subdomain : String → List String
  /-- the order in which a set of names is visited -/
  visit : List String → List String
  visit_perm : ∀ names, (visit names).Perm names

/-- `strings.ToLower`, as far as it yields ASCII: besides the capitals two other
    letters do. -/
def toLower (s : String) : String :=
  s.map fun c => if c = 'İ' then 'i' else if c = 'K' then 'k' else c.toLower

/-- The annotations. -/
def validateAnnotations (annotations : Annotations) : List FieldError :=
  (match annotations.hibernation with
    | none => []
    | some val => reject (val ∉ ["on", "off", "true", "false", ""])
        { type := .invalid, field := "metadata.annotations.redis.io/hibernation"
          badValue := .text val
          detail := "must be \"on\", \"off\", \"true\", \"false\", or empty" }) ++
  match annotations.approvePrimaryUpdate with
    | none => []
    | some val => reject (val ≠ "true" ∧ val ≠ "")
        { type := .invalid, field := "metadata.annotations.redis.io/approve-primary-update"
          badValue := .text val, detail := primaryUpdateApprovalValue }

/-- What cluster mode requires, and what the other modes do. -/
def validateSize (spec : RedisClusterSpec) : List FieldError :=
  if spec.mode = .cluster then
    reject (spec.shards < 3)
      { type := .invalid, field := "spec.shards", badValue := .int spec.shards
        detail := clusterShardsMinMessage } ++
    reject (spec.instances ≠ 0)
      { type := .invalid, field := "spec.instances", badValue := .int spec.instances
        detail := clusterInstancesForbiddenMessage } ++
    reject (spec.minSyncReplicas ≠ 0)
      { type := .invalid, field := "spec.minSyncReplicas", badValue := .int spec.minSyncReplicas
        detail := clusterMinSyncUnsupportedMessage } ++
    reject (spec.maxSyncReplicas ≠ 0)
      { type := .invalid, field := "spec.maxSyncReplicas", badValue := .int spec.maxSyncReplicas
        detail := clusterMaxSyncUnsupportedMessage } ++
    reject (spec.replicaMode ≠ none)
      { type := .forbidden, field := "spec.replicaMode", detail := clusterReplicaModeUnsupported }
  else
    reject (spec.instances < 1)
      { type := .invalid, field := "spec.instances", badValue := .int spec.instances
        detail := "must be at least 1" }

/-- The bounds on synchronous replicas; the difference is one of `int32`s. -/
def validateSyncReplicas (spec : RedisClusterSpec) : List FieldError :=
  reject (spec.mode ≠ .cluster ∧ wrap32 (spec.instances - 1) < spec.minSyncReplicas)
    { type := .invalid, field := "spec.minSyncReplicas", badValue := .int spec.minSyncReplicas
      detail := "must be less than or equal to instances - 1" } ++
  reject (spec.mode ≠ .cluster ∧ spec.maxSyncReplicas < spec.minSyncReplicas)
    { type := .invalid, field := "spec.maxSyncReplicas", badValue := .int spec.maxSyncReplicas
      detail := "must be greater than or equal to minSyncReplicas" }

/-- A window that replaces claims needs a second instance. -/
def validateMaintenance (spec : RedisClusterSpec) : List FieldError :=
  match spec.nodeMaintenanceWindow with
  | some { inProgress := true, reusePVC := some false } =>
    reject (spec.desiredDataInstances = 1)
      { type := .invalid, field := "spec.nodeMaintenanceWindow.reusePVC", badValue := .bool false
        detail := maintenanceSingleInstanceMessage }
  | _ => []

/-- `validateMemory`. -/
def validateMemory (spec : RedisClusterSpec) : List FieldError :=
  match spec.memory with
  | none => []
  | some memory =>
    let limit := spec.memoryLimit.getD 0
    (spec.redis.keys.filter fun key =>
      toLower (trimmed key) = "maxmemory" ∨ toLower (trimmed key) = "maxmemory-policy").map
      (fun key =>
        { type := .forbidden, field := "spec.redis[" ++ key ++ "]"
          detail := memoryRedisConflictMessage }) ++
    reject (memory.maxMemory.isSome = true ∧ memory.maxMemoryPercent.isSome = true)
      { type := .forbidden, field := "spec.memory.maxMemoryPercent"
        detail := memoryMutualExclusiveMessage } ++
    (match memory.maxMemoryPercent with
      | none => []
      | some pct => reject (limit ≤ 0)
          { type := .invalid, field := "spec.memory.maxMemoryPercent", badValue := .int pct
            detail := memoryPercentRequiresLimit }) ++
    match memory.maxMemory with
      | none => []
      | some v =>
        if v ≤ 0 then
          [{ type := .invalid, field := "spec.memory.maxMemory", badValue := .quantity v
             detail := memoryNonPositiveMessage }]
        else reject (0 < limit ∧ limit < v)
          { type := .invalid, field := "spec.memory.maxMemory", badValue := .quantity v
            detail := memoryExceedsLimitMessage }

/-- `validateStorage`. -/
def validateStorage (spec : RedisClusterSpec) : List FieldError :=
  if spec.isEphemeral = false then []
  else
    (match spec.bootstrap with
      | none => []
      | some bootstrap => reject (bootstrap.backupName ≠ "")
          { type := .forbidden, field := "spec.bootstrap", detail := ephemeralBootstrapMessage }) ++
    match spec.storageClassName with
      | none => []
      | some storageClassName => reject (storageClassName ≠ "")
          { type := .forbidden, field := "spec.storage.storageClassName"
            detail := ephemeralStorageClassMessage }

/-- `replicaModeEnabled`. -/
def replicaModeEnabled (replicaMode : Option ReplicaModeSpec) : Bool :=
  match replicaMode with
  | none => false
  | some m => m.enabled

/-- `bootstrapBackupName` of package `webhooks`. -/
def Webhook.bootstrapBackupName (spec : Option BootstrapSpec) : String :=
  match spec with
  | none => ""
  | some bootstrap => bootstrap.backupName

/-- `validateModeTransition`. -/
def validateModeTransition (oldCluster newCluster : RedisCluster) : List FieldError :=
  if oldCluster.spec.mode = .standalone ∧ newCluster.spec.mode = .sentinel then
    if newCluster.status.currentPrimary = "" then
      [{ type := .forbidden, field := "spec.mode", detail := modeMigrationNotReadyMessage }]
    else reject (oldCluster.spec.tlsSecret ≠ none ∨ oldCluster.spec.caSecret ≠ none ∨
        newCluster.spec.tlsSecret ≠ none ∨ newCluster.spec.caSecret ≠ none)
      { type := .forbidden, field := "spec.mode", detail := modeMigrationTLSMessage }
  else [{ type := .forbidden, field := "spec.mode", detail := modeTransitionUnsupportedMessage }]

namespace RedisClusterValidator

variable (v : RedisClusterValidator)

/-- The lookup of the source's secret. -/
def validateSourceSecret (authSecretName : String) : List FieldError :=
  match v.reader with
  | none => []
  | some reader =>
    match reader.getSecret authSecretName with
    | .ok _ => []
    | .error err =>
      if err.reason = .notFound then
        [{ type := .notFound, field := "spec.replicaMode.source.authSecretName"
           badValue := .text authSecretName }]
      else
        [{ type := .internal, field := "spec.replicaMode.source.authSecretName"
           detail := "getting secret " ++ v.objectNamespace ++ "/" ++ authSecretName ++ ": " ++
             err.message }]

/-- The source of a replica cluster. -/
def validateSource (source : ReplicaSource) : List FieldError :=
  let authSecretName := trimmed source.authSecretName
  reject (trimmed source.host = "")
    { type := .required, field := "spec.replicaMode.source.host"
      detail := replicaModeHostRequiredMessage } ++
  reject (source.port < 0 ∨ 65535 < source.port)
    { type := .invalid, field := "spec.replicaMode.source.port", badValue := .int source.port
      detail := "must be between 1 and 65535 when set" } ++
  reject (source.authSecretName ≠ "" ∧ authSecretName = "")
    { type := .invalid, field := "spec.replicaMode.source.authSecretName"
      badValue := .text source.authSecretName, detail := "must not be empty when set" } ++
  if authSecretName ≠ "" then v.validateSourceSecret authSecretName else []

/-- `validateReplicaMode`. -/
def validateReplicaMode (spec : RedisClusterSpec) : List FieldError :=
  match spec.replicaMode with
  | none => []
  | some replicaMode =>
    reject (replicaMode.promote = true ∧ replicaMode.enabled = false)
      { type := .invalid, field := "spec.replicaMode.promote"
        badValue := .bool replicaMode.promote, detail := replicaModePromoteMessage } ++
    if replicaMode.enabled = false then []
    else
      match replicaMode.source with
      | none =>
        [{ type := .required, field := "spec.replicaMode.source"
           detail := replicaModeSourceRequiredMessage }]
      | some source => v.validateSource source

/-- `validateConnectionSecret`. -/
def validateConnectionSecret (spec : RedisClusterSpec) : List FieldError :=
  match spec.connectionSecret with
  | none => []
  | some connectionSecret =>
    let name := trimmed connectionSecret
    if name = "" then
      [{ type := .required, field := "spec.connectionSecret.name"
         detail := "name is required when connectionSecret is set" }]
    else (v.isDNS1123Subdomain name).map fun msg =>
      { type := .invalid, field := "spec.connectionSecret.name", badValue := .text name
        detail := msg }

/-- What is wrong with a backup one may bootstrap from. -/
def validateBootstrapBackup (backupName : String) (backup : RedisBackup) : List FieldError :=
  reject (backup.phase ≠ .completed)
    { type := .invalid, field := "spec.bootstrap.backupName", badValue := .text backupName
      detail := "referenced RedisBackup must be in phase " ++
        quote BackupPhase.completed.text.toList } ++
  (match validateDestination backup.destination with
    | none => []
    | some err =>
      [{ type := .invalid, field := "spec.bootstrap.backupName", badValue := .text backupName
         detail := "referenced RedisBackup has an invalid destination: " ++ err }]) ++
  reject (backup.backupPath = "" ∧ backup.shardArtifacts.len = 0)
    { type := .invalid, field := "spec.bootstrap.backupName", badValue := .text backupName
      detail := "referenced RedisBackup must have status.backupPath or status.shardArtifacts set" }

/-- `validateBootstrapReference`. -/
def validateBootstrapReference (spec : RedisClusterSpec) : List FieldError :=
  let backupName := Webhook.bootstrapBackupName spec.bootstrap
  if backupName = "" then []
  else
    match v.reader with
    | none =>
      [{ type := .internal, field := "spec.bootstrap.backupName"
         detail := "validator reader is not configured" }]
    | some reader =>
      match reader.getBackup backupName with
      | .ok backup => validateBootstrapBackup backupName backup
      | .error err =>
        if err.reason = .notFound then
          [{ type := .notFound, field := "spec.bootstrap.backupName"
             badValue := .text backupName }]
        else
          [{ type := .internal, field := "spec.bootstrap.backupName"
             detail := "fetching RedisBackup " ++ v.objectNamespace ++ "/" ++ backupName ++
               ": " ++ err.message }]

/-- `validate`. -/
def validate (cluster : RedisCluster) : List FieldError :=
  let spec := cluster.spec
  reject (spec.mode = .sentinel ∧ spec.instances < 3)
    { type := .invalid, field := "spec.instances", badValue := .int spec.instances
      detail := sentinelInstancesMinMessage } ++
  reject (spec.tlsSecret ≠ none ∧ spec.caSecret = none)
    { type := .required, field := "spec.caSecret", detail := caSecretRequiredMessage } ++
  reject (spec.caSecret ≠ none ∧ spec.tlsSecret = none)
    { type := .required, field := "spec.tlsSecret", detail := tlsSecretRequiredMessage } ++
  validateAnnotations cluster.annotations ++
  validateSize spec ++
  validateSyncReplicas spec ++
  validateMaintenance spec ++
  (if spec.mode ≠ .cluster then v.validateReplicaMode spec else []) ++
  v.validateConnectionSecret spec ++
  v.validateBootstrapReference spec ++
  validateStorage spec ++
  validateMemory spec

/-! ## Updates -/

/-- The largest request among the claims. -/
def maxRequestedStorage (pvcs : List PVC) : Int :=
  pvcs.foldl (fun largest pvc => if largest < pvc.request then pvc.request else largest) 0

/-- A storage class that may not be expanded, among those visited. -/
def findUnexpandable (reader : Reader) : List String → Except String (Option String)
  | [] => .ok none
  | name :: names =>
    match reader.getStorageClass name with
    | .error err =>
      if err.reason = .notFound then
        .ok (some ("storageClass " ++ quote name.toList ++ " was not found"))
      else .error ("getting storageClass " ++ quote name.toList ++ ": " ++ err.message)
    | .ok storageClass =>
      if storageClass.allowVolumeExpansion ≠ some true then
        .ok (some ("storageClass " ++ quote name.toList ++ " does not allow volume expansion"))
      else findUnexpandable reader names

/-- `validateStorageClassExpansion`: why the storage cannot grow, if it cannot. -/
def validateStorageClassExpansion (spec : RedisClusterSpec) : Except String (Option String) :=
  match v.reader with
  | none => .ok none
  | some reader =>
    match reader.listClusterPVCs with
    | .error err => .error ("listing cluster PVCs: " ++ err.message)
    | .ok pvcs =>
      let named := (spec.storageClassName :: pvcs.map PVC.storageClassName).filterMap id
      findUnexpandable reader (v.visit ((named.filter fun name => name ≠ "").dedup))

/-- The claims stand in the way of smaller storage.  The size the source prints
    into its text is given as the value. -/
def validateShrink (size : Int) : List FieldError :=
  match v.reader with
  | none =>
    [{ type := .forbidden, field := "spec.storage.size"
       detail := "storage size cannot be decreased after creation; only increases are allowed" }]
  | some reader =>
    match reader.listClusterPVCs with
    | .error err =>
      [{ type := .internal, field := "spec.storage.size"
         detail := "listing cluster PVCs: " ++ err.message }]
    | .ok pvcs =>
      reject (size < maxRequestedStorage pvcs)
        { type := .forbidden, field := "spec.storage.size"
          badValue := .quantity (maxRequestedStorage pvcs)
          detail := "storage size cannot be decreased below currently requested PVC size" }

/-- The storage classes stand in the way of larger storage. -/
def validateGrowth (spec : RedisClusterSpec) : List FieldError :=
  match v.validateStorageClassExpansion spec with
  | .error err => [{ type := .internal, field := "spec.storage.size", detail := err }]
  | .ok none => []
  | .ok (some why) => [{ type := .forbidden, field := "spec.storage.size", detail := why }]

/-- Changes of replica mode. -/
def validateReplicaModeChange (old new : Option ReplicaModeSpec) : List FieldError :=
  reject (replicaModeEnabled old = true ∧ replicaModeEnabled new = false ∧
      (old.any ReplicaModeSpec.promote) = false)
    { type := .forbidden, field := "spec.replicaMode.enabled"
      detail := replicaModeDisableMessage } ++
  reject (replicaModeEnabled old = false ∧ (new.any ReplicaModeSpec.promote) = true)
    { type := .forbidden, field := "spec.replicaMode.promote"
      detail := "replicaMode.promote can only be set after replicaMode is already enabled" }

/-- `validateUpdate`. -/
def validateUpdate (oldCluster newCluster : RedisCluster) : List FieldError :=
  let old := oldCluster.spec
  let new := newCluster.spec
  reject (old.storageType ≠ new.storageType)
    { type := .forbidden, field := "spec.storage.type", detail := storageTypeImmutableMessage } ++
  (if new.isEphemeral = true then []
    else if new.storageSize < old.storageSize then v.validateShrink new.storageSize
    else if old.storageSize < new.storageSize then v.validateGrowth new
    else []) ++
  (if old.mode ≠ new.mode then validateModeTransition oldCluster newCluster else []) ++
  reject (Webhook.bootstrapBackupName old.bootstrap ≠ Webhook.bootstrapBackupName new.bootstrap)
    { type := .forbidden, field := "spec.bootstrap.backupName"
      detail := "bootstrap backupName is immutable after creation" } ++
  validateReplicaModeChange old.replicaMode new.replicaMode

/-- `ValidateCreate` lets the object through. -/
def ValidateCreate (cluster : RedisCluster) : Bool := (v.validate cluster).isEmpty

/-- `ValidateUpdate` lets the change through. -/
def ValidateUpdate (oldCluster newCluster : RedisCluster) : Bool :=
  (v.validate newCluster ++ v.validateUpdate oldCluster newCluster).isEmpty

end RedisClusterValidator

/-! ## Admission -/

/-- The bounds of the CRD schema on the counts of a spec.  A count that is left
    out reads as zero. -/
structure SchemaAdmits (spec : RedisClusterSpec) : Prop where
  instances : 0 ≤ spec.instances ∧ spec.instances < 2 ^ 31
  shards : (spec.shards = 0 ∨ 3 ≤ spec.shards) ∧ spec.shards < 2 ^ 31
  replicasPerShard : 0 ≤ spec.replicasPerShard ∧ spec.replicasPerShard < 2 ^ 31
  minSyncReplicas : 0 ≤ spec.minSyncReplicas ∧ spec.minSyncReplicas < 2 ^ 31
  maxSyncReplicas : 0 ≤ spec.maxSyncReplicas ∧ spec.maxSyncReplicas < 2 ^ 31

instance (spec : RedisClusterSpec) : Decidable (SchemaAdmits spec) :=
  decidable_of_iff
    ((0 ≤ spec.instances ∧ spec.instances < 2 ^ 31) ∧
      ((spec.shards = 0 ∨ 3 ≤ spec.shards) ∧ spec.shards < 2 ^ 31) ∧
      (0 ≤ spec.replicasPerShard ∧ spec.replicasPerShard < 2 ^ 31) ∧
      (0 ≤ spec.minSyncReplicas ∧ spec.minSyncReplicas < 2 ^ 31) ∧
      (0 ≤ spec.maxSyncReplicas ∧ spec.maxSyncReplicas < 2 ^ 31))
    ⟨fun ⟨a, b, c, d, e⟩ => ⟨a, b, c, d, e⟩, fun ⟨a, b, c, d, e⟩ => ⟨a, b, c, d, e⟩⟩

/-- Schema and webhook let the object in. -/
structure Admitted (v : RedisClusterValidator) (cluster : RedisCluster) : Prop where
  schema : SchemaAdmits cluster.spec
  webhook : v.validate cluster = []

section

variable {v : RedisClusterValidator} {cluster : RedisCluster}

/-- Every check of an admitted object passed. -/
theorem Admitted.checks (h : Admitted v cluster) :
    validateSize cluster.spec = [] ∧
      (cluster.spec.mode ≠ .cluster → v.validateReplicaMode cluster.spec = []) := by
  have hall := h.webhook
  simp only [RedisClusterValidator.validate, List.append_eq_nil_iff] at hall
  obtain ⟨⟨⟨⟨⟨⟨⟨-, hsize⟩, -⟩, -⟩, hreplica⟩, -⟩, -⟩, -⟩ := hall.1
  exact ⟨hsize, fun hmode => by rwa [if_pos hmode] at hreplica⟩

/-- A sharded cluster has its three shards, and no replica mode. -/
theorem Admitted.cluster_mode (h : Admitted v cluster) (hmode : cluster.spec.mode = .cluster) :
    3 ≤ cluster.spec.shards ∧ cluster.spec.replicaMode = none := by
  have hsize := h.checks.1
  simp only [validateSize, hmode, ↓reduceIte, List.append_eq_nil_iff, reject_eq_nil, not_lt,
    ne_eq, not_not] at hsize
  exact ⟨hsize.1.1.1.1, hsize.2⟩

/-- A replica cluster that is admitted says where its source is. -/
theorem Admitted.source (h : Admitted v cluster) (henabled : isReplicaModeEnabled cluster = true) :
    ∃ source, cluster.spec.replicaMode.bind ReplicaModeSpec.source = some source ∧
      trimmed source.host ≠ "" ∧
      (source.authSecretName ≠ "" → trimmed source.authSecretName ≠ "") := by
  have hmode : cluster.spec.mode ≠ .cluster := by
    intro hmode
    rw [isReplicaModeEnabled, (h.cluster_mode hmode).2] at henabled
    exact absurd henabled (by decide)
  have hchecked := h.checks.2 hmode
  unfold isReplicaModeEnabled at henabled
  unfold RedisClusterValidator.validateReplicaMode at hchecked
  cases hreplica : cluster.spec.replicaMode with
  | none => simp [hreplica] at henabled
  | some replicaMode =>
    simp only [hreplica] at henabled hchecked
    cases hsource : replicaMode.source with
    | none => simp [henabled, hsource] at hchecked
    | some source =>
      simp only [henabled, hsource, RedisClusterValidator.validateSource,
        List.append_eq_nil_iff, reject_eq_nil, Bool.true_eq_false, if_false, not_and,
        ne_eq] at hchecked
      exact ⟨source, by rw [Option.bind_some, hsource], hchecked.2.1.1.1, hchecked.2.1.2⟩

end

/-! ## Memory -/

section

variable {spec : RedisClusterSpec} {memory : MemorySpec} {pct limit : Int}

/-- A percentage is admitted only without an absolute bound. -/
theorem maxMemory_eq_none_of_admitted (hmemory : spec.memory = some memory)
    (hpct : memory.maxMemoryPercent = some pct)
    (hvalid : validateMemory spec = []) : memory.maxMemory = none := by
  simp only [validateMemory, hmemory, hpct, List.append_eq_nil_iff, reject_eq_nil,
    Option.isSome_some, and_true, Bool.not_eq_true] at hvalid
  exact Option.isNone_iff_eq_none.mp (Option.isSome_eq_false_iff.mp hvalid.1.1.2)

/-- The product in `int64` gives the same quotient exactly if it does not wrap. -/
theorem bmod_tdiv_eq_iff {n : Int} (hn : 0 < n) :
    0 < (Int.bmod n (2 ^ 64)).tdiv 100 ∧ (Int.bmod n (2 ^ 64)).tdiv 100 = n / 100 ↔
      100 ≤ n ∧ n < 2 ^ 63 := by
  have hlt : Int.bmod n (2 ^ 64) < 2 ^ 63 := by
    have := Int.bmod_lt (x := n) (m := 2 ^ 64) (by decide)
    omega
  have hcongr : (n - Int.bmod n (2 ^ 64)) % 2 ^ 64 = 0 := by
    have := Int.bmod_emod (x := n) (m := 2 ^ 64)
    omega
  constructor
  · rintro ⟨hpos, heq⟩
    have hbmod : 0 ≤ Int.bmod n (2 ^ 64) := by
      by_contra hneg
      have hquot : 0 ≤ (-Int.bmod n (2 ^ 64)).tdiv 100 := Int.tdiv_nonneg (by omega) (by decide)
      rw [Int.neg_tdiv] at hquot
      omega
    rw [Int.tdiv_eq_ediv_of_nonneg hbmod] at hpos heq
    omega
  · rintro ⟨hlow, hhigh⟩
    have hbmod : Int.bmod n (2 ^ 64) = n := Int.bmod_eq_of_le (by omega) (by omega)
    rw [hbmod, Int.tdiv_eq_ediv_of_nonneg hn.le]
    omega

/-- An admitted percentage is resolved to the floor, positive and within the
    limit, exactly if the product reaches 100 and fits into `int64`. -/
theorem resolveMaxMemoryBytes_exact_iff (hmemory : spec.memory = some memory)
    (hpct : memory.maxMemoryPercent = some pct) (hschema : 1 ≤ pct ∧ pct ≤ 100)
    (hvalid : validateMemory spec = []) (hlimit : spec.memoryLimit = some limit)
    (hint64 : 0 < limit ∧ limit < 2 ^ 63) :
    (spec.resolveMaxMemoryBytes = some (limit * pct / 100) ∧ 1 ≤ limit * pct / 100 ∧
        limit * pct / 100 ≤ limit) ↔
      100 ≤ limit * pct ∧ limit * pct < 2 ^ 63 := by
  have hpos : 0 < limit * pct := Int.mul_pos hint64.1 (by omega)
  have hle : limit * pct / 100 ≤ limit := by
    refine Int.ediv_le_of_le_mul (by omega) ?_
    exact Int.mul_le_mul_of_nonneg_left hschema.2 hint64.1.le
  have hresolve : spec.resolveMaxMemoryBytes =
      if 0 < (Int.bmod (limit * pct) (2 ^ 64)).tdiv 100 then
        some ((Int.bmod (limit * pct) (2 ^ 64)).tdiv 100) else none := by
    have hnone := maxMemory_eq_none_of_admitted hmemory hpct hvalid
    simp only [RedisClusterSpec.resolveMaxMemoryBytes, hmemory, hnone, hpct, hlimit]
    rw [if_neg (by simp only [Option.getD_some]; omega)]
    rfl
  rw [hresolve, ← bmod_tdiv_eq_iff hpos]
  split
  · rename_i hbytes
    simp only [Option.some.injEq]
    omega
  · simp only [reduceCtorEq, false_and, false_iff, not_and]
    omega

end

/-- Half of 1 GiB. -/
theorem resolveMaxMemoryBytes_half_gib :
    validateMemory
        { memory := some { maxMemoryPercent := some 50 }, memoryLimit := some (2 ^ 30) } = [] ∧
      RedisClusterSpec.resolveMaxMemoryBytes
        { memory := some { maxMemoryPercent := some 50 }, memoryLimit := some (2 ^ 30) } =
      some (2 ^ 30 * 50 / 100) :=
  ⟨rfl, ((resolveMaxMemoryBytes_exact_iff rfl rfl (by decide) rfl rfl (by decide)).mpr
    (by decide)).1⟩

/-- Three quarters of 128 PiB wrap around: no bound is set. -/
theorem resolveMaxMemoryBytes_wraps :
    validateMemory
        { memory := some { maxMemoryPercent := some 75 }, memoryLimit := some (2 ^ 57) } = [] ∧
      RedisClusterSpec.resolveMaxMemoryBytes
        { memory := some { maxMemoryPercent := some 75 }, memoryLimit := some (2 ^ 57) } = none ∧
      (1 : Int) ≤ 2 ^ 57 * 75 / 100 :=
  ⟨rfl, rfl, by decide⟩

/-- A webhook without a reader. -/
def bareWebhook : RedisClusterValidator where
  reader := none
  objectNamespace := "default"
  isDNS1123Subdomain := fun _ => []
  visit := id
  visit_perm := fun _ => .rfl

/-! ## Histories -/

/-- A change the webhook let through, whatever it read. -/
def Accepted (old new : RedisCluster) : Prop :=
  ∃ v : RedisClusterValidator, v.ValidateUpdate old new = true

/-- The fields a history of accepted changes keeps. -/
structure SameOrigin (old new : RedisCluster) : Prop where
  storageType : old.spec.storageType = new.spec.storageType
  backupName : Webhook.bootstrapBackupName old.spec.bootstrap =
    Webhook.bootstrapBackupName new.spec.bootstrap
  mode : old.spec.mode = new.spec.mode ∨
    old.spec.mode = .standalone ∧ new.spec.mode = .sentinel

section

variable {old mid new : RedisCluster}

theorem Accepted.sameOrigin (h : Accepted old new) : SameOrigin old new := by
  obtain ⟨v, h⟩ := h
  simp only [RedisClusterValidator.ValidateUpdate, RedisClusterValidator.validateUpdate,
    List.isEmpty_iff, List.append_eq_nil_iff, reject_eq_nil, ne_eq, not_not] at h
  obtain ⟨-, ⟨⟨⟨htype, -⟩, hmode⟩, hbackup⟩, -⟩ := h
  refine ⟨htype, hbackup, ?_⟩
  by_contra hother
  simp [validateModeTransition, not_or.mp hother] at hmode

theorem SameOrigin.trans (h : SameOrigin old mid) (h' : SameOrigin mid new) :
    SameOrigin old new := by
  refine ⟨h.storageType.trans h'.storageType, h.backupName.trans h'.backupName, ?_⟩
  rcases h.mode with hsame | ⟨hfrom, hto⟩
  · rw [hsame]
    exact h'.mode
  · -- from sentinel mode there is no way on
    rcases h'.mode with hsame | ⟨hfrom', -⟩
    · exact Or.inr ⟨hfrom, hsame ▸ hto⟩
    · rw [hto] at hfrom'
      cases hfrom'

/-- Replica mode is switched off only where promotion was asked for. -/
theorem Accepted.promoted (h : Accepted old new)
    (hold : replicaModeEnabled old.spec.replicaMode = true)
    (hnew : replicaModeEnabled new.spec.replicaMode = false) :
    old.spec.replicaMode.any ReplicaModeSpec.promote = true := by
  obtain ⟨v, h⟩ := h
  simp only [RedisClusterValidator.ValidateUpdate, RedisClusterValidator.validateUpdate,
    RedisClusterValidator.validateReplicaModeChange, List.isEmpty_iff, List.append_eq_nil_iff,
    reject_eq_nil] at h
  simpa [hold, hnew] using h.2.2.1

/-- Over any number of accepted changes the storage type and the bootstrap backup
    stay, and so does the mode but for the step to sentinel mode; a replica that
    follows no more was asked to promote before. -/
theorem accepted_history (h : Relation.ReflTransGen Accepted old new) :
    SameOrigin old new ∧ (replicaModeEnabled old.spec.replicaMode = true →
      replicaModeEnabled new.spec.replicaMode = true ∨
        ∃ mid, Relation.ReflTransGen Accepted old mid ∧ Relation.ReflTransGen Accepted mid new ∧
          replicaModeEnabled mid.spec.replicaMode = true ∧
          mid.spec.replicaMode.any ReplicaModeSpec.promote = true) := by
  induction h with
  | refl => exact ⟨⟨rfl, rfl, Or.inl rfl⟩, Or.inl⟩
  | @tail b c hfirst hstep ih =>
    obtain ⟨hsame, hreplica⟩ := ih
    refine ⟨hsame.trans hstep.sameOrigin, fun hon => ?_⟩
    rcases hreplica hon with hb | ⟨mid, h₁, h₂, hmid⟩
    · cases hc : replicaModeEnabled c.spec.replicaMode with
      | true => exact Or.inl rfl
      | false => exact Or.inr ⟨b, hfirst, .single hstep, hb, hstep.promoted hb hc⟩
    · exact Or.inr ⟨mid, h₁, h₂.tail hstep, hmid⟩

end

/-- A cluster that follows another one, or did. -/
def replicaCluster (enabled promote : Bool) : RedisCluster where
  name := "c"
  spec :=
    { instances := 1
      replicaMode := some { enabled, promote, source := some { host := "upstream" } } }

/-- Asked to promote, and taken out of replica mode after that. -/
theorem accepted_history_promotion :
    Relation.ReflTransGen Accepted (replicaCluster true false) (replicaCluster false false) ∧
      ∃ mid, Relation.ReflTransGen Accepted (replicaCluster true false) mid ∧
        Relation.ReflTransGen Accepted mid (replicaCluster false false) ∧
        replicaModeEnabled mid.spec.replicaMode = true ∧
        mid.spec.replicaMode.any ReplicaModeSpec.promote = true := by
  have hsteps : Relation.ReflTransGen Accepted (replicaCluster true false)
      (replicaCluster false false) :=
    .head (b := replicaCluster true true) ⟨bareWebhook, by decide +kernel⟩
      (.single ⟨bareWebhook, by decide +kernel⟩)
  exact ⟨hsteps, ((accepted_history hsteps).2 rfl).resolve_left Bool.false_ne_true⟩

end RedisOperator
