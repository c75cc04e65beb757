/-
  RedisOperator.Cluster.PodTemplate

  The pod that `createPodWithLabels` builds, and the text that `computeSpecHash`
  hashes to tell whether a running pod is up to date.  The text is written line
  by line from some fields of the spec; the pod is made from more of them, and
  line breaks in the fields are not escaped.

  Pods are compared as objects: maps by their entries, quantities by their
  value.  Security contexts, the same constants in every pod, are left out.
-/

import RedisOperator.Cluster.Secrets
import RedisOperator.Cluster.WorkloadCourse
import RedisOperator.Lib.LineFormat

namespace RedisOperator

open Lib

/-! ## Pod objects -/

/-- `corev1.SecretProjection`: the keys of a Secret, and the paths they go to. -/
structure SecretProjection where
  secretName : String
  items : List (String × String) := []
  deriving DecidableEq

/-- `corev1.VolumeSource`. -/
inductive VolumeSource
  | emptyDir (sizeLimit : Option Int)
  | persistentVolumeClaim (claimName : String)
  | projected (sources : List SecretProjection)
  deriving DecidableEq

/-- `corev1.Volume`. -/
structure Volume where
  name : String
  source : VolumeSource
  deriving DecidableEq

/-- `corev1.VolumeMount`. -/
structure VolumeMount where
  name : String
  mountPath : String
  readOnly : Bool := false
  deriving DecidableEq

/-- The value of an environment variable: a text, or a field of the pod. -/
inductive EnvValue
  | text (value : String)
  | fieldRef (fieldPath : String)
  deriving DecidableEq

/-- An HTTP probe on port 8080, its times in seconds. -/
structure HTTPProbe where
  path : String
  initialDelaySeconds : Int
  periodSeconds : Int
  failureThreshold : Option Int := none
  timeoutSeconds : Option Int := none
  deriving DecidableEq

/-- The resources of a container. -/
structure ContainerResources where
  limits : String → Option String := fun _ => none
  requests : String → Option String := fun _ => none
  claims : List String := []

/-- `corev1.Container`. -/
structure Container where
  name : String
  image : String
  command : List String
  args : List String := []
  ports : List (String × Nat) := []
  resources : ContainerResources := {}
  volumeMounts : List VolumeMount
  env : List (String × EnvValue) := []
  livenessProbe : Option HTTPProbe := none
  readinessProbe : Option HTTPProbe := none

/-- `corev1.Pod`, as it is sent to the API server. -/
structure PodTemplate where
  name : String
  objectNamespace : String
  labels : GoMap String String
  specHash : String
  serviceAccountName : String
  nodeSelector : String → Option String
  affinity : Option String
  tolerations : List String
  topologySpreadConstraints : List String
  initContainers : List Container
  containers : List Container
  volumes : List Volume

/-- What pods are built with besides the cluster.  `quantityText` prints a
    quantity, and `ceilSeconds` is `int32(math.Ceil(d.Seconds()))`. -/
structure PodBuilder where
  objectNamespace : String
  quantityText : Int → String
  ceilSeconds : Int → Int
  sha256 : String → String

/-! ## Projected secrets -/

/-- The keys of a map in order. -/
def sortedKeys {ν : Type} (m : GoMap String ν) : List String := m.keys.insertionSort (· ≤ ·)

/-- `addProjectedSecretKey`. -/
def addProjectedSecretKey (keysOf : GoMap String (GoMap String Unit)) (secretName key : String) :
    GoMap String (GoMap String Unit) :=
  let secretName := trimmed secretName
  let key := trimmed key
  if secretName = "" ∨ key = "" then keysOf
  else keysOf.insert secretName ((keysOf.get secretName).insert key ())

/-- A reference that may be missing. -/
def addProjectedRef (keysOf : GoMap String (GoMap String Unit)) (secretName : Option String)
    (key : String) : GoMap String (GoMap String Unit) :=
  match secretName with
  | none => keysOf
  | some secretName => addProjectedSecretKey keysOf secretName key

/-- `projectedSecretKeys`: for each Secret the keys to project. -/
def projectedSecretKeys (cluster : RedisCluster) : GoMap String (GoMap String Unit) :=
  addProjectedRef
    (addProjectedRef (addProjectedRef ∅ cluster.spec.authSecret "password")
      cluster.spec.aclConfigSecret "acl")
    ((some (replicaModeSourceAuthSecretName cluster)).filter (· ≠ "")) "password"

/-- `projectedSources`. -/
def projectedSources (cluster : RedisCluster) : List SecretProjection :=
  (sortedKeys (projectedSecretKeys cluster)).map fun name =>
    { secretName := name
      items := (sortedKeys ((projectedSecretKeys cluster).get name)).map fun key =>
        (key, name ++ "/" ++ key) }

/-! ## The pod -/

/-- A second, in nanoseconds. -/
def second : Int := 1000000000

/-- A configured timeout, or the default of five seconds. -/
def isolationTimeout (configured : Option Int) : Int :=
  match configured with
  | none => 5 * second
  | some duration => if 0 < duration then duration else 5 * second

/-- `livenessTimeoutSeconds`; the sum is one of `int64`s. -/
def livenessTimeoutSeconds (b : PodBuilder) (cluster : RedisCluster) : Int :=
  let apiServerTimeout := isolationTimeout
    (cluster.spec.primaryIsolation.bind PrimaryIsolationSpec.apiServerTimeout)
  let peerTimeout := isolationTimeout
    (cluster.spec.primaryIsolation.bind PrimaryIsolationSpec.peerTimeout)
  let seconds := b.ceilSeconds (Int.bmod (apiServerTimeout + peerTimeout + 2 * second) (2 ^ 64))
  if seconds < 1 then 1 else seconds

/-- `dataVolumeSource`. -/
def dataVolumeSource (cluster : RedisCluster) (index : Nat) : VolumeSource :=
  if cluster.spec.isEphemeral then
    .emptyDir (if cluster.spec.storageSize = 0 then none else some cluster.spec.storageSize)
  else .persistentVolumeClaim (pvcNameForIndex cluster.name index)

/-- The two Secrets of TLS, if both are named. -/
def tlsSecrets (cluster : RedisCluster) : Option (String × String) :=
  match cluster.spec.tlsSecret, cluster.spec.caSecret with
  | some tlsSecret, some caSecret => some (tlsSecret, caSecret)
  | _, _ => none

/-- `backupCredsSecretName`. -/
def backupCredsSecretName (cluster : RedisCluster) : String :=
  cluster.spec.backupCredentialsSecret.getD ""

/-- The volume of the projected secrets. -/
def projectedVolumes (cluster : RedisCluster) : List Volume :=
  if projectedSources cluster = [] then []
  else [{ name := "projected-secrets", source := .projected (projectedSources cluster) }]

/-- `tlsCertVolume`. -/
def tlsVolumes (cluster : RedisCluster) : List Volume :=
  match tlsSecrets cluster with
  | none => []
  | some (tlsSecret, caSecret) =>
    [{ name := "tls-certs"
       source := .projected
        [{ secretName := tlsSecret, items := [("tls.crt", "tls.crt"), ("tls.key", "tls.key")] },
          { secretName := caSecret, items := [("ca.crt", "ca.crt")] }] }]

/-- The volume of the object-store credentials. -/
def credentialVolumes (cluster : RedisCluster) : List Volume :=
  if backupCredsSecretName cluster = "" then []
  else
    [{ name := "backup-credentials"
       source := .projected [{ secretName := backupCredsSecretName cluster }] }]

/-- The volumes of a data pod. -/
def dataPodVolumes (cluster : RedisCluster) (index : Nat) : List Volume :=
  [{ name := "data", source := dataVolumeSource cluster index },
    { name := "controller", source := .emptyDir none }] ++
  projectedVolumes cluster ++ tlsVolumes cluster ++ credentialVolumes cluster

/-- Where a volume that is there is mounted. -/
def mountOf (volumes : List Volume) (mountPath : String) (readOnly : Bool) : List VolumeMount :=
  volumes.map fun volume => { name := volume.name, mountPath := mountPath, readOnly := readOnly }

/-- The mounts of the Redis container. -/
def dataPodMounts (cluster : RedisCluster) : List VolumeMount :=
  [{ name := "data", mountPath := "/data" },
    { name := "controller", mountPath := "/controller" }] ++
  mountOf (projectedVolumes cluster) "/projected" false ++
  mountOf (tlsVolumes cluster) "/tls" true ++
  mountOf (credentialVolumes cluster) "/backup-credentials" true

/-- The arguments of the restore init container, if the pod gets one. -/
def restoreArgsOf (cluster : RedisCluster) (podName : String) (index : Nat) (role : String) :
    Option RestoreArgs :=
  if shouldRestoreFromBackup cluster podName index role = false then none
  else some { clusterName := cluster.name, backupName := bootstrapBackupName cluster, podName }

/-- The init containers. -/
def initContainersOf (b : PodBuilder) (operatorImage : String) (cluster : RedisCluster)
    (restore : Option RestoreArgs) : List Container :=
  [{ name := "copy-manager", image := operatorImage
     command := ["/manager", "copy-binary", "/controller/manager"]
     volumeMounts := [{ name := "controller", mountPath := "/controller" }] }] ++
  match restore with
  | none => []
  | some args =>
    [{ name := "restore-data", image := operatorImage, command := ["/manager", "restore"]
       args := ["--cluster-name=" ++ args.clusterName, "--backup-name=" ++ args.backupName,
        "--backup-namespace=" ++ b.objectNamespace, "--data-dir=/data",
        "--pod-name=" ++ args.podName]
       volumeMounts := { name := "data", mountPath := "/data" } ::
        mountOf (credentialVolumes cluster) "/backup-credentials" true }]

/-- The ports of the Redis container. -/
def dataPodPorts (cluster : RedisCluster) : List (String × Nat) :=
  [("redis", 6379), ("http", 8080)] ++
    if cluster.spec.mode = .cluster then [("cluster-bus", 16379)] else []

/-- Its environment. -/
def dataPodEnv (b : PodBuilder) (cluster : RedisCluster) (podName : String) :
    List (String × EnvValue) :=
  [("POD_NAME", .text podName), ("CLUSTER_NAME", .text cluster.name),
    ("POD_NAMESPACE", .text b.objectNamespace),
    ("SSL_CERT_FILE", .text "/controller/ca-certificates.crt")] ++
    if cluster.spec.mode = .cluster then [("POD_IP", .fieldRef "status.podIP")] else []

/-- The resources of the spec, by their entries. -/
def ResourceRequirements.entries (resources : ResourceRequirements) : ContainerResources where
  limits := resources.limits.lookup
  requests := resources.requests.lookup
  claims := resources.claims

/-- The Redis container. -/
def redisContainer (b : PodBuilder) (cluster : RedisCluster) (podName : String) : Container where
  name := "redis"
  image := cluster.spec.imageName
  command := ["/controller/manager", "instance"]
  args := ["--cluster-name=" ++ cluster.name, "--pod-name=" ++ podName,
    "--pod-namespace=" ++ b.objectNamespace]
  ports := dataPodPorts cluster
  resources := cluster.spec.resources.entries
  volumeMounts := dataPodMounts cluster
  env := dataPodEnv b cluster podName
  livenessProbe := some
    { path := "/healthz", initialDelaySeconds := 10, periodSeconds := 10
      failureThreshold := some 3, timeoutSeconds := some (livenessTimeoutSeconds b cluster) }
  readinessProbe := some { path := "/readyz", initialDelaySeconds := 5, periodSeconds := 5 }

/-! ## The hash -/

/-- The entries of a map in the order of their keys. -/
def sortedEntries (m : GoMap String String) : List (String × String) :=
  m.pairs.insertionSort fun a b => a.1 ≤ b.1

/-- Lines `key=value`. -/
def entryLines (m : GoMap String String) : List (List Char) :=
  (sortedEntries m).map fun entry => entry.1.toList ++ '=' :: entry.2.toList

/-- The line of a reference that is set. -/
def refLines (name : Option String) : List (List Char) := (name.map String.toList).toList

/-- The lines about memory, behind `memory.`. -/
def memoryLines (b : PodBuilder) (memory : Option MemorySpec) : List (List Char) :=
  match memory with
  | none => []
  | some memory =>
    [("maxMemory=" ++ (memory.maxMemory.map b.quantityText).getD "").toList,
      ("maxMemoryPercent=" ++ (memory.maxMemoryPercent.map fun pct => toString pct).getD "").toList,
      ("maxMemoryPolicy=" ++ memory.maxMemoryPolicy).toList]

/-- The lines about ephemeral storage, behind `storage.`. -/
def storageLines (b : PodBuilder) (cluster : RedisCluster) : List (List Char) :=
  if cluster.spec.isEphemeral then
    ["type=emptyDir".toList, "size=".toList ++ (b.quantityText cluster.spec.storageSize).toList]
  else []

/-- What `computeSpecHash` writes, by the words its lines begin with. -/
def hashSections (b : PodBuilder) (operatorImage : String) (cluster : RedisCluster) :
    List (LineSection Char) :=
  let spec := cluster.spec
  [("redisImage=".toList, [spec.imageName.toList]),
    ("operatorImage=".toList, [operatorImage.toList]),
    ("resources.limits.".toList, entryLines spec.resources.limits),
    ("resources.requests.".toList, entryLines spec.resources.requests),
    ("authSecret=".toList, refLines spec.authSecret),
    ("aclConfigSecret=".toList, refLines spec.aclConfigSecret),
    ("tlsSecret=".toList, refLines spec.tlsSecret),
    ("caSecret=".toList, refLines spec.caSecret),
    ("redis.".toList, entryLines spec.redis),
    ("memory.".toList, memoryLines b spec.memory),
    ("storage.".toList, storageLines b cluster)]

/-- The text that is hashed. -/
def specHashInput (b : PodBuilder) (operatorImage : String) (cluster : RedisCluster) : String :=
  String.ofList (unlines (sectionLines (hashSections b operatorImage cluster)))

/-- `computeSpecHash`. -/
def PodBuilder.computeSpecHash (b : PodBuilder) (operatorImage : String) (cluster : RedisCluster) :
    String :=
  b.sha256 (specHashInput b operatorImage cluster)

/-- The pod `createPodWithLabels` sends. -/
def podTemplate (b : PodBuilder) (operatorImage : String) (cluster : RedisCluster)
    (podName : String) (index : Nat) (role : String) (labels : GoMap String String) :
    PodTemplate where
  name := podName
  objectNamespace := b.objectNamespace
  labels := labels
  specHash := b.computeSpecHash operatorImage cluster
  serviceAccountName := cluster.name
  nodeSelector := cluster.spec.nodeSelector.lookup
  affinity := cluster.spec.affinity
  tolerations := cluster.spec.tolerations
  topologySpreadConstraints := cluster.spec.topologySpreadConstraints
  initContainers := initContainersOf b operatorImage cluster
    (restoreArgsOf cluster podName index role)
  containers := [redisContainer b cluster podName]
  volumes := dataPodVolumes cluster index

/-! ## What is projected -/

/-- The pod needs the Secret for a password: its own, or that of its source. -/
def PasswordSecret (cluster : RedisCluster) (name : String) : Prop :=
  name ≠ "" ∧ (cluster.spec.authSecret.map trimmed = some name ∨
    trimmed (replicaModeSourceAuthSecretName cluster) = name)

/-- The pod needs the Secret for its ACL file. -/
def AclSecret (cluster : RedisCluster) (name : String) : Prop :=
  name ≠ "" ∧ cluster.spec.aclConfigSecret.map trimmed = some name

/-- The pod gets this key of the Secret. -/
def Projects (cluster : RedisCluster) (name key : String) : Prop :=
  (key = "password" ∧ PasswordSecret cluster name) ∨ (key = "acl" ∧ AclSecret cluster name)

section

variable {keysOf : GoMap String (GoMap String Unit)} {cluster cluster' : RedisCluster}
variable {name key : String}

theorem mem_get_addProjectedSecretKey (secretName key' : String) :
    key ∈ (addProjectedSecretKey keysOf secretName key').get name ↔
      key ∈ keysOf.get name ∨
        (name ≠ "" ∧ trimmed secretName = name ∧ key ≠ "" ∧ trimmed key' = key) := by
  unfold addProjectedSecretKey
  dsimp only
  split
  next hblank =>
    refine ⟨Or.inl, ?_⟩
    rintro (h | ⟨hname, rfl, hkey, rfl⟩)
    · exact h
    · exact absurd hblank (not_or.mpr ⟨hname, hkey⟩)
  next hfull =>
    obtain ⟨hname, hkey⟩ := not_or.mp hfull
    rw [GoMap.get_insert]
    split
    next heq =>
      subst heq
      rw [GoMap.mem_insert]
      constructor
      · rintro (rfl | h)
        · exact Or.inr ⟨hname, rfl, hkey, rfl⟩
        · exact Or.inl h
      · rintro (h | ⟨-, -, -, rfl⟩)
        · exact Or.inr h
        · exact Or.inl rfl
    next hne =>
      refine ⟨Or.inl, ?_⟩
      rintro (h | ⟨-, rfl, -⟩)
      · exact h
      · exact absurd rfl hne

theorem mem_get_addProjectedRef (secretName : Option String) (key' : String) :
    key ∈ (addProjectedRef keysOf secretName key').get name ↔
      key ∈ keysOf.get name ∨
        (name ≠ "" ∧ secretName.map trimmed = some name ∧ key ≠ "" ∧ trimmed key' = key) := by
  cases secretName with
  | none => simp [addProjectedRef]
  | some secretName =>
    rw [addProjectedRef, mem_get_addProjectedSecretKey]
    simp

/-- A Secret is listed exactly if some key of it is. -/
theorem exists_mem_get_addProjectedRef (h : ∀ name, name ∈ keysOf ↔ ∃ key, key ∈ keysOf.get name)
    (secretName : Option String) (key' name : String) :
    name ∈ addProjectedRef keysOf secretName key' ↔
      ∃ key, key ∈ (addProjectedRef keysOf secretName key').get name := by
  cases secretName with
  | none => exact h name
  | some secretName =>
    unfold addProjectedRef addProjectedSecretKey
    dsimp only
    split
    · exact h name
    · rw [GoMap.mem_insert, GoMap.get_insert]
      split
      next heq => exact iff_of_true (Or.inl heq) ⟨_, GoMap.mem_insert.mpr (Or.inl rfl)⟩
      next hne => simp only [hne, false_or, h]

theorem trimmed_empty : trimmed "" = "" := by decide +kernel

/-- A source that is not named projects nothing either way. -/
theorem source_filter (hname : name ≠ "") :
    ((some (replicaModeSourceAuthSecretName cluster)).filter (· ≠ "")).map trimmed = some name ↔
      trimmed (replicaModeSourceAuthSecretName cluster) = name := by
  by_cases hsource : replicaModeSourceAuthSecretName cluster = ""
  · simp [hsource, trimmed_empty, Ne.symm hname]
  · simp [hsource]

/-- The keys that are collected are those the pod needs. -/
theorem mem_projectedSecretKeys_get :
    key ∈ (projectedSecretKeys cluster).get name ↔ Projects cluster name key := by
  have hpassword : trimmed "password" = "password" := by decide +kernel
  have hacl : trimmed "acl" = "acl" := by decide +kernel
  have hempty : key ∉ (∅ : GoMap String (GoMap String Unit)).get name := GoMap.not_mem_empty
  unfold projectedSecretKeys
  rw [mem_get_addProjectedRef, mem_get_addProjectedRef, mem_get_addProjectedRef, hpassword, hacl]
  unfold Projects PasswordSecret AclSecret
  by_cases hname : name = ""
  · subst hname
    simpa using hempty
  · rw [source_filter hname]
    constructor
    · rintro (((h | ⟨-, h, -, rfl⟩) | ⟨-, h, -, rfl⟩) | ⟨-, h, -, rfl⟩)
      · exact absurd h hempty
      · exact Or.inl ⟨rfl, hname, Or.inl h⟩
      · exact Or.inr ⟨rfl, hname, h⟩
      · exact Or.inl ⟨rfl, hname, Or.inr h⟩
    · rintro (⟨rfl, -, h | h⟩ | ⟨rfl, -, h⟩)
      · exact Or.inl (Or.inl (Or.inr ⟨hname, h, by decide, rfl⟩))
      · exact Or.inr ⟨hname, h, by decide, rfl⟩
      · exact Or.inl (Or.inr ⟨hname, h, by decide, rfl⟩)

theorem mem_projectedSecretKeys :
    name ∈ projectedSecretKeys cluster ↔ ∃ key, Projects cluster name key := by
  simp only [← mem_projectedSecretKeys_get]
  refine exists_mem_get_addProjectedRef (exists_mem_get_addProjectedRef
    (exists_mem_get_addProjectedRef (fun name => ?_) _ _) _ _) _ _ name
  refine iff_of_false GoMap.not_mem_empty ?_
  rintro ⟨key, hkey⟩
  exact GoMap.not_mem_empty hkey

theorem mem_sortedKeys {ν : Type} {m : GoMap String ν} : key ∈ sortedKeys m ↔ key ∈ m := by
  rw [sortedKeys, List.mem_insertionSort, GoMap.mem_keys]

/-- The order of the keys does not depend on how a map was built. -/
theorem sortedKeys_congr {ν : Type} {m m' : GoMap String ν} (h : ∀ key, key ∈ m ↔ key ∈ m') :
    sortedKeys m = sortedKeys m' := by
  have hperm : m.keys.Perm m'.keys := by
    rw [List.perm_ext_iff_of_nodup m.keys_nodup m'.keys_nodup]
    intro key
    rw [GoMap.mem_keys, GoMap.mem_keys, h]
  refine List.Perm.eq_of_pairwise' (List.pairwise_insertionSort _ _)
    (List.pairwise_insertionSort _ _) ?_
  exact (List.perm_insertionSort _ _).trans (hperm.trans (List.perm_insertionSort _ _).symm)

/-- A key is projected where the Secret's projection has it, to the path of its name. -/
theorem projects_iff :
    Projects cluster name key ↔ ∃ source ∈ projectedSources cluster,
      source.secretName = name ∧ (key, name ++ "/" ++ key) ∈ source.items := by
  unfold projectedSources
  constructor
  · intro h
    refine ⟨_, List.mem_map_of_mem (mem_sortedKeys.mpr (mem_projectedSecretKeys.mpr ⟨key, h⟩)), rfl,
      ?_⟩
    have hkey : key ∈ sortedKeys ((projectedSecretKeys cluster).get name) :=
      mem_sortedKeys.mpr (mem_projectedSecretKeys_get.mpr h)
    exact List.mem_map_of_mem hkey
  · rintro ⟨source, hsource, rfl, hitem⟩
    obtain ⟨name, -, rfl⟩ := List.mem_map.mp hsource
    obtain ⟨key', hkey', heq⟩ := List.mem_map.mp hitem
    rw [← (Prod.mk.inj heq).1]
    exact mem_projectedSecretKeys_get.mp (mem_sortedKeys.mp hkey')

/-- The projections are the same exactly if the same keys are needed. -/
theorem projectedSources_eq_iff :
    projectedSources cluster = projectedSources cluster' ↔
      ∀ name key, Projects cluster name key ↔ Projects cluster' name key := by
  constructor
  · intro h name key
    rw [projects_iff, projects_iff, h]
  · intro h
    have hnames : sortedKeys (projectedSecretKeys cluster) =
        sortedKeys (projectedSecretKeys cluster') :=
      sortedKeys_congr fun name => by simp only [mem_projectedSecretKeys, h]
    have hkeys : ∀ name, sortedKeys ((projectedSecretKeys cluster).get name) =
        sortedKeys ((projectedSecretKeys cluster').get name) :=
      fun name => sortedKeys_congr fun key => by simp only [mem_projectedSecretKeys_get, h]
    unfold projectedSources
    simp only [hnames, hkeys]

/-! ## When two pods are the same -/

theorem filter_dataPodVolumes (cluster : RedisCluster) (index : Nat) :
    (dataPodVolumes cluster index).filter (fun volume => volume.name = "projected-secrets") =
        projectedVolumes cluster ∧
      (dataPodVolumes cluster index).filter (fun volume => volume.name = "tls-certs") =
        tlsVolumes cluster ∧
      (dataPodVolumes cluster index).filter (fun volume => volume.name = "backup-credentials") =
        credentialVolumes cluster := by
  unfold dataPodVolumes projectedVolumes tlsVolumes credentialVolumes
  cases tlsSecrets cluster <;> split <;> split <;> simp

theorem projectedVolumes_eq_iff :
    projectedVolumes cluster = projectedVolumes cluster' ↔
      projectedSources cluster = projectedSources cluster' := by
  refine ⟨fun h => ?_, fun h => by rw [projectedVolumes, projectedVolumes, h]⟩
  unfold projectedVolumes at h
  split at h <;> split at h <;> simp_all

theorem tlsVolumes_eq_iff :
    tlsVolumes cluster = tlsVolumes cluster' ↔ tlsSecrets cluster = tlsSecrets cluster' := by
  refine ⟨fun h => ?_, fun h => by rw [tlsVolumes, tlsVolumes, h]⟩
  unfold tlsVolumes at h
  cases htls : tlsSecrets cluster <;> cases htls' : tlsSecrets cluster' <;>
    simp_all [Prod.ext_iff]

theorem credentialVolumes_eq_iff :
    credentialVolumes cluster = credentialVolumes cluster' ↔
      backupCredsSecretName cluster = backupCredsSecretName cluster' := by
  refine ⟨fun h => ?_, fun h => by rw [credentialVolumes, credentialVolumes, h]⟩
  unfold credentialVolumes at h
  split at h <;> split at h <;> simp_all

/-- Claim or ephemeral storage, and how much of it. -/
def SameStorage (cluster cluster' : RedisCluster) : Prop :=
  cluster.spec.isEphemeral = cluster'.spec.isEphemeral ∧
    (cluster.spec.isEphemeral = true → cluster.spec.storageSize = cluster'.spec.storageSize)

theorem dataVolumeSource_eq_iff (hname : cluster.name = cluster'.name) (index : Nat) :
    dataVolumeSource cluster index = dataVolumeSource cluster' index ↔
      SameStorage cluster cluster' := by
  unfold dataVolumeSource SameStorage
  rw [hname]
  cases cluster.spec.isEphemeral <;> cases cluster'.spec.isEphemeral <;> simp
  split <;> split <;> simp_all [eq_comm]

/-- The volumes are the same exactly if each of them is. -/
theorem dataPodVolumes_eq_iff (hname : cluster.name = cluster'.name) (index : Nat) :
    dataPodVolumes cluster index = dataPodVolumes cluster' index ↔
      SameStorage cluster cluster' ∧
        (∀ name key, Projects cluster name key ↔ Projects cluster' name key) ∧
        tlsSecrets cluster = tlsSecrets cluster' ∧
        backupCredsSecretName cluster = backupCredsSecretName cluster' := by
  rw [← dataVolumeSource_eq_iff hname index, ← projectedSources_eq_iff, ← projectedVolumes_eq_iff,
    ← tlsVolumes_eq_iff, ← credentialVolumes_eq_iff]
  constructor
  · intro h
    obtain ⟨hprojected, htls, hcredentials⟩ := filter_dataPodVolumes cluster index
    obtain ⟨hprojected', htls', hcredentials'⟩ := filter_dataPodVolumes cluster' index
    refine ⟨?_, ?_, ?_, ?_⟩
    · have hdata := congrArg (fun volumes => volumes.head?) h
      simpa [dataPodVolumes] using hdata
    · rw [← hprojected, ← hprojected', h]
    · rw [← htls, ← htls', h]
    · rw [← hcredentials, ← hcredentials', h]
  · rintro ⟨hdata, hprojected, htls, hcredentials⟩
    rw [dataPodVolumes, dataPodVolumes, hdata, hprojected, htls, hcredentials]

/-- Ports and environment tell a sharded cluster from the others, and nothing else. -/
theorem dataPodPorts_eq_iff :
    dataPodPorts cluster = dataPodPorts cluster' ↔
      (cluster.spec.mode = .cluster ↔ cluster'.spec.mode = .cluster) := by
  unfold dataPodPorts
  split <;> split <;> simp_all

theorem dataPodEnv_eq (b : PodBuilder) (hname : cluster.name = cluster'.name)
    (hmode : cluster.spec.mode = .cluster ↔ cluster'.spec.mode = .cluster) (podName : String) :
    dataPodEnv b cluster podName = dataPodEnv b cluster' podName := by
  unfold dataPodEnv
  rw [hname]
  simp only [hmode]

/-- What the pod is made from and the hash covers. -/
structure SameHashed (operatorImage operatorImage' : String) (cluster cluster' : RedisCluster) :
    Prop where
  redisImage : cluster.spec.imageName = cluster'.spec.imageName
  operatorImage : operatorImage = operatorImage'
  limits : ∀ key, cluster.spec.resources.limits.lookup key =
    cluster'.spec.resources.limits.lookup key
  requests : ∀ key, cluster.spec.resources.requests.lookup key =
    cluster'.spec.resources.requests.lookup key
  acl : ∀ name, AclSecret cluster name ↔ AclSecret cluster' name
  tls : tlsSecrets cluster = tlsSecrets cluster'
  storage : SameStorage cluster cluster'

/-- What the pod is made from and the hash does not cover; of the passwords it
    covers the pod's own and not that of its source. -/
structure SameUnhashed (b : PodBuilder) (cluster cluster' : RedisCluster) : Prop where
  clusterMode : cluster.spec.mode = .cluster ↔ cluster'.spec.mode = .cluster
  nodeSelector : ∀ key, cluster.spec.nodeSelector.lookup key = cluster'.spec.nodeSelector.lookup key
  affinity : cluster.spec.affinity = cluster'.spec.affinity
  tolerations : cluster.spec.tolerations = cluster'.spec.tolerations
  topologySpreadConstraints :
    cluster.spec.topologySpreadConstraints = cluster'.spec.topologySpreadConstraints
  claims : cluster.spec.resources.claims = cluster'.spec.resources.claims
  passwords : ∀ name, PasswordSecret cluster name ↔ PasswordSecret cluster' name
  backupCredentials : backupCredsSecretName cluster = backupCredsSecretName cluster'
  liveness : livenessTimeoutSeconds b cluster = livenessTimeoutSeconds b cluster'

theorem projects_congr_iff :
    (∀ name key, Projects cluster name key ↔ Projects cluster' name key) ↔
      (∀ name, PasswordSecret cluster name ↔ PasswordSecret cluster' name) ∧
        ∀ name, AclSecret cluster name ↔ AclSecret cluster' name := by
  constructor
  · intro h
    exact ⟨fun name => by simpa [Projects] using h name "password",
      fun name => by simpa [Projects] using h name "acl"⟩
  · rintro ⟨hpassword, hacl⟩ name key
    rw [Projects, Projects, hpassword, hacl]

theorem restoreArgsOf_eq_none (hbootstrap : cluster.spec.bootstrap = none) (podName : String)
    (index : Nat) (role : String) : restoreArgsOf cluster podName index role = none := by
  refine if_pos ?_
  unfold shouldRestoreFromBackup
  rw [hbootstrap]

theorem mounts_eq (hprojected : projectedVolumes cluster = projectedVolumes cluster')
    (htls : tlsVolumes cluster = tlsVolumes cluster')
    (hcredentials : credentialVolumes cluster = credentialVolumes cluster') :
    dataPodMounts cluster = dataPodMounts cluster' := by
  rw [dataPodMounts, dataPodMounts, hprojected, htls, hcredentials]

variable {operatorImage operatorImage' : String}

/-- Two pods of one cluster with the same hash are the same exactly if they are
    made from the same. -/
theorem podTemplate_eq_iff (b : PodBuilder)
    (hname : cluster.name = cluster'.name) (hbootstrap : cluster.spec.bootstrap = none)
    (hbootstrap' : cluster'.spec.bootstrap = none)
    (hinput : specHashInput b operatorImage cluster = specHashInput b operatorImage' cluster')
    (podName : String) (index : Nat) (role : String) (labels : GoMap String String) :
    podTemplate b operatorImage cluster podName index role labels =
        podTemplate b operatorImage' cluster' podName index role labels ↔
      SameHashed operatorImage operatorImage' cluster cluster' ∧
      SameUnhashed b cluster cluster' := by
  constructor
  · intro h
    have hvolumes := congrArg PodTemplate.volumes h
    rw [show (podTemplate b operatorImage cluster podName index role labels).volumes =
        dataPodVolumes cluster index from rfl,
      show (podTemplate b operatorImage' cluster' podName index role labels).volumes =
        dataPodVolumes cluster' index from rfl, dataPodVolumes_eq_iff hname] at hvolumes
    obtain ⟨hstorage, hprojects, htls, hcredentials⟩ := hvolumes
    obtain ⟨hpasswords, hacl⟩ := projects_congr_iff.mp hprojects
    have hredis : redisContainer b cluster podName = redisContainer b cluster' podName :=
      (List.cons.inj (congrArg PodTemplate.containers h)).1
    have hinit := congrArg (fun pod : PodTemplate => pod.initContainers.head?) h
    have hresources := congrArg Container.resources hredis
    have hprobe := congrArg Container.livenessProbe hredis
    exact
      ⟨{ redisImage := congrArg Container.image hredis
         operatorImage := congrArg Container.image (Option.some.inj hinit)
         limits := congrFun (congrArg ContainerResources.limits hresources)
         requests := congrFun (congrArg ContainerResources.requests hresources)
         acl := hacl
         tls := htls
         storage := hstorage },
       { clusterMode := dataPodPorts_eq_iff.mp (congrArg Container.ports hredis)
         nodeSelector := congrFun (congrArg PodTemplate.nodeSelector h)
         affinity := congrArg PodTemplate.affinity h
         tolerations := congrArg PodTemplate.tolerations h
         topologySpreadConstraints := congrArg PodTemplate.topologySpreadConstraints h
         claims := congrArg ContainerResources.claims hresources
         passwords := hpasswords
         backupCredentials := hcredentials
         liveness := Option.some.inj (congrArg HTTPProbe.timeoutSeconds (Option.some.inj hprobe)) }⟩
  · rintro ⟨hh, hu⟩
    obtain rfl := hh.operatorImage
    have hprojects := projects_congr_iff.mpr ⟨hu.passwords, hh.acl⟩
    have hprojected := projectedVolumes_eq_iff.mpr (projectedSources_eq_iff.mpr hprojects)
    have hcredentials := credentialVolumes_eq_iff.mpr hu.backupCredentials
    have hvolumes := (dataPodVolumes_eq_iff hname index).mpr
      ⟨hh.storage, hprojects, hh.tls, hu.backupCredentials⟩
    have hresources : cluster.spec.resources.entries = cluster'.spec.resources.entries := by
      rw [ResourceRequirements.entries, ResourceRequirements.entries, funext hh.limits,
        funext hh.requests, hu.claims]
    have hredis : redisContainer b cluster podName = redisContainer b cluster' podName := by
      rw [redisContainer, redisContainer, hh.redisImage, hname,
        dataPodPorts_eq_iff.mpr hu.clusterMode,
        hresources, mounts_eq hprojected (tlsVolumes_eq_iff.mpr hh.tls) hcredentials,
        dataPodEnv_eq b hname hu.clusterMode, hu.liveness]
    rw [podTemplate, podTemplate, restoreArgsOf_eq_none hbootstrap,
      restoreArgsOf_eq_none hbootstrap', PodBuilder.computeSpecHash, hinput, hname,
      funext hu.nodeSelector, hu.affinity, hu.tolerations, hu.topologySpreadConstraints, hredis,
      hvolumes]
    rfl

/-! ## What the hash determines -/

/-- Nothing that is hashed contains a line break, and no quantity an equals sign. -/
structure PlainTexts (b : PodBuilder) (operatorImage : String) (cluster : RedisCluster) : Prop where
  lines : ∀ line ∈ sectionLines (hashSections b operatorImage cluster), SingleLine line
  limits : ∀ entry ∈ cluster.spec.resources.limits.pairs, '=' ∉ entry.2.toList
  requests : ∀ entry ∈ cluster.spec.resources.requests.pairs, '=' ∉ entry.2.toList

theorem hashSections_apart (b : PodBuilder) (operatorImage : String) (cluster : RedisCluster) :
    TagsApart ((hashSections b operatorImage cluster).map Prod.fst) := by
  have htags : TagsApart (["redisImage=", "operatorImage=", "resources.limits.",
      "resources.requests.", "authSecret=", "aclConfigSecret=", "tlsSecret=", "caSecret=", "redis.",
      "memory.", "storage."].map String.toList) := by decide +kernel
  exact htags

variable {b : PodBuilder}

/-- Equal lines have equal sections. -/
theorem section_eq (hlines : sectionLines (hashSections b operatorImage cluster) =
      sectionLines (hashSections b operatorImage' cluster'))
    (i : Nat) {tag : List Char} {bodies bodies' : List (List Char)}
    (hs : (hashSections b operatorImage cluster)[i]? = some (tag, bodies))
    (hs' : (hashSections b operatorImage' cluster')[i]? = some (tag, bodies')) :
    bodies = bodies' := by
  have h := bodiesOf_sectionLines (hashSections_apart b operatorImage cluster)
    (List.mem_of_getElem? hs)
  have h' := bodiesOf_sectionLines (hashSections_apart b operatorImage' cluster')
    (List.mem_of_getElem? hs')
  rw [hlines] at h
  exact h.symm.trans h'

theorem refLines_injective : Function.Injective refLines := by
  intro name name' h
  cases name with
  | none =>
    cases name' with
    | none => rfl
    | some _ => cases h
  | some _ =>
    cases name' with
    | none => cases h
    | some _ => exact congrArg some (String.toList_inj.mp (List.cons.inj h).1)

theorem mem_sortedEntries {m : GoMap String String} {value : String} :
    (key, value) ∈ sortedEntries m ↔ m.lookup key = some value := by
  rw [sortedEntries, List.mem_insertionSort, GoMap.mem_pairs]

/-- Lines `key=value` determine the entries of a map. -/
theorem lookup_eq_of_entryLines {m m' : GoMap String String}
    (h : ∀ entry ∈ m.pairs, '=' ∉ entry.2.toList) (h' : ∀ entry ∈ m'.pairs, '=' ∉ entry.2.toList)
    (heq : entryLines m = entryLines m') (key : String) : m.lookup key = m'.lookup key := by
  have hkeep : ∀ {m m' : GoMap String String}, (∀ entry ∈ m.pairs, '=' ∉ entry.2.toList) →
      (∀ entry ∈ m'.pairs, '=' ∉ entry.2.toList) → entryLines m = entryLines m' →
      ∀ value, m.lookup key = some value → m'.lookup key = some value := by
    intro m m' h h' heq value hlookup
    have hline : key.toList ++ '=' :: value.toList ∈ entryLines m' := by
      rw [← heq]
      exact List.mem_map.mpr ⟨(key, value), mem_sortedEntries.mpr hlookup, rfl⟩
    obtain ⟨⟨key', value'⟩, hmem, hsame⟩ := List.mem_map.mp hline
    have hlookup' := mem_sortedEntries.mp hmem
    obtain ⟨hkey, hvalue⟩ := eq_of_key_value (h' _ (GoMap.mem_pairs.mpr hlookup'))
      (h _ (GoMap.mem_pairs.mpr hlookup)) hsame
    obtain rfl : key' = key := String.toList_inj.mp hkey
    obtain rfl : value' = value := String.toList_inj.mp hvalue
    exact hlookup'
  refine Option.ext fun value => ⟨hkeep h h' heq value, hkeep h' h heq.symm value⟩

theorem sameStorage_of_storageLines (hquantity : Function.Injective b.quantityText)
    (h : storageLines b cluster = storageLines b cluster') : SameStorage cluster cluster' := by
  rw [storageLines, storageLines] at h
  by_cases he : cluster.spec.isEphemeral = true
  · rw [if_pos he] at h
    by_cases he' : cluster'.spec.isEphemeral = true
    · rw [if_pos he'] at h
      have hsize := List.append_cancel_left (List.cons.inj (List.cons.inj h).2).1
      exact ⟨he.trans he'.symm, fun _ => hquantity (String.toList_inj.mp hsize)⟩
    · rw [if_neg he'] at h
      exact absurd h (List.cons_ne_nil _ _)
  · rw [if_neg he] at h
    by_cases he' : cluster'.spec.isEphemeral = true
    · rw [if_pos he'] at h
      exact absurd h.symm (List.cons_ne_nil _ _)
    · exact ⟨(Bool.eq_false_iff.mpr he).trans (Bool.eq_false_iff.mpr he').symm,
        fun h => absurd h he⟩

/-- Without line breaks, the text that is hashed determines what it covers. -/
theorem sameHashed_of_input
    (hquantity : Function.Injective b.quantityText) (h : PlainTexts b operatorImage cluster)
    (h' : PlainTexts b operatorImage' cluster')
    (hinput : specHashInput b operatorImage cluster = specHashInput b operatorImage' cluster') :
    SameHashed operatorImage operatorImage' cluster cluster' := by
  have hlines : sectionLines (hashSections b operatorImage cluster) =
      sectionLines (hashSections b operatorImage' cluster') :=
    unlines_injective h.lines h'.lines (String.ofList_inj.mp hinput)
  have himage := section_eq hlines 0 rfl rfl
  have hoperator := section_eq hlines 1 rfl rfl
  have hacl := refLines_injective (section_eq hlines 5 rfl rfl)
  have htls := refLines_injective (section_eq hlines 6 rfl rfl)
  have hca := refLines_injective (section_eq hlines 7 rfl rfl)
  exact
    { redisImage := String.toList_inj.mp (List.cons.inj himage).1
      operatorImage := String.toList_inj.mp (List.cons.inj hoperator).1
      limits := lookup_eq_of_entryLines h.limits h'.limits (section_eq hlines 2 rfl rfl)
      requests := lookup_eq_of_entryLines h.requests h'.requests (section_eq hlines 3 rfl rfl)
      acl := fun name => by rw [AclSecret, AclSecret, hacl]
      tls := by rw [tlsSecrets, tlsSecrets, htls, hca]
      storage := sameStorage_of_storageLines hquantity (section_eq hlines 10 rfl rfl) }

/-! ## The pods of a pass -/

/-- The controller whose pods are built here. -/
def PodBuilder.reconciler (b : PodBuilder) (operatorImage : String) : ClusterReconciler where
  computeSpecHash := b.computeSpecHash operatorImage
  objectNamespace := b.objectNamespace

/-- The hash is one of the spec. -/
theorem computeSpecHash_readsSpec (b : PodBuilder) (operatorImage : String) :
    HashReadsSpec (b.reconciler operatorImage) := by
  intro l l' hspec
  show b.computeSpecHash operatorImage l' = b.computeSpecHash operatorImage l
  unfold PodBuilder.computeSpecHash specHashInput hashSections storageLines
  rw [hspec]

/-- The claim a volume is taken from. -/
def VolumeSource.claimName : VolumeSource → Option String
  | .persistentVolumeClaim claimName => some claimName
  | _ => none

theorem claims_dataPodVolumes (cluster : RedisCluster) (index : Nat) :
    ((dataPodVolumes cluster index).filterMap fun volume => volume.source.claimName) =
      if cluster.spec.isEphemeral then [] else [pvcNameForIndex cluster.name index] := by
  unfold dataPodVolumes projectedVolumes tlsVolumes credentialVolumes dataVolumeSource
  cases tlsSecrets cluster <;> cases cluster.spec.isEphemeral <;> split <;> split <;>
    simp [VolumeSource.claimName]

/-- What a pass reads of a pod is what its template says. -/
structure BuiltFrom (b : PodBuilder) (operatorImage : String) (cluster : RedisCluster)
    (template : PodTemplate) (pod : Pod) : Prop where
  name : pod.name = template.name
  labels : pod.labels = template.labels
  specHash : MadeFrom template.specHash pod
  claims : pod.claims = template.volumes.filterMap fun volume => volume.source.claimName
  initContainers :
    template.initContainers = initContainersOf b operatorImage cluster pod.restoreInit

/-- The pod that a pass creates is built from the template. -/
theorem newDataPod_builtFrom (b : PodBuilder) (operatorImage : String) (cluster : RedisCluster)
    (podName : String) (index : Nat) (role : String) (labels : GoMap String String) :
    BuiltFrom b operatorImage cluster
      (podTemplate b operatorImage cluster podName index role labels)
      (newDataPod (b.reconciler operatorImage) cluster podName index labels
        (restoreArgsOf cluster podName index role)) where
  name := rfl
  labels := rfl
  specHash := madeFrom_newDataPod (computeSpecHash_readsSpec b operatorImage) rfl
  claims := (claims_dataPodVolumes cluster index).symm
  initContainers := rfl

/-! ## Recorded hashes -/

/-- A pod whose recorded hash is the desired one, while the two texts do not
    collide, is the desired pod exactly if what the hash leaves out agrees, and
    what it covers; the latter follows from the hash where no text has a line
    break. -/
theorem pod_current_iff (b : PodBuilder) (cluster : RedisCluster) (spec : RedisClusterSpec)
    (operatorImage operatorImage' : String) (hbootstrap : cluster.spec.bootstrap = none)
    (hbootstrap' : spec.bootstrap = none)
    (hcollision : b.sha256 (specHashInput b operatorImage cluster) =
        b.sha256 (specHashInput b operatorImage' { cluster with spec := spec }) →
      specHashInput b operatorImage cluster =
        specHashInput b operatorImage' { cluster with spec := spec })
    (hhash : b.computeSpecHash operatorImage cluster =
      b.computeSpecHash operatorImage' { cluster with spec := spec }) :
    (∀ podName index role labels,
      podTemplate b operatorImage cluster podName index role labels =
          podTemplate b operatorImage' { cluster with spec := spec } podName index role labels ↔
        SameHashed operatorImage operatorImage' cluster { cluster with spec := spec } ∧
          SameUnhashed b cluster { cluster with spec := spec }) ∧
    (Function.Injective b.quantityText → PlainTexts b operatorImage cluster →
      PlainTexts b operatorImage' { cluster with spec := spec } →
      SameHashed operatorImage operatorImage' cluster { cluster with spec := spec }) := by
  have hinput := hcollision hhash
  have hname : cluster.name = ({ cluster with spec := spec } : RedisCluster).name := rfl
  constructor
  · intro podName index role labels
    exact podTemplate_eq_iff b hname hbootstrap hbootstrap' hinput podName index role labels
  · intro hquantity hplain hplain'
    exact sameHashed_of_input hquantity hplain hplain' hinput

end

/-- Quantities printed as plain numbers, and a hash without collisions. -/
def plainBuilder : PodBuilder where
  objectNamespace := "default"
  quantityText := fun quantity => toString quantity
  ceilSeconds := fun nanoseconds => (nanoseconds + second - 1) / second
  sha256 := id

/-- A replication with a password and object-store credentials. -/
def storedCluster : RedisCluster where
  name := "c"
  spec := { instances := 3, imageName := "redis:7.2", authSecret := some "c-auth"
            backupCredentialsSecret := some "s3-old" }

/-- Scaling changes neither the hash nor the pods. -/
theorem pod_current_scaled :
    podTemplate plainBuilder "operator:1" storedCluster "c-0" 0 "replica" ∅ =
      podTemplate plainBuilder "operator:1"
        { storedCluster with spec := { storedCluster.spec with instances := 5 } }
        "c-0" 0 "replica" ∅ := by
  have h := (pod_current_iff plainBuilder storedCluster { storedCluster.spec with instances := 5 }
    "operator:1" "operator:1" rfl rfl id rfl).1
  refine (h _ _ _ _).mpr ⟨?_, ?_⟩
  · exact ⟨rfl, rfl, fun _ => rfl, fun _ => rfl, fun _ => Iff.rfl, rfl, rfl, fun _ => rfl⟩
  · exact ⟨Iff.rfl, fun _ => rfl, rfl, rfl, rfl, rfl, fun _ => Iff.rfl, rfl, rfl⟩

/-- Other object-store credentials change the pod and not its hash. -/
theorem pod_outdated_credentials :
    specHashInput plainBuilder "operator:1" storedCluster =
      specHashInput plainBuilder "operator:1"
        { storedCluster with
          spec := { storedCluster.spec with backupCredentialsSecret := some "s3-new" } } ∧
    podTemplate plainBuilder "operator:1" storedCluster "c-0" 0 "replica" ∅ ≠
      podTemplate plainBuilder "operator:1"
        { storedCluster with
          spec := { storedCluster.spec with backupCredentialsSecret := some "s3-new" } }
        "c-0" 0 "replica" ∅ := by
  refine ⟨rfl, fun h => ?_⟩
  have hvolumes := congrArg PodTemplate.volumes h
  revert hvolumes
  decide +kernel

end RedisOperator
