/-
  RedisOperator.Restore.Run

  `restore.Run`, the init container that puts a backup into a data directory.
  It first decides, from the API objects alone, what to fetch (`plan`), and
  then places it (`place`).

  The archive is downloaded to a temporary file in the data directory under a
  name that is fresh, and the file is gone when `Run` returns; it is not kept
  in the tree.
-/

import RedisOperator.Api.Types
import RedisOperator.Restore.Download

namespace RedisOperator.Restore

open Lib

/-- `clusterShardFromPod`: the shard's name and whether the pod is its primary. -/
def clusterShardFromPod (clusterName : String) (replicasPerShard : Int) (podName : String) :
    Except String (String × Bool) :=
  if clusterName = "" ∨ podName = "" then .error "cluster and pod name are required"
  else
    let lead := clusterName ++ "-"
    if lead.toList.isPrefixOf podName.toList = false then
      .error ("pod " ++ podName ++ " does not match cluster prefix " ++ lead)
    else
      let digits := podName.toList.drop lead.toList.length
      match atoi digits with
      | (_, false) =>
        .error ("parsing pod ordinal from " ++ podName ++ ": " ++ atoiError digits)
      | (index, true) =>
        -- `int(1 + replicasPerShard)`: the sum wraps in `int32`
        let groupSize :=
          if wrap32 (1 + replicasPerShard) ≤ 0 then 1 else wrap32 (1 + replicasPerShard)
        .ok ("s" ++ toString (index.tdiv groupSize), decide (index.tmod groupSize = 0))

/-- `resolveArtifactType`. -/
def resolveArtifactType (backup : RedisBackup) : Except String BackupArtifactType :=
  match backup.artifactType with
  | .rdb => .ok .rdb
  | .aofArchive => .ok .aofArchive
  | .other text => .error ("unknown status.artifactType " ++ quoteText text)
  | .unset =>
    match backup.method with
    | .unset | .rdb => .ok .rdb
    | .aof => .ok .aofArchive
    | .other text => .error ("unsupported backup method " ++ quoteText text)

/-- What `Run` is going to fetch. -/
structure Job where
  backupPath : String
  artifactType : BackupArtifactType
  deriving DecidableEq

/-- The shard's own artifact, in cluster mode; `none` for a replica, which
    resyncs from its primary. -/
def shardJob (backup : RedisBackup) (cluster : RedisCluster) (label podName : String)
    (artifactType : BackupArtifactType) : Except String (Option Job) :=
  if podName = "" then
    .error "pod name is required for cluster-mode restore when status.shardArtifacts is set"
  else
    match clusterShardFromPod cluster.name cluster.spec.replicasPerShard podName with
    | .error err => .error ("determining shard for pod " ++ podName ++ ": " ++ err)
    | .ok (_, false) => .ok none
    | .ok (shard, true) =>
      match backup.shardArtifacts.lookup shard with
      | none => .error (label ++ " has no shard artifact for " ++ shard)
      | some artifact =>
        if artifact.backupPath = "" then
          .error (label ++ " shard " ++ shard ++ " has empty backupPath")
        else
          .ok (some ⟨artifact.backupPath,
            if artifact.artifactType = .unset then artifactType else artifact.artifactType⟩)

/-- Which artifact `Run` fetches for a pod, once it has the two objects;
    `label` is `RedisBackup namespace/name`. -/
def selectJob (backup : RedisBackup) (cluster : RedisCluster) (label podName : String) :
    Except String (Option Job) :=
  match resolveArtifactType backup with
  | .error err => .error ("determining backup artifact type for " ++ label ++ ": " ++ err)
  | .ok artifactType =>
    if cluster.spec.mode = .cluster ∧ backup.shardArtifacts.len ≠ 0 then
      shardJob backup cluster label podName artifactType
    else if backup.backupPath = "" then .error (label ++ " has empty status.backupPath")
    else .ok (some ⟨backup.backupPath, artifactType⟩)

/-- What surrounds the restore binary. -/
structure Env (Blob : Type) where
  codec : Codec Blob
  store : ObjectStore Blob
  newKubernetesClient : Except String Unit
  getBackup : (backupNamespace name : String) → Except String RedisBackup
  getCluster : (backupNamespace name : String) → Except String RedisCluster
  getSecret : (backupNamespace name : String) → Except String Secret
  /-- name of the temporary archive file -/
  archivePath : String

/-- The arguments of the init container. -/
structure Args where
  clusterName : String
  backupName : String
  backupNamespace : String
  dataDir : String
  podName : String

section Run

variable {Blob : Type} (env : Env Blob) (args : Args)

/-- The checks on the arguments. -/
def checkArgs : Except String Unit :=
  if args.clusterName = "" then .error "cluster name is required"
  else if args.backupName = "" then .error "backup name is required"
  else if args.backupNamespace = "" then .error "backup namespace is required"
  else if args.dataDir = "" then .error "data directory is required"
  else .ok ()

/-- `RedisBackup namespace/name`. -/
def backupLabel : String := "RedisBackup " ++ args.backupNamespace ++ "/" ++ args.backupName

/-- The two objects `Run` starts from. -/
def fetchObjects : Except String (RedisBackup × RedisCluster) := do
  checkArgs args
  within "creating Kubernetes client" env.newKubernetesClient
  let backup ← within ("fetching " ++ backupLabel args)
    (env.getBackup args.backupNamespace args.backupName)
  if backup.phase ≠ .completed then
    .error (backupLabel args ++ " is not completed (phase=" ++ backup.phase.text ++ ")")
  else
    match validateDestination backup.destination with
    | some err => .error (backupLabel args ++ " has invalid destination: " ++ err)
    | none => do
        let cluster ← within
          ("fetching RedisCluster " ++ args.backupNamespace ++ "/" ++ args.clusterName)
          (env.getCluster args.backupNamespace args.clusterName)
        .ok (backup, cluster)

/-- The downloader for a job. -/
def fetchDownloader (backup : RedisBackup) (cluster : RedisCluster) (job : Job) :
    Except String (Downloader Blob) :=
  match cluster.spec.backupCredentialsSecret with
  | none =>
    .error ("RedisCluster " ++ args.backupNamespace ++ "/" ++ cluster.name ++
      " has no backupCredentialsSecret configured")
  | some secretName => do
      let secret ← within
        ("fetching backup credentials secret " ++ args.backupNamespace ++ "/" ++ secretName)
        (env.getSecret args.backupNamespace secretName)
      newBackupDownloader env.store backup job.backupPath secret

/-- Everything `Run` does before it touches the data directory. -/
def plan : Except String (Option (Job × Downloader Blob)) := do
  let (backup, cluster) ← fetchObjects env args
  match ← selectJob backup cluster (backupLabel args) args.podName with
  | none => .ok none
  | some job => do
      let download ← fetchDownloader env args backup cluster job
      .ok (some (job, download))

/-- `downloadAndExtractAOFArchive`. -/
def downloadAndExtractAOFArchive (download : Downloader Blob) : Extract Blob Unit :=
  match download.object with
  | .error err => Act.fail ("downloading archive to " ++ env.archivePath ++ ": " ++ err)
  | .ok archive =>
    Act.context (fun err => "extracting AOF archive " ++ env.archivePath ++ ": " ++ err)
      (extractTarGz env.codec args.dataDir env.archivePath archive)

/-- The last step of `Run`. -/
def place (job : Job) (download : Downloader Blob) : Extract Blob Unit :=
  match job.artifactType with
  | .rdb =>
    Act.context (fun err => "downloading backup " ++ quoteText job.backupPath ++ " to " ++
        showPath args.dataDir [defaultBackupFilename] ++ ": " ++ err)
      (download.toFile args.dataDir defaultBackupFilename)
  | .aofArchive =>
    Act.context (fun err => "restoring AOF archive from " ++ quoteText job.backupPath ++ ": " ++
      err)
      (downloadAndExtractAOFArchive env args download)
  | .unset => Act.fail ("unsupported artifact type " ++ quoteText "")
  | .other text => Act.fail ("unsupported artifact type " ++ quoteText text)

/-- `Run`. -/
def run : Extract Blob Unit :=
  match plan env args with
  | .error err => Act.fail err
  | .ok none => pure ()
  | .ok (some (job, download)) => place env args job download

/-- One execution of the init container on a data directory: the error, if
    any, and the directory it leaves. -/
def execute (d : FileTree Blob) : Except String (Unit × Nat) × FileTree Blob :=
  Act.run (FileTree.step env.codec.blank) (run env args) 0 d

end Run

end RedisOperator.Restore
