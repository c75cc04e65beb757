/-
  RedisOperator.Backup.Upload

  `uploadBackup` of the instance manager's backup handler: credentials from the
  mounted secret, the object key, the upload and the response with the path
  under which the object can be found again.  The object-store clients are
  third-party and enter through `Uploader`.
-/

import RedisOperator.Backup.Artifact
import RedisOperator.Restore.Download

namespace RedisOperator.Webserver

open Lib Restore

/-! ## Credentials -/

/-- What `os.ReadFile` makes of a name in the credentials directory. -/
inductive FileRead
  | missing
  | failed (err : String)
  | content (text : String)

/-- `firstCredentialValue`: the first of the files with a value that is not blank. -/
def firstCredentialValue (mountDir : String) (readFile : String → FileRead) :
    List String → Except String String
  | [] => .ok ""
  | name :: names =>
    match readFile name with
    | .missing => firstCredentialValue mountDir readFile names
    | .failed err =>
      .error ("reading credential file " ++ mountDir ++ "/" ++ name ++ ": " ++ err)
    | .content text =>
      let value := String.ofList (trimSpace text.toList)
      if value ≠ "" then .ok value else firstCredentialValue mountDir readFile names

/-- `readAWSCredentialsFromDir`: access key, secret key, session token. -/
def readAWSCredentialsFromDir (mountDir : String) (readFile : String → FileRead) :
    Except String (String × String × String) := do
  let accessKeyID ← firstCredentialValue mountDir readFile
    ["AWS_ACCESS_KEY_ID", "aws_access_key_id", "accessKeyId", "access_key_id"]
  let secretAccessKey ← firstCredentialValue mountDir readFile
    ["AWS_SECRET_ACCESS_KEY", "aws_secret_access_key", "secretAccessKey", "secret_access_key"]
  let sessionToken ← firstCredentialValue mountDir readFile
    ["AWS_SESSION_TOKEN", "aws_session_token", "sessionToken", "session_token"]
  if accessKeyID = "" ∨ secretAccessKey = "" then
    .error "backup credentials secret must include AWS access key and secret key"
  else .ok (accessKeyID, secretAccessKey, sessionToken)

/-- `readAzureCredentialsFromDir`. -/
def readAzureCredentialsFromDir (mountDir : String) (readFile : String → FileRead) :
    Except String AzureCredentials := do
  let connectionString ← firstCredentialValue mountDir readFile
    ["AZURE_STORAGE_CONNECTION_STRING", "azureStorageConnectionString", "connectionString"]
  let accountName ← firstCredentialValue mountDir readFile
    ["AZURE_STORAGE_ACCOUNT", "azureStorageAccount", "accountName"]
  let accountKey ← firstCredentialValue mountDir readFile
    ["AZURE_STORAGE_KEY", "azureStorageKey", "accountKey"]
  let sasToken ← firstCredentialValue mountDir readFile
    ["AZURE_STORAGE_SAS_TOKEN", "azureStorageSasToken", "sasToken"]
  .ok ⟨connectionString, accountName, accountKey, sasToken⟩

/-! ## Keys -/

/-- `strings.Trim(s, "/")`. -/
def trimSlashes (cs : List Char) : List Char :=
  ((cs.dropWhile (· == '/')).reverse.dropWhile (· == '/')).reverse

/-- The extension of an artifact. -/
def artifactExtension (artifactType : BackupArtifactType) : String :=
  if artifactType = .aofArchive then ".aof.tar.gz" else ".rdb"

/-- `buildObjectKey`. -/
def buildObjectKey (pathPrefix backupName : String) (artifactType : BackupArtifactType) : String :=
  let objectName := backupName ++ artifactExtension artifactType
  let trimmed := String.ofList (trimSlashes pathPrefix.toList)
  if trimmed = "" then objectName else trimmed ++ "/" ++ objectName

/-! ## Uploads -/

/-- What the uploader works with. -/
structure Uploader (Blob : Type) where
  store : ObjectStore Blob
  putObject : store.S3Client → (bucket key : String) → Blob → Except String Unit
  uploadFile : store.AzureClient → (container blob : String) → Blob → Except String Unit
  /-- `backupCredentialsMountDir` -/
  credentialsDir : String
  readCredential : String → FileRead
  artifactPath : String
  openArtifact : Except String Blob
  artifactSize : Except String Int
  fileChecksumSHA256 : Except String String

/-- `backupResponse`. -/
structure BackupResponse where
  artifactType : BackupArtifactType
  backupPath : String
  objectKey : String
  backupSize : Int
  checksumSHA256 : String

section

variable {Blob : Type} (up : Uploader Blob) (backupName : String)

/-- The end of both uploads: size and checksum of the artifact. -/
def describeArtifact (artifactType : BackupArtifactType) (backupPath objectKey : String) :
    Except String BackupResponse := do
  let backupSize ← within ("reading artifact metadata for " ++ up.artifactPath) up.artifactSize
  let checksum ← within ("computing checksum for " ++ up.artifactPath) up.fileChecksumSHA256
  .ok ⟨artifactType, backupPath, objectKey, backupSize, checksum⟩

/-- `uploadBackupToS3`. -/
def uploadBackupToS3 (destination : S3Destination) (artifactType : BackupArtifactType) :
    Except String BackupResponse := do
  let (accessKeyID, secretAccessKey, sessionToken) ←
    readAWSCredentialsFromDir up.credentialsDir up.readCredential
  let client ← within "loading AWS config"
    (newS3Client up.store destination accessKeyID secretAccessKey sessionToken)
  let artifact ← within ("opening artifact " ++ up.artifactPath) up.openArtifact
  let objectKey := buildObjectKey destination.path backupName artifactType
  within ("uploading to s3://" ++ destination.bucket ++ "/" ++ objectKey)
    (up.putObject client destination.bucket objectKey artifact)
  describeArtifact up artifactType ("s3://" ++ destination.bucket ++ "/" ++ objectKey) objectKey

/-- `uploadBackupToAzure`. -/
def uploadBackupToAzure (destination : AzureBlobDestination) (artifactType : BackupArtifactType) :
    Except String BackupResponse := do
  let credentials ← readAzureCredentialsFromDir up.credentialsDir up.readCredential
  let client ← newAzureBlobClient up.store destination credentials
  let artifact ← within ("opening artifact " ++ up.artifactPath) up.openArtifact
  let blobName := buildObjectKey destination.path backupName artifactType
  within ("uploading to azure container " ++ quoteText destination.container ++ " blob " ++
      quoteText blobName)
    (up.uploadFile client destination.container blobName artifact)
  describeArtifact up artifactType ("azblob://" ++ destination.container ++ "/" ++ blobName)
    blobName

/-- `uploadBackup`. -/
def uploadBackup (destination : BackupDestination) (artifactType : BackupArtifactType) :
    Except String BackupResponse :=
  match destination.s3, destination.azure with
  | some s3, _ => uploadBackupToS3 up backupName s3 artifactType
  | none, some azure => uploadBackupToAzure up backupName azure artifactType
  | none, none => .error "no backup destination configured"

end

/-! ## What an upload reports -/

section

variable {Blob : Type} {up : Uploader Blob} {backupName : String} {type : BackupArtifactType}
  {response : BackupResponse}

theorem describeArtifact_backupPath {backupPath objectKey : String}
    (h : describeArtifact up type backupPath objectKey = .ok response) :
    response.backupPath = backupPath ∧ response.objectKey = objectKey := by
  obtain ⟨_, -, h⟩ := Backup.bind_eq_ok h
  obtain ⟨_, -, h⟩ := Backup.bind_eq_ok h
  cases h
  exact ⟨rfl, rfl⟩

theorem uploadBackupToS3_backupPath {destination : S3Destination}
    (h : uploadBackupToS3 up backupName destination type = .ok response) :
    response.backupPath = "s3://" ++ destination.bucket ++ "/" ++
      buildObjectKey destination.path backupName type := by
  obtain ⟨_, -, h⟩ := Backup.bind_eq_ok h
  obtain ⟨_, -, h⟩ := Backup.bind_eq_ok h
  obtain ⟨_, -, h⟩ := Backup.bind_eq_ok h
  obtain ⟨_, -, h⟩ := Backup.bind_eq_ok h
  exact (describeArtifact_backupPath h).1

theorem uploadBackupToAzure_backupPath {destination : AzureBlobDestination}
    (h : uploadBackupToAzure up backupName destination type = .ok response) :
    response.backupPath = "azblob://" ++ destination.container ++ "/" ++
      buildObjectKey destination.path backupName type := by
  obtain ⟨_, -, h⟩ := Backup.bind_eq_ok h
  obtain ⟨_, -, h⟩ := Backup.bind_eq_ok h
  obtain ⟨_, -, h⟩ := Backup.bind_eq_ok h
  obtain ⟨_, -, h⟩ := Backup.bind_eq_ok h
  exact (describeArtifact_backupPath h).1

/-! ## Characters of a key -/

theorem mem_trimSlashes_iff {c : Char} (hc : c ≠ '/') (cs : List Char) :
    c ∈ trimSlashes cs ↔ c ∈ cs := by
  have hdrop (ds : List Char) : c ∈ ds.dropWhile (· == '/') ↔ c ∈ ds := by
    induction ds with
    | nil => rfl
    | cons d ds ih =>
      rw [List.dropWhile_cons]
      split
      · rename_i hd
        rw [ih, List.mem_cons, beq_iff_eq.mp hd]
        exact ⟨Or.inr, fun h => h.resolve_left hc⟩
      · rfl
  rw [trimSlashes, List.mem_reverse, hdrop, List.mem_reverse, hdrop]

/-- A trimmed text does not begin with a slash. -/
theorem head_trimSlashes (cs : List Char) : (trimSlashes cs).head? ≠ some '/' := by
  intro h
  obtain ⟨tail, htail⟩ := List.head?_eq_some_iff.mp h
  -- what is left is the front of a text that does not begin with one
  have hfront : trimSlashes cs <+: cs.dropWhile (· == '/') := by
    rw [trimSlashes, ← List.reverse_suffix, List.reverse_reverse]
    exact List.dropWhile_suffix _
  obtain ⟨rest, hrest⟩ := hfront
  have hhead : (cs.dropWhile (· == '/')).head? = some '/' := by
    rw [← hrest, htail]
    rfl
  have := List.head?_dropWhile_not (· == '/') cs
  rw [hhead] at this
  exact nomatch this

end

end RedisOperator.Webserver
