/-
  RedisOperator.Restore.Download

  Where a backup object is and how the restore binary fetches it: credentials
  from the secret, bucket or container and key from the recorded path, and the
  download to a file through a temporary name.  The object-store clients and
  `url.Parse` are third-party and enter as an `ObjectStore`.
-/

import RedisOperator.Api.Backup
import RedisOperator.Restore.Archive

namespace RedisOperator.Restore

open Lib

/-- `corev1.Secret`. -/
structure Secret where
  name : String
  data : GoMap String String

/-- How an Azure client authenticates. -/
inductive AzureAuth
  | connectionString (text : String)
  | sharedKey (serviceURL accountName accountKey : String)
  | sas (url : String)
  deriving DecidableEq, Repr

/-- The object-store libraries. -/
structure ObjectStore (Blob : Type) where
  S3Client : Type
  AzureClient : Type
  /-- host and path of a URL -/
  parseURL : String → Except String (String × String)
  /-- region and endpoint as given to the library, then the three credentials -/
  newS3 : (region endpoint accessKeyID secretAccessKey sessionToken : String) →
    Except String S3Client
  getObject : S3Client → (bucket key : String) → Except String Blob
  newAzure : AzureAuth → Except String AzureClient
  newSharedKeyCredential : (accountName accountKey : String) → Except String Unit
  downloadFile : AzureClient → (container blob : String) → Except String Blob

/-! ## Credentials -/

/-- `secretValue`: the first of the keys with a value that is not blank. -/
def secretValue (secret : Secret) (keys : List String) : String :=
  let values := keys.filterMap fun key =>
    (secret.data.lookup key).map fun value => String.ofList (trimSpace value.toList)
  (values.find? (· ≠ "")).getD ""

/-- `readAWSCredentials`: access key, secret key, session token. -/
def readAWSCredentials (secret : Secret) : Except String (String × String × String) :=
  let accessKeyID := secretValue secret
    ["AWS_ACCESS_KEY_ID", "aws_access_key_id", "accessKeyId", "access_key_id"]
  let secretAccessKey := secretValue secret
    ["AWS_SECRET_ACCESS_KEY", "aws_secret_access_key", "secretAccessKey", "secret_access_key"]
  let sessionToken := secretValue secret
    ["AWS_SESSION_TOKEN", "aws_session_token", "sessionToken", "session_token"]
  if accessKeyID = "" ∨ secretAccessKey = "" then
    .error ("secret must include access key and secret key " ++
      "(supported keys: AWS_ACCESS_KEY_ID/AWS_SECRET_ACCESS_KEY)")
  else .ok (accessKeyID, secretAccessKey, sessionToken)

/-- What `readAzureCredentials` returns. -/
structure AzureCredentials where
  connectionString : String
  accountName : String
  accountKey : String
  sasToken : String

/-- `readAzureCredentials`. -/
def readAzureCredentials (secret : Secret) : AzureCredentials where
  connectionString := secretValue secret
    ["AZURE_STORAGE_CONNECTION_STRING", "azureStorageConnectionString", "connectionString"]
  accountName := secretValue secret
    ["AZURE_STORAGE_ACCOUNT", "azureStorageAccount", "accountName"]
  accountKey := secretValue secret ["AZURE_STORAGE_KEY", "azureStorageKey", "accountKey"]
  sasToken := secretValue secret ["AZURE_STORAGE_SAS_TOKEN", "azureStorageSasToken", "sasToken"]

/-! ## Locations -/

/-- The words in which the two resolvers differ. -/
structure LocationKind where
  scheme : String
  place : String
  object : String

/-- `strings.TrimPrefix(s, "/")`. -/
def trimLeadingSlash (s : String) : String :=
  match s.toList with
  | '/' :: rest => String.ofList rest
  | _ => s

section Location

variable {Blob : Type} (store : ObjectStore Blob)

/-- Text of a quoted string. -/
def quoteText (s : String) : String := quote s.toList

/-- The common shape of `resolveBackupLocation` and `resolveAzureBlobLocation`. -/
def resolveLocation (kind : LocationKind) (configured backupPath : String) :
    Except String (String × String) :=
  let trimmedPath := String.ofList (trimSpace backupPath.toList)
  if trimmedPath = "" then .error "backup path is empty"
  else if (kind.scheme ++ "://").toList.isPrefixOf trimmedPath.toList then
    match store.parseURL trimmedPath with
    | .error err =>
      .error ("parsing " ++ kind.scheme ++ " backup path " ++ quoteText trimmedPath ++ ": " ++ err)
    | .ok (host, path) =>
      if host = "" then
        .error (kind.scheme ++ " backup path " ++ quoteText trimmedPath ++ " is missing " ++
          kind.place)
      else if configured ≠ "" ∧ configured ≠ host then
        .error ("backup path " ++ kind.place ++ " " ++ quoteText host ++
          " does not match configured " ++ kind.place ++ " " ++ quoteText configured)
      else
        let key := trimLeadingSlash path
        if key = "" then
          .error (kind.scheme ++ " backup path " ++ quoteText trimmedPath ++ " is missing " ++
            kind.object)
        else .ok (if configured = "" then host else configured, key)
  else if configured = "" then
    .error ("backup path " ++ quoteText trimmedPath ++ " is not an " ++ kind.scheme ++
      ":// URL and no destination " ++ kind.place ++ " is configured")
  else
    let key := trimLeadingSlash trimmedPath
    if key = "" then
      .error ("backup path " ++ quoteText trimmedPath ++ " is missing " ++ kind.object)
    else .ok (configured, key)

/-- `resolveBackupLocation`: bucket and key. -/
def resolveBackupLocation : (configuredBucket backupPath : String) →
    Except String (String × String) :=
  resolveLocation store ⟨"s3", "bucket", "object key"⟩

/-- `resolveAzureBlobLocation`: container and blob name. -/
def resolveAzureBlobLocation : (configuredContainer backupPath : String) →
    Except String (String × String) :=
  resolveLocation store ⟨"azblob", "container", "blob name"⟩

/-! ## Clients -/

/-- `newS3Client`. -/
def newS3Client (destination : S3Destination) (accessKeyID secretAccessKey sessionToken : String) :
    Except String store.S3Client :=
  store.newS3 (if destination.region = "" then "us-east-1" else destination.region)
    destination.endpoint accessKeyID secretAccessKey sessionToken

/-- `azureServiceURL`. -/
def azureServiceURL (accountName endpoint : String) : Except String String :=
  if endpoint ≠ "" then .ok endpoint
  else if accountName = "" then
    .error "azure destination requires accountName or endpoint when not using a connection string"
  else .ok ("https://" ++ accountName ++ ".blob.core.windows.net/")

/-- `appendSASToken`. -/
def appendSASToken (serviceURL sasToken : String) : String :=
  let base := match serviceURL.toList.reverse with
    | '/' :: rest => String.ofList rest.reverse
    | _ => serviceURL
  let token := match sasToken.toList with
    | '?' :: rest => String.ofList rest
    | _ => sasToken
  base ++ "/?" ++ token

/-- An error with text in front of it. -/
def within {α : Type} (text : String) : Except String α → Except String α
  | .ok a => .ok a
  | .error err => .error (text ++ ": " ++ err)

/-- `newAzureBlobClient`: connection string, shared key, then SAS token. -/
def newAzureBlobClient (destination : AzureBlobDestination) (credentials : AzureCredentials) :
    Except String store.AzureClient :=
  if credentials.connectionString ≠ "" then
    within "creating azure client from connection string"
      (store.newAzure (.connectionString credentials.connectionString))
  else do
    let effectiveAccount :=
      if destination.accountName = "" then credentials.accountName else destination.accountName
    let serviceURL ← azureServiceURL effectiveAccount destination.endpoint
    if credentials.accountKey ≠ "" then
      if effectiveAccount = "" then
        .error ("azure shared-key auth requires an account name " ++
          "(set destination.azure.accountName or AZURE_STORAGE_ACCOUNT in the credentials secret)")
      else do
        within "creating azure shared key credential"
          (store.newSharedKeyCredential effectiveAccount credentials.accountKey)
        within "creating azure client with shared key"
          (store.newAzure (.sharedKey serviceURL effectiveAccount credentials.accountKey))
    else if credentials.sasToken ≠ "" then
      within "creating azure client with SAS token"
        (store.newAzure (.sas (appendSASToken serviceURL credentials.sasToken)))
    else
      .error ("azure backup credentials must include one of AZURE_STORAGE_CONNECTION_STRING, " ++
        "AZURE_STORAGE_KEY, or AZURE_STORAGE_SAS_TOKEN")

end Location

/-! ## Downloading -/

/-- `objectDownloader`: the backend, and what fetching the object yields. -/
inductive Downloader (Blob : Type)
  | s3 (object : Except String Blob)
  | azure (container blob : String) (object : Except String Blob)

/-- What fetching yields. -/
def Downloader.object {Blob : Type} : Downloader Blob → Except String Blob
  | .s3 object | .azure _ _ object => object

variable {Blob : Type}

/-- `newBackupDownloader`. -/
def newBackupDownloader (store : ObjectStore Blob) (backup : RedisBackup) (backupPath : String)
    (secret : Secret) : Except String (Downloader Blob) :=
  match backup.destination.bind (·.s3), backup.destination.bind (·.azure) with
  | some s3, _ => do
      let (bucket, key) ← within "resolving backup location"
        (resolveBackupLocation store s3.bucket backupPath)
      let (accessKeyID, secretAccessKey, sessionToken) ←
        within ("reading AWS credentials from secret " ++ secret.name) (readAWSCredentials secret)
      let client ← within "creating S3 client"
        (newS3Client store s3 accessKeyID secretAccessKey sessionToken)
      .ok (.s3 (store.getObject client bucket key))
  | none, some azure => do
      let (container, blob) ← within "resolving backup location"
        (resolveAzureBlobLocation store azure.container backupPath)
      let client ← within "creating Azure client"
        (newAzureBlobClient store azure (readAzureCredentials secret))
      .ok (.azure container blob (store.downloadFile client container blob))
  | none, none => .error "backup has no supported destination"

section ToFile

variable (dataDir : String)

/-- `outputPath + ".tmp"`. -/
def tempName (name : Segment) : Segment := name ++ ".tmp".toList

/-- Make a call; a failure removes the temporary file and ends the download. -/
def callOrRemove (c : FileCmd Blob) (temp : FilePath) (text : String) : Extract Blob Unit :=
  Act.request c >>= fun
    | .ok _ => pure ()
    | .error err => Act.request (.removeAll temp) >>= fun _ => Act.fail (text ++ ": " ++ err)

/-- The end both downloads share: close the temporary file and give it its name. -/
def finishDownload (name : Segment) : Extract Blob Unit := do
  let temp := showPath dataDir [tempName name]
  callOrRemove (.close [tempName name]) [tempName name] ("closing output file " ++ temp)
  callOrRemove (.rename [tempName name] [name]) [tempName name]
    ("renaming " ++ temp ++ " to " ++ showPath dataDir [name])

/-- `downloadObjectToFile`: the object is requested before a file is opened. -/
def downloadObjectToFile (object : Except String Blob) (name : Segment) : Extract Blob Unit :=
  match object with
  | .error err => Act.fail err
  | .ok content => do
      call (.openTrunc [tempName name])
        ("opening output file " ++ showPath dataDir [tempName name])
      callOrRemove (.write [tempName name] content) [tempName name] "writing backup file"
      finishDownload dataDir name

/-- `downloadAzureBlobToFile`: the file is opened first. -/
def downloadAzureBlobToFile (container blob : String) (object : Except String Blob)
    (name : Segment) : Extract Blob Unit := do
  let text := "downloading azure container " ++ quoteText container ++ " blob " ++ quoteText blob
  call (.openTrunc [tempName name]) ("opening output file " ++ showPath dataDir [tempName name])
  match object with
  | .error err =>
    Act.request (.removeAll [tempName name]) >>= fun _ => Act.fail (text ++ ": " ++ err)
  | .ok content => do
      callOrRemove (.write [tempName name] content) [tempName name] text
      finishDownload dataDir name

/-- Running a downloader. -/
def Downloader.toFile (name : Segment) : Downloader Blob → Extract Blob Unit
  | .s3 object => downloadObjectToFile dataDir object name
  | .azure container blob object => downloadAzureBlobToFile dataDir container blob object name

end ToFile

end RedisOperator.Restore
