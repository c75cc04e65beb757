/-
  RedisOperator.Backup.Artifact

  `prepareBackupArtifact` of the instance manager's backup handler: it makes
  Redis persist its data, waits until that is done, and picks up the RDB file
  or an archive of the AOF directory.
-/

import RedisOperator.Api.Backup
import RedisOperator.Restore.Archive

namespace RedisOperator.Backup

open Lib Restore

/-! ## Waiting for Redis -/

/-- `parseInfoKeyValues`: lines end in CR LF, comments start with `#`. -/
def parseInfoKeyValues (raw : String) : GoMap String String :=
  (splitLines raw.toList).foldl (fun values line =>
    match cut ':' line with
    | (key, value, true) =>
      if line.head? = some '#' then values
      else values.insert (String.ofList key) (String.ofList value)
    | (_, _, false) => values) ∅

/-- `waitForPersistenceCompletion`, on the answers to `INFO persistence` that
    come in before the deadline. -/
def waitForPersistenceCompletion (inProgressKey lastStatusKey : String) :
    List (Except String String) → Except String Unit
  | [] => .error "waiting for persistence completion: context deadline exceeded"
  | .error err :: _ => .error ("INFO persistence: " ++ err)
  | .ok raw :: rest =>
    let info := parseInfoKeyValues raw
    match info.lookup inProgressKey with
    | none => .error ("INFO persistence missing key " ++ quote inProgressKey.toList)
    | some inProgress =>
      if inProgress = "0" then
        let status := info.get lastStatusKey
        if status ≠ "" ∧ status ≠ "ok" then .error (lastStatusKey ++ "=" ++ status)
        else .ok ()
      else waitForPersistenceCompletion inProgressKey lastStatusKey rest

/-! ## Archiving a directory -/

/-- What a directory walk finds at a path. -/
inductive WalkNode (Blob : Type)
  | dir
  | file (content : Blob)
  | irregular (flag : Nat) (mode : String)

/-- An entry of `filepath.WalkDir` below the root, with its relative path. -/
structure WalkEntry (Blob : Type) where
  path : FilePath
  node : WalkNode Blob

section Archive

variable {Blob : Type} (C : Codec Blob) (directory : String)

/-- The tar entry of one visit. -/
def tarEntry (entry : WalkEntry Blob) : Except String (TarEntry Blob C.blobSize) :=
  match entry.node with
  | .dir => .ok (dirEntry C (joinSlash entry.path))
  | .file content => .ok (fileEntry C (joinSlash entry.path, content))
  | .irregular _ mode =>
    .error ("unsupported file type " ++ showPath directory entry.path ++ " (" ++ mode ++ ")")

/-- `writeTarGz`. -/
def writeTarGz (walk : List (WalkEntry Blob)) : Except String Blob :=
  match walk.mapM (tarEntry C directory) with
  | .error err => .error ("creating tar.gz archive from " ++ directory ++ ": " ++ err)
  | .ok entries => .ok (C.pack entries)

/-- `archiveDirectoryAsTarGz`. -/
def archiveDirectoryAsTarGz (requiredFile : Segment) (walk : List (WalkEntry Blob)) :
    Except String Blob :=
  if walk.any fun entry => entry.path == [requiredFile] then writeTarGz C directory walk
  else
    .error ("required file " ++ showPath directory [requiredFile] ++
      " is missing: no such file or directory")

end Archive

/-! ## The artifact -/

/-- What the handler sees of Redis and its data directory. -/
structure Server (Blob : Type) where
  bgSave : Except String Unit
  bgRewriteAOF : Except String Unit
  /-- answers to `INFO persistence` until the deadline -/
  infos : List (Except String String)
  /-- `dump.rdb`, once persistence has completed -/
  dump : Option Blob
  /-- the AOF directory, once persistence has completed -/
  appendOnlyDir : List (WalkEntry Blob)
  /-- `backupDataDir` -/
  dataDir : String

/-- An error with text in front of it. -/
def triggering (command : String) : Except String Unit → Except String Unit
  | .ok _ => .ok ()
  | .error err => .error ("triggering " ++ command ++ ": " ++ err)

/-- `prepareBackupArtifact`: the artifact and its type. -/
def prepareBackupArtifact {Blob : Type} (C : Codec Blob) (server : Server Blob)
    (method : BackupMethod) : Except String (Blob × BackupArtifactType) :=
  match method with
  | .rdb => do
      triggering "BGSAVE" server.bgSave
      waitForPersistenceCompletion "rdb_bgsave_in_progress" "rdb_last_bgsave_status" server.infos
      match server.dump with
      | none =>
        .error ("checking RDB file " ++ showPath server.dataDir [defaultBackupFilename] ++
          ": no such file or directory")
      | some dump => .ok (dump, .rdb)
  | .aof => do
      triggering "BGREWRITEAOF" server.bgRewriteAOF
      waitForPersistenceCompletion "aof_rewrite_in_progress" "aof_last_bgrewrite_status"
        server.infos
      let archive ← archiveDirectoryAsTarGz C (showPath server.dataDir [defaultAOFDirectory])
        defaultAOFManifest server.appendOnlyDir
      .ok (archive, .aofArchive)
  | .unset => .error ("unsupported backup method " ++ quote [])
  | .other text => .error ("unsupported backup method " ++ quote text.toList)

section Facts

variable {Blob : Type} {C : Codec Blob} {server : Server Blob}

/-- Peel one step off an `Except` program that succeeded. -/
theorem bind_eq_ok {α β : Type} {x : Except String α} {f : α → Except String β} {b : β}
    (h : (x >>= f) = .ok b) : ∃ a, x = .ok a ∧ f a = .ok b := by
  cases x with
  | error err => cases h
  | ok a => exact ⟨a, rfl, h⟩

/-- An RDB artifact is the dump. -/
theorem prepareBackupArtifact_rdb {artifact : Blob} {type : BackupArtifactType}
    (h : prepareBackupArtifact C server .rdb = .ok (artifact, type)) :
    server.dump = some artifact ∧ type = .rdb := by
  obtain ⟨_, -, h⟩ := bind_eq_ok h
  obtain ⟨_, -, h⟩ := bind_eq_ok h
  cases hdump : server.dump with
  | none =>
    rw [hdump] at h
    cases h
  | some dump =>
    rw [hdump] at h
    cases h
    exact ⟨rfl, rfl⟩

/-- An AOF artifact packs the entries of the AOF directory. -/
theorem prepareBackupArtifact_aof {artifact : Blob} {type : BackupArtifactType}
    (h : prepareBackupArtifact C server .aof = .ok (artifact, type)) :
    type = .aofArchive ∧ ∃ entries,
      server.appendOnlyDir.mapM
          (tarEntry C (showPath server.dataDir [defaultAOFDirectory])) = .ok entries ∧
        artifact = C.pack entries := by
  obtain ⟨_, -, h⟩ := bind_eq_ok h
  obtain ⟨_, -, h⟩ := bind_eq_ok h
  obtain ⟨archive, harchive, h⟩ := bind_eq_ok h
  cases h
  refine ⟨rfl, ?_⟩
  unfold archiveDirectoryAsTarGz at harchive
  split at harchive
  · unfold writeTarGz at harchive
    split at harchive
    · cases harchive
    · rename_i entries hentries
      cases harchive
      exact ⟨entries, hentries, rfl⟩
  · cases harchive

end Facts

end RedisOperator.Backup
