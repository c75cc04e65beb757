/-
  RedisOperator.Restore.Boot

  What Redis loads after a restore.  Three programs meet in the data
  directory: the backup handler produced the artifact, the restore binary
  placed it, and the instance manager's configuration tells Redis where to
  look.  The configuration says `appendonly yes`, so Redis looks at the AOF
  directory and at nothing else.

    * `restored_dataset_iff` — the backed-up dataset comes back exactly when it
      was backed up as an AOF archive (or was empty);
    * `execute_again_iff` — running the restore again changes what Redis loads
      unless Redis would load the backed-up dataset anyway, or the run does not
      get hold of the archive.
-/

import RedisOperator.Backup.Artifact
import RedisOperator.Instance.RedisConf
import RedisOperator.Restore.Extraction
import RedisOperator.Restore.Run

namespace RedisOperator.Restore

open Lib Act

/-- Redis, by what it saves and loads. -/
structure Redis (Blob Dataset : Type) where
  emptyDataset : Dataset
  saveRDB : Dataset → Blob
  loadRDB : Blob → Option Dataset
  /-- the files of the AOF directory after a rewrite -/
  rewriteAOF : Dataset → List (Segment × Blob)
  /-- of the AOF directory's tree -/
  loadAOF : FileTree Blob → Option Dataset
  load_save : ∀ x, loadRDB (saveRDB x) = some x
  load_rewrite : ∀ x, loadAOF (treeOf (rewriteAOF x)) = some x
  plain_names : ∀ x, ∀ f ∈ rewriteAOF x, PlainSegment f.1

section Boot

variable {Blob Dataset : Type} (redis : Redis Blob Dataset)

/-- What Redis 7 loads at start: with `appendonly yes` the AOF directory only,
    where an absent one is an empty dataset; otherwise the RDB file. -/
def boot (conf : List Directive) (d : FileTree Blob) : Option Dataset :=
  if directive conf "appendonly" = some "yes" then
    let name := ((directive conf "appenddirname").getD "appendonlydir").toList
    match d [name] with
    | none => some redis.emptyDataset
    | some _ => redis.loadAOF (d.below [name])
  else
    let name := ((directive conf "dbfilename").getD "dump.rdb").toList
    match d [name] with
    | some (.file content) => redis.loadRDB content
    | some .dir => none
    | none => some redis.emptyDataset

/-- What an AOF directory with this tree loads as. -/
def loadAppendOnly (t : FileTree Blob) : Option Dataset :=
  match t [] with
  | none => some redis.emptyDataset
  | some _ => redis.loadAOF t

/-- With the operator's configuration, Redis loads the AOF directory. -/
theorem boot_redisConf (cluster : RedisCluster) {specRedis : List Directive}
    (hspec : LeavesPersistence specRedis) (replicaOf masterAuth podIP : String)
    (d : FileTree Blob) :
    boot redis (redisConf cluster specRedis replicaOf masterAuth podIP) d
      = loadAppendOnly redis (d.below [defaultAOFDirectory]) := by
  have happend := directive_redisConf cluster hspec replicaOf masterAuth podIP
    (show "appendonly" ∈ persistenceKeys by decide)
  have hdir := directive_redisConf cluster hspec replicaOf masterAuth podIP
    (show "appenddirname" ∈ persistenceKeys by decide)
  have hbase : directive baseDirectives "appendonly" = some "yes" := by decide +kernel
  have hbaseDir : directive baseDirectives "appenddirname" = some "appendonlydir" := by
    decide +kernel
  unfold boot
  rw [happend, hbase, if_pos rfl, hdir, hbaseDir]
  rfl

end Boot

/-! ## Placing an artifact -/

section Place

variable {Blob : Type} {env : Env Blob} {args : Args} {job : Job} {download : Downloader Blob}

theorem execute_of_plan (hplan : plan env args = .ok (some (job, download))) (d : FileTree Blob) :
    execute env args d
      = Act.run (FileTree.step env.codec.blank) (place env args job download) 0 d := by
  unfold execute run
  rw [hplan]

/-- An AOF archive that is placed once is what every later run places. -/
theorem execute_aof (hplan : plan env args = .ok (some (job, download)))
    (htype : job.artifactType = .aofArchive) {archive : Blob}
    (hobject : download.object = .ok archive) {t : FileTree Blob}
    (ht : archiveTree env.codec args.dataDir archive = .ok t) (d : FileTree Blob) :
    (∃ r, (execute env args d).1 = .ok r) ∧
      (execute env args d).2.below [defaultAOFDirectory] = t := by
  obtain ⟨⟨n, hok⟩, htree⟩ := extracted_ok env.codec args.dataDir env.archivePath ht d
  rcases hrun : extracted env.codec args.dataDir env.archivePath archive d with ⟨o, d'⟩
  rw [hrun] at hok htree
  dsimp only at hok
  subst hok
  rw [execute_of_plan hplan]
  unfold place downloadAndExtractAOFArchive
  rw [htype, hobject]
  dsimp only
  rw [run_context_ok (run_context_ok hrun)]
  exact ⟨⟨_, rfl⟩, htree⟩

/-- A run that succeeded had a good archive. -/
theorem archiveTree_of_execute (hplan : plan env args = .ok (some (job, download)))
    (htype : job.artifactType = .aofArchive) {archive : Blob}
    (hobject : download.object = .ok archive) {d : FileTree Blob}
    (hok : ∃ r, (execute env args d).1 = .ok r) :
    ∃ t, archiveTree env.codec args.dataDir archive = .ok t := by
  obtain ⟨r, hr⟩ := hok
  rw [execute_of_plan hplan] at hr
  unfold place downloadAndExtractAOFArchive at hr
  rw [htype, hobject] at hr
  dsimp only at hr
  cases htree : archiveTree env.codec args.dataDir archive with
  | ok t => exact ⟨t, rfl⟩
  | error err =>
    obtain ⟨⟨err', herr⟩, -⟩ :=
      extracted_error env.codec args.dataDir env.archivePath htree d
    rcases hrun : extracted env.codec args.dataDir env.archivePath archive d with ⟨o, d'⟩
    rw [hrun] at herr
    dsimp only at herr
    subst herr
    rw [run_context_error (run_context_error hrun)] at hr
    cases hr

/-- The run gets hold of an artifact. -/
def Fetches (env : Env Blob) (args : Args) : Prop :=
  ∃ job download content, plan env args = .ok (some (job, download)) ∧
    download.object = .ok content

/-- The surroundings of a later run for the same backup: requests may fail, but
    what is fetched is the archive. -/
def Restarts (env : Env Blob) (args : Args) (archive : Blob) : Prop :=
  ∀ {job download}, plan env args = .ok (some (job, download)) →
    job.artifactType = .aofArchive ∧
      ∀ {content}, download.object = .ok content → content = archive

/-- A run that does not get hold of the archive changes nothing. -/
theorem execute_unfetched {archive : Blob} (hlater : Restarts env args archive)
    (hfetch : ¬ Fetches env args) (d : FileTree Blob) : (execute env args d).2 = d := by
  match hplan : plan env args with
  | .error err =>
    unfold execute run
    rw [hplan]
    rfl
  | .ok none =>
    unfold execute run
    rw [hplan]
    rfl
  | .ok (some (job, download)) =>
    rw [execute_of_plan hplan]
    unfold place downloadAndExtractAOFArchive
    rw [(hlater hplan).1]
    cases hobject : download.object with
    | error err => rfl
    | ok content => exact absurd ⟨job, download, content, hplan, hobject⟩ hfetch

/-- A download to `dump.rdb` stays away from the AOF directory. -/
theorem toFile_avoids (dataDir : String) (download : Downloader Blob) :
    Only (FileCmd.Avoids defaultAOFDirectory)
      (download.toFile dataDir defaultBackupFilename) := by
  have havoid : ∀ seg : Segment, defaultAOFDirectory ≠ seg →
      ([seg] : FilePath) ≠ [] ∧ ¬ [defaultAOFDirectory] <+: [seg] :=
    fun _ h => ⟨by simp, FileTree.not_prefix_of_head_ne h []⟩
  have htemp := havoid (tempName defaultBackupFilename) (by decide)
  have hname := havoid defaultBackupFilename (by decide)
  have hone : ∀ {c : FileCmd Blob}, c.paths = [[tempName defaultBackupFilename]] →
      c.Avoids defaultAOFDirectory := by
    intro c hc p hp
    rw [hc, List.mem_singleton] at hp
    exact hp ▸ htemp
  have hmove : (.rename [tempName defaultBackupFilename]
      [defaultBackupFilename] : FileCmd Blob).Avoids defaultAOFDirectory := by
    intro p hp
    rcases List.mem_cons.mp hp with rfl | hp
    · exact htemp
    · exact List.mem_singleton.mp hp ▸ hname
  have hcall : ∀ {c : FileCmd Blob} (text : String), c.Avoids defaultAOFDirectory →
      Only (FileCmd.Avoids defaultAOFDirectory)
        (callOrRemove c [tempName defaultBackupFilename] text) := by
    intro c text hc
    refine Only.bind (.request hc) ?_
    rintro (err | _)
    · exact Only.bind (.request (hone rfl)) fun _ => .fail _
    · exact .pure _
  have hfinish : Only (FileCmd.Avoids defaultAOFDirectory)
      (finishDownload dataDir defaultBackupFilename : Extract Blob Unit) :=
    Only.bind (hcall _ (hone rfl)) fun _ => hcall _ hmove
  cases download with
  | s3 object =>
    cases object with
    | error err => exact .fail _
    | ok content =>
      exact Only.bind (call_only (hone rfl) _) fun _ =>
        Only.bind (hcall _ (hone rfl)) fun _ => hfinish
  | azure container blob object =>
    refine Only.bind (call_only (hone rfl) _) fun _ => ?_
    cases object with
    | error err => exact Only.bind (.request (hone rfl)) fun _ => .fail _
    | ok content => exact Only.bind (hcall _ (hone rfl)) fun _ => hfinish

/-- Placing an RDB file does not touch the AOF directory. -/
theorem execute_rdb (hplan : plan env args = .ok (some (job, download)))
    (htype : job.artifactType = .rdb) (d : FileTree Blob) :
    (execute env args d).2.below [defaultAOFDirectory] = d.below [defaultAOFDirectory] := by
  rw [execute_of_plan hplan]
  unfold place
  rw [htype]
  dsimp only
  refine Prog.run_invariant
    (I := fun t : FileTree Blob => t.below [defaultAOFDirectory] = d.below [defaultAOFDirectory])
    ?_ (Only.context _ (toFile_avoids args.dataDir download) 0) rfl
  intro c hc t ht
  exact (FileTree.step_avoids env.codec.blank hc t).trans ht

end Place

/-! ## Backup, restore, start -/

section RoundTrip

variable {Blob Dataset : Type}

/-- A directory walk over plain files. -/
def walkOf (files : List (Segment × Blob)) : List (Backup.WalkEntry Blob) :=
  files.map fun f => ⟨[f.1], .file f.2⟩

/-- What the server's data directory holds once Redis has persisted `x`. -/
structure Holds (redis : Redis Blob Dataset) (server : Backup.Server Blob)
    (x : Dataset) : Prop where
  dump : server.dump = some (redis.saveRDB x)
  appendOnlyDir : server.appendOnlyDir = walkOf (redis.rewriteAOF x)

theorem mapM_tarEntry_walkOf (C : Codec Blob) (directory : String)
    (files : List (Segment × Blob)) :
    (walkOf files).mapM (Backup.tarEntry C directory) = .ok (files.map (fileEntry C)) := by
  induction files with
  | nil => rfl
  | cons f files ih =>
    unfold walkOf at ih ⊢
    rw [List.map_cons, List.mapM_cons, ih]
    rfl

theorem treeOf_root (files : List (Segment × Blob)) : treeOf files [] = some .dir := by
  have hfold : ∀ (files : List (Segment × Blob)) (d : FileTree Blob), d [] = some .dir →
      files.foldl (fun d f => d.set [f.1] (.file f.2)) d [] = some .dir := by
    intro files
    induction files with
    | nil => exact fun _ h => h
    | cons f files ih => exact fun d h => ih _ ((FileTree.set_ne d _ (by simp)).trans h)
  exact hfold files _ (FileTree.set_self _ _ _)

variable (redis : Redis Blob Dataset) {env : Env Blob} {args : Args} {job : Job}
  {download : Downloader Blob} (cluster : RedisCluster) {specRedis : List Directive}

/-- The archive of a backup unpacks to an AOF directory that loads as the
    backed-up dataset. -/
theorem loadAppendOnly_archive {C : Codec Blob} (hC : C.Faithful) {server : Backup.Server Blob}
    {x : Dataset} (hserver : Holds redis server x) {archive : Blob} {type : BackupArtifactType}
    (hprepare : Backup.prepareBackupArtifact C server .aof = .ok (archive, type))
    {dataDir : String} {t : FileTree Blob} (ht : archiveTree C dataDir archive = .ok t) :
    loadAppendOnly redis t = some x := by
  obtain ⟨-, entries, hentries, rfl⟩ := Backup.prepareBackupArtifact_aof hprepare
  rw [hserver.appendOnlyDir, mapM_tarEntry_walkOf] at hentries
  cases hentries
  rw [archiveTree_files C dataDir hC (redis.plain_names x) ht, loadAppendOnly, treeOf_root]
  exact redis.load_rewrite x

/-- After a backup, a restore into an empty directory and a start with the
    operator's configuration, Redis has the backed-up dataset exactly when the
    backup was an AOF archive or the dataset was empty. -/
theorem restored_dataset_iff (hC : env.codec.Faithful) {server : Backup.Server Blob} {x : Dataset}
    (hserver : Holds redis server x) {method : BackupMethod} {artifact : Blob}
    {type : BackupArtifactType}
    (hprepare : Backup.prepareBackupArtifact env.codec server method = .ok (artifact, type))
    (hplan : plan env args = .ok (some (job, download))) (htype : job.artifactType = type)
    (hobject : download.object = .ok artifact)
    (hok : ∃ r, (execute env args FileTree.empty).1 = .ok r)
    (hspec : LeavesPersistence specRedis) (replicaOf masterAuth podIP : String) :
    boot redis (redisConf cluster specRedis replicaOf masterAuth podIP)
        (execute env args FileTree.empty).2 = some x ↔
      method = .aof ∨ x = redis.emptyDataset := by
  rw [boot_redisConf redis cluster hspec]
  cases method with
  | unset => cases hprepare
  | other text => cases hprepare
  | rdb =>
    obtain ⟨-, rfl⟩ := Backup.prepareBackupArtifact_rdb hprepare
    -- nobody created the AOF directory
    have hload : loadAppendOnly redis
        ((execute env args FileTree.empty).2.below [defaultAOFDirectory])
          = some redis.emptyDataset := by
      rw [execute_rdb hplan htype]
      rfl
    rw [hload, Option.some.injEq]
    constructor
    · intro h
      exact Or.inr h.symm
    · rintro (h | h)
      · cases h
      · exact h.symm
  | aof =>
    obtain ⟨rfl, -⟩ := Backup.prepareBackupArtifact_aof hprepare
    obtain ⟨t, ht⟩ := archiveTree_of_execute hplan htype hobject hok
    obtain ⟨-, htree⟩ := execute_aof hplan htype hobject ht FileTree.empty
    have hload := loadAppendOnly_archive redis hC hserver hprepare ht
    rw [← htree] at hload
    simp [hload]

/-- Running the restore again leaves what Redis loads alone exactly when that is
    the backed-up dataset, or when the run does not get hold of the archive. -/
theorem execute_again_iff (hC : env.codec.Faithful) {server : Backup.Server Blob} {x : Dataset}
    (hserver : Holds redis server x) {archive : Blob}
    (hprepare : Backup.prepareBackupArtifact env.codec server .aof = .ok (archive, .aofArchive))
    (hplan : plan env args = .ok (some (job, download))) (htype : job.artifactType = .aofArchive)
    (hobject : download.object = .ok archive) {fresh : FileTree Blob}
    (hok : ∃ r, (execute env args fresh).1 = .ok r) {later : Env Blob}
    (hcodec : later.codec = env.codec) (hlater : Restarts later args archive)
    (hspec : LeavesPersistence specRedis) (replicaOf masterAuth podIP : String)
    (d : FileTree Blob) :
    boot redis (redisConf cluster specRedis replicaOf masterAuth podIP) (execute later args d).2
        = boot redis (redisConf cluster specRedis replicaOf masterAuth podIP) d ↔
      boot redis (redisConf cluster specRedis replicaOf masterAuth podIP) d = some x ∨
        ¬ Fetches later args := by
  by_cases hfetch : Fetches later args
  · obtain ⟨t, ht⟩ := archiveTree_of_execute hplan htype hobject hok
    have hload := loadAppendOnly_archive redis hC hserver hprepare ht
    obtain ⟨job', download', content, hplan', hobject'⟩ := hfetch
    obtain ⟨htype', hcontent⟩ := hlater hplan'
    obtain rfl := hcontent hobject'
    rw [← hcodec] at ht
    -- the rerun puts the archive's tree in the place of whatever was there
    have hagain := (execute_aof hplan' htype' hobject' ht d).2
    rw [boot_redisConf redis cluster hspec, boot_redisConf redis cluster hspec, hagain, hload]
    exact ⟨fun h => Or.inl h.symm, fun h =>
      (h.resolve_right fun h => h ⟨_, _, _, hplan', hobject'⟩).symm⟩
  · rw [execute_unfetched hlater hfetch]
    exact ⟨fun _ => Or.inr hfetch, fun _ => rfl⟩

end RoundTrip

/-! ## A sample -/

/-- Files of the sample: a number, or an archive. -/
inductive SampleBlob
  | number (n : Nat)
  | archive (entries : List (List Char × TarKind × Nat × SampleBlob × Option String))

/-- The sample counts no bytes. -/
def sampleSize (_ : SampleBlob) : Nat := 0

/-- The sample archive format keeps the entries as they are. -/
def sampleCodec : Codec SampleBlob where
  blobSize := sampleSize
  blank := .number 0
  unpack
    | .number _ => .error "gzip: invalid header"
    | .archive entries => .ok
        (entries.map fun e => ⟨e.1, e.2.1, e.2.2.1, e.2.2.2.1, e.2.2.2.2, Nat.zero_le _⟩, none)
  pack entries := .archive
    (entries.map fun e => (e.name, e.kind, e.size, e.content, e.readError))

theorem sampleCodec_faithful : sampleCodec.Faithful := by
  intro (entries : List (TarEntry SampleBlob sampleSize)) hentries
  induction entries with
  | nil => rfl
  | cons e entries ih =>
    have htail := congrArg Prod.fst
      (Except.ok.inj (ih fun e he => hentries e (List.mem_cons_of_mem _ he)))
    exact congrArg (fun es => Except.ok (e :: es, none)) htail

theorem plain_manifest : PlainSegment defaultAOFManifest where
  ne_nil := by decide
  no_slash := by decide
  ne_dot := by decide
  ne_dotdot := by decide
  no_blank c hc := by
    have hall : defaultAOFManifest.all (fun c => !isSpace c) = true := by decide +kernel
    simpa using List.all_eq_true.mp hall c hc

/-- A Redis whose dataset is a number. -/
def sampleRedis : Redis SampleBlob Nat where
  emptyDataset := 0
  saveRDB := .number
  loadRDB
    | .number n => some n
    | .archive _ => none
  rewriteAOF n := [(defaultAOFManifest, .number n)]
  loadAOF t :=
    match t [defaultAOFManifest] with
    | some (.file (.number n)) => some n
    | _ => none
  load_save _ := rfl
  load_rewrite _ := rfl
  plain_names _ f hf := by
    rw [List.mem_singleton.mp hf]
    exact plain_manifest

/-- A server that has persisted the dataset 7. -/
def sampleServer : Backup.Server SampleBlob where
  bgSave := .ok ()
  bgRewriteAOF := .ok ()
  infos := [.ok "rdb_bgsave_in_progress:0\r\naof_rewrite_in_progress:0"]
  dump := some (.number 7)
  appendOnlyDir := walkOf [(defaultAOFManifest, .number 7)]
  dataDir := "/data"

/-- The artifact of a method: the dump, or the archive of the AOF directory. -/
def sampleArtifact : BackupArtifactType → SampleBlob
  | .aofArchive => sampleCodec.pack [fileEntry sampleCodec (defaultAOFManifest, .number 7)]
  | _ => .number 7

/-- The world of a restore of that artifact. -/
def sampleEnv (type : BackupArtifactType) : Env SampleBlob where
  codec := sampleCodec
  store :=
    { S3Client := Unit, AzureClient := Unit,
      parseURL := fun _ => .ok ("backups", "/nightly"),
      newS3 := fun _ _ _ _ _ => .ok (),
      getObject := fun _ _ _ => .ok (sampleArtifact type),
      newAzure := fun _ => .error "unused",
      newSharedKeyCredential := fun _ _ => .error "unused",
      downloadFile := fun _ _ _ => .error "unused" }
  newKubernetesClient := .ok ()
  getBackup _ name := .ok
    { name := name, phase := .completed, backupPath := "s3://backups/nightly",
      artifactType := type, destination := some { s3 := some { bucket := "backups" } } }
  getCluster _ name := .ok { name := name, spec := { backupCredentialsSecret := some "creds" } }
  getSecret _ name := .ok
    ⟨name, ((∅ : GoMap String String).insert "AWS_ACCESS_KEY_ID" "id").insert
      "AWS_SECRET_ACCESS_KEY" "key"⟩
  archivePath := "/data/aof-archive-1.tar.gz"

def sampleArgs : Args := ⟨"test", "nightly", "default", "/data", "test-0"⟩

/-- The configuration of a standalone cluster. -/
def sampleConf : List Directive := redisConf { name := "test" } [] "" "" ""

/-- The directory a restore of that artifact leaves. -/
def sampleRestored (type : BackupArtifactType) : FileTree SampleBlob :=
  (execute (sampleEnv type) sampleArgs FileTree.empty).2

/-- The directory after Redis has gone on to the dataset 8. -/
def sampleWritten : FileTree SampleBlob :=
  (sampleRestored .aofArchive).set [defaultAOFDirectory, defaultAOFManifest] (.file (.number 8))

theorem sample_plan (type : BackupArtifactType) (htype : type = .rdb ∨ type = .aofArchive) :
    plan (sampleEnv type) sampleArgs
      = .ok (some (⟨"s3://backups/nightly", type⟩, .s3 (.ok (sampleArtifact type)))) := by
  rcases htype with rfl | rfl <;> rfl

theorem sample_prepare :
    Backup.prepareBackupArtifact sampleCodec sampleServer .aof
      = .ok (sampleArtifact .aofArchive, .aofArchive) := by
  unfold Backup.prepareBackupArtifact Backup.archiveDirectoryAsTarGz Backup.writeTarGz
  rw [show sampleServer.appendOnlyDir = walkOf [(defaultAOFManifest, .number 7)] from rfl,
    mapM_tarEntry_walkOf]
  rfl

/-- The AOF backup of the dataset 7 comes back. -/
theorem restored_dataset_aof : boot sampleRedis sampleConf (sampleRestored .aofArchive) = some 7 :=
  (restored_dataset_iff sampleRedis { name := "test" } sampleCodec_faithful
    (show Holds sampleRedis sampleServer 7 from ⟨rfl, rfl⟩) sample_prepare
    (sample_plan _ (Or.inr rfl)) rfl rfl ⟨_, rfl⟩ (by decide) "" "" "").mpr (Or.inl rfl)

/-- The RDB backup of the dataset 7 is placed and not loaded. -/
theorem rdb_restore_loads_nothing :
    Holds sampleRedis sampleServer 7 ∧
      Backup.prepareBackupArtifact sampleCodec sampleServer .rdb = .ok (.number 7, .rdb) ∧
      (∃ r, (execute (sampleEnv .rdb) sampleArgs FileTree.empty).1 = .ok r) ∧
      sampleRestored .rdb [defaultBackupFilename] = some (.file (.number 7)) ∧
      boot sampleRedis sampleConf (sampleRestored .rdb) = some 0 :=
  ⟨⟨rfl, rfl⟩, rfl, ⟨_, rfl⟩, rfl, by decide +kernel⟩

theorem sample_restarts :
    Restarts (sampleEnv .aofArchive) sampleArgs (sampleArtifact .aofArchive) := by
  intro job download hplan
  rw [sample_plan _ (Or.inr rfl)] at hplan
  cases hplan
  exact ⟨rfl, fun h => (Except.ok.inj h).symm⟩

/-- Right after the restore, another run changes nothing. -/
theorem execute_again_at_once :
    boot sampleRedis sampleConf
        (execute (sampleEnv .aofArchive) sampleArgs (sampleRestored .aofArchive)).2
      = boot sampleRedis sampleConf (sampleRestored .aofArchive) :=
  (execute_again_iff sampleRedis { name := "test" } sampleCodec_faithful
    (show Holds sampleRedis sampleServer 7 from ⟨rfl, rfl⟩) sample_prepare
    (sample_plan _ (Or.inr rfl)) rfl rfl
    (show ∃ r, (execute (sampleEnv .aofArchive) sampleArgs FileTree.empty).1 = .ok r from ⟨_, rfl⟩)
    rfl sample_restarts (by decide) "" "" "" _).mpr (Or.inl (by decide +kernel))

/-- Once Redis has written, another run throws the writes away. -/
theorem execute_again_loses_writes :
    boot sampleRedis sampleConf sampleWritten = some 8 ∧
      boot sampleRedis sampleConf (execute (sampleEnv .aofArchive) sampleArgs sampleWritten).2
        = some 7 :=
  ⟨by decide +kernel, by decide +kernel⟩

end RedisOperator.Restore
