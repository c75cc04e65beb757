/-
  RedisOperator.Restore.Location

  From the upload to the restore: the uploader records `scheme://place/key` with
  nothing escaped, and the restore binary reads that text as a URL.
  `upload_found_again_iff` says for which path prefixes the restore arrives at
  the object that was uploaded.
-/

import RedisOperator.Backup.Upload
import RedisOperator.Lib.GoURL

namespace RedisOperator.Restore

open Lib Webserver

/-! ## Reading a recorded path -/

section

variable {Blob : Type} {store : ObjectStore Blob} {kind : LocationKind} {place key : String}

/-- A key that was uploaded: it does not begin with a slash or end with a blank. -/
structure UploadedKey (key : String) : Prop where
  ne_empty : key ≠ ""
  head : key.toList.head? ≠ some '/'
  last : ∀ c, key.toList.getLast? = some c → isSpace c = false

/-- The scheme of a location as a URL begins with it. -/
structure LocationKind.WellFormed (kind : LocationKind) : Prop where
  letter : ∃ c, kind.scheme.toList.head? = some c ∧ c.isAlpha = true
  plain : ∀ c ∈ kind.scheme.toList, schemeChar c = true

/-- A name that can stand for the host of a URL.  The names of buckets (lower-case
    letters, digits, dots, hyphens; old ones also capitals and underscores) and of
    containers (letters, digits, hyphens; `$root`, `$web`, `$logs`) are of this kind. -/
structure PlaceName (place : String) : Prop where
  ne_empty : place ≠ ""
  plain : ∀ c ∈ place.toList, hostChar c = true

/-- The recorded path as a URL. -/
def recordedURL (hkind : kind.WellFormed) (hplace : PlaceName place) (key : String) : PlainURL where
  scheme := kind.scheme.toList
  host := place.toList
  rest := '/' :: key.toList
  scheme_letter := hkind.letter
  scheme_plain := hkind.plain
  host_plain := hplace.plain
  rest_begins := by
    rintro _ ⟨⟩
    exact Or.inl rfl

theorem recordedURL_text (hkind : kind.WellFormed) (hplace : PlaceName place) (key : String) :
    (recordedURL hkind hplace key).text =
      kind.scheme.toList ++ "://".toList ++ place.toList ++ '/' :: key.toList := rfl

theorem toList_recorded (kind : LocationKind) (place key : String) :
    (kind.scheme ++ "://" ++ place ++ "/" ++ key).toList =
      kind.scheme.toList ++ "://".toList ++ place.toList ++ '/' :: key.toList := by
  simp only [String.toList_append, List.append_assoc]
  rfl

theorem toNat_of_isUpper {c : Char} (h : c.isUpper = true) : 65 ≤ c.toNat ∧ c.toNat ≤ 90 :=
  of_decide_eq_true h

theorem toNat_of_isLower {c : Char} (h : c.isLower = true) : 97 ≤ c.toNat ∧ c.toNat ≤ 122 :=
  (Bool.and_eq_true_iff.mp h).imp of_decide_eq_true of_decide_eq_true

theorem isSpace_of_isAlpha {c : Char} (h : c.isAlpha = true) : isSpace c = false := by
  have hrange : (65 ≤ c.toNat ∧ c.toNat ≤ 90) ∨ (97 ≤ c.toNat ∧ c.toNat ≤ 122) :=
    (Bool.or_eq_true_iff.mp h).imp toNat_of_isUpper toNat_of_isLower
  simp only [isSpace, Bool.or_eq_false_iff, decide_eq_false_iff_not, List.mem_cons,
    List.not_mem_nil, or_false]
  omega

/-- Nothing is trimmed off a recorded path. -/
theorem trimSpace_recorded (hkind : kind.WellFormed) (hkey : UploadedKey key) :
    trimSpace (kind.scheme ++ "://" ++ place ++ "/" ++ key).toList =
      (kind.scheme ++ "://" ++ place ++ "/" ++ key).toList := by
  obtain ⟨c, hc, halpha⟩ := hkind.letter
  obtain ⟨tail, htail⟩ := List.head?_eq_some_iff.mp hc
  rw [toList_recorded]
  apply trimSpace_eq_self
  · intro d hd
    rw [htail] at hd
    obtain rfl : c = d := Option.some.inj hd
    exact isSpace_of_isAlpha halpha
  · intro d hd
    have hne : key.toList ≠ [] := fun h => hkey.ne_empty (String.toList_eq_nil_iff.mp h)
    rw [List.append_cons, List.getLast?_append_of_ne_nil _ hne] at hd
    exact hkey.last d hd

theorem recorded_ne_empty (kind : LocationKind) (place key : String) :
    kind.scheme ++ "://" ++ place ++ "/" ++ key ≠ "" := by
  intro h
  have := congrArg String.toList h
  rw [toList_recorded] at this
  exact nomatch (List.append_eq_nil_iff.mp this).2

/-- A recorded path is read as a URL, and its host has to be the configured place. -/
theorem resolveLocation_recorded_iff (hkind : kind.WellFormed) (hplace : PlaceName place)
    (hkey : UploadedKey key) :
    resolveLocation store kind place (kind.scheme ++ "://" ++ place ++ "/" ++ key) =
        .ok (place, key) ↔
      ∃ path, store.parseURL (kind.scheme ++ "://" ++ place ++ "/" ++ key) = .ok (place, path) ∧
        trimLeadingSlash path = key := by
  have hpre : ((kind.scheme ++ "://").toList.isPrefixOf
      (kind.scheme ++ "://" ++ place ++ "/" ++ key).toList) = true := by
    rw [List.isPrefixOf_iff_prefix, toList_recorded, String.toList_append, List.append_assoc]
    exact List.prefix_append _ _
  rw [resolveLocation, trimSpace_recorded hkind hkey, String.ofList_toList]
  dsimp only
  rw [if_neg (recorded_ne_empty kind place key), if_pos hpre]
  cases store.parseURL (kind.scheme ++ "://" ++ place ++ "/" ++ key) with
  | error err => exact ⟨fun h => (nomatch h), fun ⟨_, h, _⟩ => nomatch h⟩
  | ok parsed =>
    obtain ⟨host, path⟩ := parsed
    dsimp only
    by_cases hhost : place = host
    · subst hhost
      have hmatches : ¬ (place ≠ "" ∧ place ≠ place) := fun h => h.2 rfl
      rw [if_neg hplace.ne_empty, if_neg hmatches, if_neg hplace.ne_empty]
      constructor
      · intro h
        split at h
        · exact nomatch h
        · exact ⟨path, rfl, (Prod.mk.inj (Except.ok.inj h)).2⟩
      · rintro ⟨_, ⟨⟩, hpath⟩
        rw [hpath, if_neg hkey.ne_empty]
    · have hdiffers : place ≠ "" ∧ place ≠ host := ⟨hplace.ne_empty, hhost⟩
      rw [if_pos hdiffers]
      constructor
      · intro h
        split at h <;> exact nomatch h
      · rintro ⟨_, ⟨⟩, -⟩
        exact absurd rfl hhost

/-- The restore finds the key exactly if every character of it stands for itself in a URL. -/
theorem resolveLocation_key_iff (hurl : ParsesURLs store.parseURL) (hkind : kind.WellFormed)
    (hplace : PlaceName place) (hkey : UploadedKey key) :
    resolveLocation store kind place (kind.scheme ++ "://" ++ place ++ "/" ++ key) =
        .ok (place, key) ↔
      ∀ c ∈ key.toList, isLiteral c = true := by
  have htext : String.ofList (recordedURL hkind hplace key).text =
      kind.scheme ++ "://" ++ place ++ "/" ++ key := by
    rw [recordedURL_text, ← toList_recorded, String.ofList_toList]
  have hparse : (recordedURL hkind hplace key).parse = _ :=
    parseFrom_slash place.toList key.toList
  have hread := hurl (recordedURL hkind hplace key)
  rw [htext, hparse] at hread
  rw [resolveLocation_recorded_iff hkind hplace hkey]
  constructor
  · rintro ⟨path, hpath, htrim⟩
    by_contra hliteral
    have hbad : ∃ c ∈ key.toList, isLiteral c = false := by
      simpa only [not_forall, Bool.not_eq_true, exists_prop] using hliteral
    cases hfrom : parseFrom place.toList key.toList with
    | none =>
      rw [hfrom] at hread
      obtain ⟨err, herr⟩ := hread
      cases herr.symm.trans hpath
    | some parsed =>
      have hlt := length_lt_of_parseFrom hfrom hbad
      rw [hfrom] at hread
      have hsame : String.ofList ('/' :: parsed.2) = path :=
        (Prod.mk.inj (Except.ok.inj (hread.symm.trans hpath))).2
      -- what was read has fewer characters than the key
      have hkey' : parsed.2 = key.toList := by
        rw [← htrim, ← hsame, trimLeadingSlash, String.toList_ofList]
        exact String.toList_ofList.symm
      rw [hkey'] at hlt
      exact Nat.lt_irrefl _ hlt
  · intro hliteral
    rw [parseFrom_of_literal place.toList hliteral] at hread
    refine ⟨String.ofList ('/' :: key.toList), ?_, ?_⟩
    · change store.parseURL _ = .ok (String.ofList place.toList, _) at hread
      rw [String.ofList_toList] at hread
      exact hread
    · rw [trimLeadingSlash, String.toList_ofList]
      exact String.ofList_toList

end

/-! ## Keys of uploads -/

/-- A name of a Kubernetes object (RFC 1123): lower-case letters, digits, hyphens, dots. -/
structure ObjectName (name : String) : Prop where
  ne_empty : name ≠ ""
  plain : ∀ c ∈ name.toList, c.isLower = true ∨ c.isDigit = true ∨ c = '-' ∨ c = '.'

/-- Characters of such names and of the extensions have no meaning in a URL. -/
theorem isLiteral_of_objectName {c : Char}
    (h : c.isLower = true ∨ c.isDigit = true ∨ c = '-' ∨ c = '.') : isLiteral c = true := by
  have hrange : (97 ≤ c.toNat ∧ c.toNat ≤ 122) ∨ (48 ≤ c.toNat ∧ c.toNat ≤ 57) ∨
      c.toNat = 45 ∨ c.toNat = 46 := by
    rcases h with h | h | rfl | rfl
    · exact Or.inl (toNat_of_isLower h)
    · right; left
      simpa [Char.isDigit, UInt32.le_iff_toNat_le] using h
    · right; right; left; rfl
    · right; right; right; rfl
  have hne {d : Char} (hd : c.toNat ≠ d.toNat) : c ≠ d := fun h => hd (congrArg Char.toNat h)
  have hcontrol : isControl c = false := decide_eq_false (by omega)
  have hhash : c ≠ '#' := hne (d := '#') (by change c.toNat ≠ 35; omega)
  have hquery : c ≠ '?' := hne (d := '?') (by change c.toNat ≠ 63; omega)
  have hpercent : c ≠ '%' := hne (d := '%') (by change c.toNat ≠ 37; omega)
  simp [isLiteral, hcontrol, hhash, hquery, hpercent]

section

variable {backupName : String}

/-- A key is a front part made of the path prefix, and the name of the object. -/
theorem toList_buildObjectKey (pathPrefix backupName : String) (type : BackupArtifactType) :
    ∃ front : List Char,
      (buildObjectKey pathPrefix backupName type).toList =
        front ++ (backupName.toList ++ (artifactExtension type).toList) ∧
      front.head? ≠ some '/' ∧ ∀ c, c ≠ '/' → (c ∈ front ↔ c ∈ pathPrefix.toList) := by
  have hmem {c : Char} (hc : c ≠ '/') := mem_trimSlashes_iff hc pathPrefix.toList
  unfold buildObjectKey
  dsimp only
  split
  · rename_i htrim
    have hnil : trimSlashes pathPrefix.toList = [] := by
      rw [← String.toList_ofList (l := trimSlashes pathPrefix.toList), htrim]
      rfl
    refine ⟨[], by rw [String.toList_append, List.nil_append], nofun, fun c hc => ?_⟩
    rw [← hmem hc, hnil]
  · rename_i htrim
    refine ⟨trimSlashes pathPrefix.toList ++ ['/'], ?_, ?_, fun c hc => ?_⟩
    · simp only [String.toList_append, String.toList_ofList, List.append_assoc]
      rfl
    · have hhead := head_trimSlashes pathPrefix.toList
      cases hcs : trimSlashes pathPrefix.toList with
      | nil => exact absurd (by rw [hcs]) htrim
      | cons c cs => rwa [hcs] at hhead
    · rw [List.mem_append, hmem hc, List.mem_singleton]
      exact ⟨fun h => h.resolve_right hc, Or.inl⟩

theorem uploadedKey_buildObjectKey (hname : ObjectName backupName) (pathPrefix : String)
    (type : BackupArtifactType) : UploadedKey (buildObjectKey pathPrefix backupName type) := by
  obtain ⟨front, hlist, hhead, -⟩ := toList_buildObjectKey pathPrefix backupName type
  have hext : (artifactExtension type).toList.getLast? = some 'b' ∨
      (artifactExtension type).toList.getLast? = some 'z' := by
    unfold artifactExtension
    split
    · exact Or.inr rfl
    · exact Or.inl rfl
  have hne : (artifactExtension type).toList ≠ [] := by
    rintro hnil
    rw [hnil] at hext
    exact hext.elim nofun nofun
  refine ⟨fun h => ?_, fun h => ?_, fun c hc => ?_⟩
  · rw [h] at hlist
    exact hne (List.append_eq_nil_iff.mp (List.append_eq_nil_iff.mp hlist.symm).2).2
  · rw [hlist] at h
    cases front with
    | cons c cs => exact hhead h
    | nil =>
      cases hcs : backupName.toList with
      | nil => exact hname.ne_empty (String.toList_eq_nil_iff.mp hcs)
      | cons c cs =>
        rw [hcs] at h
        obtain rfl : c = '/' := Option.some.inj h
        have := hname.plain '/' (by rw [hcs]; exact List.mem_cons_self ..)
        exact absurd this (by decide)
  · rw [hlist, ← List.append_assoc, List.getLast?_append_of_ne_nil _ hne] at hc
    rcases hext with h | h
    · obtain rfl : 'b' = c := Option.some.inj (h.symm.trans hc)
      decide
    · obtain rfl : 'z' = c := Option.some.inj (h.symm.trans hc)
      decide

/-- A key has no character with a meaning in a URL exactly if its path prefix has none. -/
theorem literal_buildObjectKey_iff (hname : ObjectName backupName) (pathPrefix : String)
    (type : BackupArtifactType) :
    (∀ c ∈ (buildObjectKey pathPrefix backupName type).toList, isLiteral c = true) ↔
      ∀ c ∈ pathPrefix.toList, isLiteral c = true := by
  obtain ⟨front, hlist, -, hfront⟩ := toList_buildObjectKey pathPrefix backupName type
  have hext : ∀ c ∈ (artifactExtension type).toList, isLiteral c = true := by
    unfold artifactExtension
    split <;> exact List.all_eq_true.mp (by decide)
  -- slashes are literal, so it does not matter how many were trimmed
  have hslash {c : Char} (h : c ≠ '/' → isLiteral c = true) : isLiteral c = true := by
    by_cases hc : c = '/'
    · rw [hc]
      decide
    · exact h hc
  rw [hlist]
  constructor
  · intro h c hc
    exact hslash fun hne => h c (List.mem_append_left _ ((hfront c hne).mpr hc))
  · intro h c hc
    rcases List.mem_append.mp hc with hc | hc
    · exact hslash fun hne => h c ((hfront c hne).mp hc)
    · rcases List.mem_append.mp hc with hc | hc
      · exact isLiteral_of_objectName (hname.plain c hc)
      · exact hext c hc

end

/-! ## Uploads and restores -/

theorem wellFormed_s3 : LocationKind.WellFormed ⟨"s3", "bucket", "object key"⟩ :=
  ⟨⟨'s', rfl, rfl⟩, List.all_eq_true.mp (by decide)⟩

theorem wellFormed_azblob : LocationKind.WellFormed ⟨"azblob", "container", "blob name"⟩ :=
  ⟨⟨'a', rfl, rfl⟩, List.all_eq_true.mp (by decide)⟩

/-- The path that an upload reports leads back to the object exactly if the path
    prefix of the destination has no control character, `?`, `#` or `%`. -/
theorem upload_found_again_iff {Blob Blob' : Type} {store : ObjectStore Blob} {up : Uploader Blob'}
    (hurl : ParsesURLs store.parseURL) {backupName : String} (hname : ObjectName backupName)
    {type : BackupArtifactType} {response : BackupResponse} :
    (∀ destination : S3Destination, PlaceName destination.bucket →
      uploadBackupToS3 up backupName destination type = .ok response →
      (resolveBackupLocation store destination.bucket response.backupPath =
          .ok (destination.bucket, buildObjectKey destination.path backupName type) ↔
        ∀ c ∈ destination.path.toList, isLiteral c = true)) ∧
    (∀ destination : AzureBlobDestination, PlaceName destination.container →
      uploadBackupToAzure up backupName destination type = .ok response →
      (resolveAzureBlobLocation store destination.container response.backupPath =
          .ok (destination.container, buildObjectKey destination.path backupName type) ↔
        ∀ c ∈ destination.path.toList, isLiteral c = true)) := by
  constructor
  · intro destination hplace hupload
    have hkey := uploadedKey_buildObjectKey hname destination.path type
    rw [uploadBackupToS3_backupPath hupload, ← literal_buildObjectKey_iff hname]
    exact resolveLocation_key_iff hurl wellFormed_s3 hplace hkey
  · intro destination hplace hupload
    have hkey := uploadedKey_buildObjectKey hname destination.path type
    rw [uploadBackupToAzure_backupPath hupload, ← literal_buildObjectKey_iff hname]
    exact resolveLocation_key_iff hurl wellFormed_azblob hplace hkey

/-! ### Examples of both outcomes -/

/-- An object store that accepts everything. -/
def openStore : ObjectStore Unit where
  S3Client := Unit
  AzureClient := Unit
  parseURL := parsePlain
  newS3 _ _ _ _ _ := .ok ()
  getObject _ _ _ := .ok ()
  newAzure _ := .ok ()
  newSharedKeyCredential _ _ := .ok ()
  downloadFile _ _ _ := .ok ()

/-- An uploader to it. -/
def openUploader : Uploader Unit where
  store := openStore
  putObject _ _ _ _ := .ok ()
  uploadFile _ _ _ _ := .ok ()
  credentialsDir := "/backup-credentials"
  readCredential _ := .content "credential"
  artifactPath := "/data/dump.rdb"
  openArtifact := .ok ()
  artifactSize := .ok 1
  fileChecksumSHA256 := .ok "checksum"

theorem objectName_nightly : ObjectName "nightly" where
  ne_empty := by decide
  plain c hc := by
    have hlower : "nightly".toList.all Char.isLower = true := by decide
    exact Or.inl (List.all_eq_true.mp hlower c hc)

theorem placeName_backups : PlaceName "backups" :=
  ⟨by decide, List.all_eq_true.mp (by decide)⟩

theorem uploadBackupToS3_openUploader (backupName : String) (destination : S3Destination)
    (type : BackupArtifactType) :
    ∃ response, uploadBackupToS3 openUploader backupName destination type = .ok response := by
  have hvalue : String.ofList (trimSpace "credential".toList) = "credential" := by decide +kernel
  have hcredential (name : String) (names : List String) :
      firstCredentialValue openUploader.credentialsDir openUploader.readCredential (name :: names) =
        .ok "credential" := by
    rw [firstCredentialValue, openUploader]
    dsimp only
    rw [hvalue, if_pos (by decide)]
  have hnot : ¬ ("credential" = "" ∨ "credential" = "") := by decide
  have hread : readAWSCredentialsFromDir openUploader.credentialsDir openUploader.readCredential =
      .ok ("credential", "credential", "credential") := by
    rw [readAWSCredentialsFromDir, hcredential, hcredential, hcredential]
    simp only [bind, Except.bind, if_neg hnot]
  rw [uploadBackupToS3, hread]
  exact ⟨_, rfl⟩

theorem upload_found_again_nightly :
    ∃ response, uploadBackupToS3 openUploader "nightly" ⟨"backups", "/prod/", "", ""⟩ .rdb =
        .ok response ∧
      resolveBackupLocation openStore "backups" response.backupPath =
        .ok ("backups", buildObjectKey "/prod/" "nightly" .rdb) := by
  obtain ⟨response, hupload⟩ :=
    uploadBackupToS3_openUploader "nightly" ⟨"backups", "/prod/", "", ""⟩ .rdb
  have hurl : ParsesURLs openStore.parseURL := parsesURLs_parsePlain
  refine ⟨response, hupload, ?_⟩
  exact ((upload_found_again_iff hurl objectName_nightly).1 _ placeName_backups hupload).mpr
    (List.all_eq_true.mp (by decide))

/-- With a question mark in the prefix the restore does not find the object. -/
theorem upload_lost_after_question_mark :
    ∃ response, uploadBackupToS3 openUploader "nightly" ⟨"backups", "a?b", "", ""⟩ .rdb =
        .ok response ∧
      resolveBackupLocation openStore "backups" response.backupPath ≠
        .ok ("backups", buildObjectKey "a?b" "nightly" .rdb) := by
  obtain ⟨response, hupload⟩ :=
    uploadBackupToS3_openUploader "nightly" ⟨"backups", "a?b", "", ""⟩ .rdb
  have hurl : ParsesURLs openStore.parseURL := parsesURLs_parsePlain
  have hkey := uploadedKey_buildObjectKey objectName_nightly "a?b" .rdb
  refine ⟨response, hupload, fun hfound => ?_⟩
  rw [uploadBackupToS3_backupPath hupload] at hfound
  have hliteral := (resolveLocation_key_iff hurl wellFormed_s3 placeName_backups hkey).mp hfound
  have hmark := (literal_buildObjectKey_iff objectName_nightly "a?b" .rdb).mp hliteral '?'
    (by decide)
  exact absurd hmark (by decide)

end RedisOperator.Restore
