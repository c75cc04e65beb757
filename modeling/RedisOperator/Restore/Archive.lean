/-
  RedisOperator.Restore.Archive

  `extractTarGz` of the restore binary: an AOF archive is unpacked into a
  staging directory, checked for its manifest, and only then put in the place
  of the AOF directory.

  The function is a program over file-system calls, in the order the source
  makes them.  gzip and tar are third-party and enter as a `Codec`; file modes
  are not modelled, the calls that set them are.
-/

import RedisOperator.Lib.Act
import RedisOperator.Lib.FileTree

namespace RedisOperator.Restore

open Lib Act

/-- The type flags of tar entries. -/
inductive TarKind
  | dir | reg | xHeader | xGlobalHeader | other (flag : Nat)
  deriving DecidableEq, Repr

/-- A tar entry as the reader hands it on: the header, the content up to the
    declared size, and the error that cut the content short, if any. -/
structure TarEntry (Blob : Type) (blobSize : Blob → Nat) where
  name : List Char
  kind : TarKind
  size : Nat
  content : Blob
  readError : Option String
  content_le : blobSize content ≤ size

/-- The archive library: an archive is refused by the gzip reader, or yields
    entries until its end or until a read error. -/
structure Codec (Blob : Type) where
  blobSize : Blob → Nat
  blank : Blob
  unpack : Blob → Except String (List (TarEntry Blob blobSize) × Option String)
  pack : List (TarEntry Blob blobSize) → Blob

def defaultBackupFilename : Segment := "dump.rdb".toList
def defaultAOFDirectory : Segment := "appendonlydir".toList
def defaultAOFManifest : Segment := "appendonly.aof.manifest".toList

/-- `targetDir + ".restore-tmp"`. -/
def stagingDirectory : Segment := "appendonlydir.restore-tmp".toList

/-- `maxExtractedBytes`: 32 GiB. -/
def maxExtractedBytes : Nat := 32 * 2 ^ 30

/-- A path below the data directory, as messages show it. -/
def showPath (dataDir : String) (p : FilePath) : String :=
  dataDir ++ "/" ++ String.ofList (joinSlash p)

/-- `sanitizeArchivePath`: the entry's path below the extraction root.  A
    cleaned relative path that does not start with `..` stays below the root,
    so the source's last check, on the joined path, always passes. -/
def sanitizeArchivePath (archiveEntry : List Char) : Except String FilePath :=
  match cleanPath (trimSpace archiveEntry) with
  | (false, []) => .error "archive contains empty path entry"
  | (true, _) => .error ("archive entry " ++ quote archiveEntry ++ " escapes extraction root")
  | (false, seg :: segs) =>
    if seg = ['.', '.'] then
      .error ("archive entry " ++ quote archiveEntry ++ " escapes extraction root")
    else .ok (seg :: segs)

/-- Programs of the extraction; the local is `extractedBytes`. -/
abbrev Extract (Blob : Type) : Type → Type := Act Nat String (FileCmd Blob) (FileResp Blob)

section Extraction

variable {Blob : Type}

/-- Make a call; a failure ends the program with the given text before it. -/
def call (c : FileCmd Blob) (text : String) : Extract Blob Unit :=
  Act.request c >>= fun
    | .ok _ => pure ()
    | .error err => Act.fail (text ++ ": " ++ err)

variable (C : Codec Blob) (dataDir : String)

/-- A directory entry of the archive. -/
def extractDir (entryPath : FilePath) : Extract Blob Unit := do
  call (.mkdirAll entryPath) ("creating directory " ++ showPath dataDir entryPath)
  call (.chmod entryPath) ("setting permissions on directory " ++ showPath dataDir entryPath)

/-- Add a written file to `extractedBytes` and check the limit. -/
def countExtracted (written limit : Nat) : Extract Blob Unit := do
  let extractedBytes ← Act.get
  Act.set (extractedBytes + written)
  if limit < extractedBytes + written then
    Act.fail ("archive expands to " ++ toString (extractedBytes + written) ++
      " bytes, exceeding limit " ++ toString limit)
  else pure ()

/-- A regular file of the archive. -/
def extractFile (limit : Nat) (entryPath : FilePath) (entry : TarEntry Blob C.blobSize) :
    Extract Blob Unit := do
  let shown := showPath dataDir entryPath
  let parentDir := entryPath.dropLast
  call (.mkdirAll parentDir) ("creating parent directory for " ++ shown)
  call (.chmod parentDir)
    ("setting permissions on parent directory " ++ showPath dataDir parentDir)
  call (.openTrunc entryPath) ("creating extracted file " ++ shown)
  -- the file is closed before either error of the copy is looked at
  let copied ← Act.request (.write entryPath entry.content)
  let closed ← Act.request (.close entryPath)
  match copied, entry.readError, closed with
  | .error err, _, _ | .ok _, some err, _ =>
    Act.fail ("extracting file " ++ shown ++ ": " ++ err)
  | .ok _, none, .error err => Act.fail ("closing extracted file " ++ shown ++ ": " ++ err)
  | .ok _, none, .ok _ =>
    if C.blobSize entry.content ≠ entry.size then
      Act.fail ("extracted file " ++ shown ++ " truncated (wrote " ++
        toString (C.blobSize entry.content) ++ " bytes, expected " ++
        toString entry.size ++ ")")
    else do
      call (.chmod entryPath) ("setting permissions on extracted file " ++ shown)
      countExtracted (C.blobSize entry.content) limit

/-- One round of the extraction loop. -/
def extractEntry (limit : Nat) (entry : TarEntry Blob C.blobSize) : Extract Blob Unit :=
  match sanitizeArchivePath entry.name with
  | .error err => Act.fail err
  | .ok rel =>
    match entry.kind with
    | .dir => extractDir dataDir (stagingDirectory :: rel)
    | .reg => extractFile C dataDir limit (stagingDirectory :: rel) entry
    | .xHeader | .xGlobalHeader => pure ()
    | .other flag =>
      Act.fail ("unsupported tar entry type " ++ toString flag ++ " for " ++ quote entry.name)

/-- `extractLimit`, an `int64` in the source: as long as the archive is smaller
    than `2 ^ 56` bytes, neither it nor the count it bounds overflows. -/
def extractLimit (archive : Blob) : Nat :=
  min (C.blobSize archive * 100 + 64 * 2 ^ 20) maxExtractedBytes

/-- An empty staging directory. -/
def prepareStaging : Extract Blob Unit := do
  let shown := showPath dataDir [stagingDirectory]
  call (.removeAll [stagingDirectory]) ("cleaning staging directory " ++ shown)
  call (.mkdirAll [stagingDirectory]) ("creating staging directory " ++ shown)
  call (.chmod [stagingDirectory]) ("setting permissions on staging directory " ++ shown)

/-- The loop over the entries, the error that ends the archive early, and the
    check for the manifest. -/
def fillStaging (limit : Nat) (entries : List (TarEntry Blob C.blobSize))
    (readError : Option String) : Extract Blob Unit := do
  Act.forEach (extractEntry C dataDir limit) entries
  match readError with
  | some err => Act.fail ("reading tar entry: " ++ err)
  | none =>
    call (.stat [stagingDirectory, defaultAOFManifest])
      ("expected AOF manifest " ++ showPath dataDir [stagingDirectory, defaultAOFManifest] ++
        " is missing")

/-- Put the staging directory in the place of the AOF directory. -/
def promoteStaging : Extract Blob Unit := do
  let target := showPath dataDir [defaultAOFDirectory]
  call (.removeAll [defaultAOFDirectory]) ("removing old AOF directory " ++ target)
  call (.rename [stagingDirectory] [defaultAOFDirectory])
    ("promoting staging directory " ++ showPath dataDir [stagingDirectory] ++ " to " ++ target)

/-- Run a program; when it fails, remove the staging directory and fail with
    its error, whatever becomes of the removal. -/
def cleaningUp (x : Extract Blob Unit) : Extract Blob Unit :=
  Act.attempt x >>= fun
    | .ok _ => pure ()
    | .error err => Act.request (.removeAll [stagingDirectory]) >>= fun _ => Act.fail err

/-- `extractTarGz`, of an archive that has been read from `archivePath`. -/
def extractTarGz (archivePath : String) (archive : Blob) : Extract Blob Unit :=
  match C.unpack archive with
  | .error err => Act.fail ("creating gzip reader for " ++ archivePath ++ ": " ++ err)
  | .ok (entries, readError) => do
      prepareStaging dataDir
      cleaningUp do
        fillStaging C dataDir (extractLimit C archive) entries readError
        promoteStaging dataDir

end Extraction

/-! ## What an extraction leaves -/

theorem sanitizeArchivePath_ne_nil {entry : List Char} {rel : FilePath}
    (h : sanitizeArchivePath entry = .ok rel) : rel ≠ [] := by
  unfold sanitizeArchivePath at h
  split at h
  · cases h
  · cases h
  · split at h
    · cases h
    · cases h
      simp

section Extraction

variable {Blob : Type} (C : Codec Blob) (dataDir : String)

theorem call_only {P : FileCmd Blob → Prop} {c : FileCmd Blob} (h : P c) (text : String) :
    Only P (call c text) := by
  refine Only.bind (.request h) ?_
  rintro (err | _)
  · exact .fail _
  · exact .pure _

variable {d d' : FileTree Blob}

theorem run_call_ok {step : FileTree Blob → (c : FileCmd Blob) → FileResp Blob c × FileTree Blob}
    {c : FileCmd Blob} (h : step d c = (.ok (), d')) (text : String) (n : Nat) :
    Act.run step (call c text) n d = (.ok ((), n), d') := by
  unfold call
  rw [run_bind_ok (run_request c), h]
  rfl

theorem countExtracted_only {P : FileCmd Blob → Prop} (written limit : Nat) :
    Only P (countExtracted written limit : Extract Blob Unit) := by
  unfold countExtracted
  refine Only.bind Only.get fun bytes => ?_
  refine Only.bind (.set _) fun _ => ?_
  split
  · exact .fail _
  · exact .pure _

theorem extractFile_only (limit : Nat) {rel : FilePath} (hrel : rel ≠ [])
    (entry : TarEntry Blob C.blobSize) :
    Only (FileCmd.Inside stagingDirectory)
      (extractFile C dataDir limit (stagingDirectory :: rel) entry) := by
  have hpath : [stagingDirectory] <+: stagingDirectory :: rel := ⟨rel, rfl⟩
  have hparent : [stagingDirectory] <+: (stagingDirectory :: rel).dropLast := by
    rw [List.dropLast_cons_of_ne_nil hrel]
    exact ⟨rel.dropLast, rfl⟩
  unfold extractFile
  refine Only.bind (call_only hparent _) fun _ => ?_
  refine Only.bind (call_only hparent _) fun _ => ?_
  refine Only.bind (call_only hparent _) fun _ => ?_
  refine Only.bind (.request hparent) fun copied => ?_
  refine Only.bind (.request hpath) fun closed => ?_
  split
  · exact .fail _
  · exact .fail _
  · exact .fail _
  · split
    · exact .fail _
    · exact Only.bind (call_only hpath _) fun _ => countExtracted_only _ _

theorem extractEntry_only (limit : Nat) (entry : TarEntry Blob C.blobSize) :
    Only (FileCmd.Inside stagingDirectory) (extractEntry C dataDir limit entry) := by
  unfold extractEntry
  split
  · exact .fail _
  · rename_i rel hrel
    have hpath : [stagingDirectory] <+: stagingDirectory :: rel := ⟨rel, rfl⟩
    split
    · exact Only.bind (call_only hpath _) fun _ => call_only hpath _
    · exact extractFile_only C dataDir limit (sanitizeArchivePath_ne_nil hrel) entry
    · exact .pure _
    · exact .pure _
    · exact .fail _

/-- Filling the staging directory touches nothing else. -/
theorem fillStaging_only (limit : Nat) (entries : List (TarEntry Blob C.blobSize))
    (readError : Option String) :
    Only (FileCmd.Inside stagingDirectory)
      (fillStaging C dataDir limit entries readError) := by
  unfold fillStaging
  refine Only.bind (.forEach fun entry _ => extractEntry_only C dataDir limit entry)
    fun _ => ?_
  cases readError with
  | some err => exact .fail _
  | none => exact call_only ⟨[defaultAOFManifest], rfl⟩ _

/-- The tree with a fresh staging directory. -/
def withStaging (d : FileTree Blob) : FileTree Blob :=
  (d.removeAll [stagingDirectory]).set [stagingDirectory] .dir

theorem run_prepareStaging (n : Nat) (d : FileTree Blob) :
    Act.run (FileTree.step C.blank) (prepareStaging dataDir) n d
      = (.ok ((), n), withStaging d) := by
  have hnone : d.removeAll [stagingDirectory] [stagingDirectory] = none :=
    FileTree.removeAll_inside d (List.prefix_refl _)
  have hmkdir : FileTree.step C.blank (d.removeAll [stagingDirectory])
      (.mkdirAll [stagingDirectory]) = (.ok (), withStaging d) := by
    simp [FileTree.step, FileTree.ancestors, FileTree.mkdirAll, FileTree.mkdirStep, hnone,
      withStaging]
  have hchmod : FileTree.step C.blank (withStaging d) (.chmod [stagingDirectory])
      = (.ok (), withStaging d) := by
    simp [FileTree.step, withStaging]
  unfold prepareStaging
  rw [run_bind_ok (run_call_ok rfl _ n), run_bind_ok (run_call_ok hmkdir _ n)]
  exact run_call_ok hchmod _ n

/-- Filling a fresh staging directory of the tree `d`: the outcome and the tree. -/
def fillRun (limit : Nat) (entries : List (TarEntry Blob C.blobSize)) (readError : Option String)
    (d : FileTree Blob) : Except String (Unit × Nat) × FileTree Blob :=
  Act.run (FileTree.step C.blank) (fillStaging C dataDir limit entries readError) 0 (withStaging d)

/-- What the archive holds, as an extraction unpacks it: the tree of the
    staging directory, or the error. -/
def archiveTree (archive : Blob) : Except String (FileTree Blob) :=
  match C.unpack archive with
  | .error err => .error err
  | .ok (entries, readError) =>
    match fillRun C dataDir (extractLimit C archive) entries readError FileTree.empty with
    | (.error err, _) => .error err
    | (.ok _, d) => .ok (d.below [stagingDirectory])

theorem withStaging_frame (d : FileTree Blob) {q : FilePath} (hq : ¬ [stagingDirectory] <+: q) :
    withStaging d q = d q := by
  have hne : q ≠ [stagingDirectory] := fun hc => hq (hc ▸ List.prefix_refl _)
  exact (FileTree.set_ne _ _ hne).trans (FileTree.removeAll_outside d hq)

section Filling

variable (limit : Nat) (entries : List (TarEntry Blob C.blobSize)) (readError : Option String)
  (d : FileTree Blob)

/-- The outcome and the staging directory do not depend on the tree. -/
theorem fillRun_related :
    (fillRun C dataDir limit entries readError d).1
        = (fillRun C dataDir limit entries readError FileTree.empty).1 ∧
      FileTree.AgreeBelow [stagingDirectory] (fillRun C dataDir limit entries readError d).2
        (fillRun C dataDir limit entries readError FileTree.empty).2 := by
  have hagree : FileTree.AgreeBelow [stagingDirectory] (withStaging d)
      (withStaging FileTree.empty) :=
    (FileTree.agreeBelow_removeAll d FileTree.empty [stagingDirectory]).set _
  exact Prog.run_related (fun c hc s t h => FileTree.step_agree C.blank hc s t h)
    (fillStaging_only C dataDir limit entries readError 0) hagree

theorem fillRun_frame {q : FilePath} (hq : ¬ [stagingDirectory] <+: q) :
    (fillRun C dataDir limit entries readError d).2 q = d q := by
  refine Prog.run_invariant (I := fun t : FileTree Blob => t q = d q) ?_
    (fillStaging_only C dataDir limit entries readError 0) (withStaging_frame d hq)
  intro c hc t ht
  exact (FileTree.step_frame C.blank hc t hq).trans ht

theorem fillRun_present :
    (fillRun C dataDir limit entries readError d).2 [stagingDirectory] = some .dir := by
  refine Prog.run_invariant (I := fun t : FileTree Blob => t [stagingDirectory] = some .dir) ?_
    (fillStaging_only C dataDir limit entries readError 0) (FileTree.set_self _ _ _)
  intro c hc t ht
  exact FileTree.step_keeps_dir C.blank hc t ht

end Filling

theorem not_prefix_staging (q : FilePath) : ¬ [stagingDirectory] <+: defaultAOFDirectory :: q :=
  FileTree.not_prefix_of_head_ne (by decide) q

theorem not_prefix_target (q : FilePath) : ¬ [defaultAOFDirectory] <+: stagingDirectory :: q :=
  FileTree.not_prefix_of_head_ne (by decide) q

/-- Promoting replaces the AOF directory by the staging directory. -/
theorem run_promoteStaging (n : Nat) (h : d [stagingDirectory] = some .dir) :
    Act.run (FileTree.step C.blank) (promoteStaging dataDir) n d
      = (.ok ((), n), (d.removeAll [defaultAOFDirectory]).rename
          [stagingDirectory] [defaultAOFDirectory]) := by
  have hsource : d.removeAll [defaultAOFDirectory] [stagingDirectory] = some .dir :=
    (FileTree.removeAll_outside d (not_prefix_target [])).trans h
  have htarget : d.removeAll [defaultAOFDirectory] [defaultAOFDirectory] = none :=
    FileTree.removeAll_inside d (List.prefix_refl _)
  unfold promoteStaging
  rw [run_bind_ok (run_call_ok rfl _ n)]
  refine run_call_ok ?_ _ n
  simp [FileTree.step, hsource, htarget]

/-- The run of `extractTarGz` on a tree. -/
def extracted (archivePath : String) (archive : Blob) (d : FileTree Blob) :
    Except String (Unit × Nat) × FileTree Blob :=
  Act.run (FileTree.step C.blank) (extractTarGz C dataDir archivePath archive) 0 d

variable {archive : Blob}

/-- An archive that fills the staging directory is promoted. -/
theorem extracted_of_fill_ok (archivePath : String)
    {entries : List (TarEntry Blob C.blobSize)} {readError : Option String}
    {n : Nat} (hunpack : C.unpack archive = .ok (entries, readError))
    (hrun : fillRun C dataDir (extractLimit C archive) entries readError d = (.ok ((), n), d')) :
    extracted C dataDir archivePath archive d
      = (.ok ((), n), (d'.removeAll [defaultAOFDirectory]).rename
          [stagingDirectory] [defaultAOFDirectory]) := by
  have hpresent := fillRun_present C dataDir (extractLimit C archive) entries readError d
  rw [hrun] at hpresent
  unfold extracted extractTarGz
  rw [hunpack]
  dsimp only
  rw [run_bind_ok (run_prepareStaging C dataDir 0 d)]
  unfold cleaningUp
  rw [run_bind_ok (run_attempt_ok
    ((run_bind_ok hrun).trans (run_promoteStaging C dataDir n hpresent)))]
  rfl

/-- An archive that does not is cleaned up after. -/
theorem extracted_of_fill_error (archivePath : String)
    {entries : List (TarEntry Blob C.blobSize)} {readError : Option String}
    {err : String} (hunpack : C.unpack archive = .ok (entries, readError))
    (hrun : fillRun C dataDir (extractLimit C archive) entries readError d = (.error err, d')) :
    extracted C dataDir archivePath archive d = (.error err, d'.removeAll [stagingDirectory]) := by
  unfold extracted extractTarGz
  rw [hunpack]
  dsimp only
  rw [run_bind_ok (run_prepareStaging C dataDir 0 d)]
  unfold cleaningUp
  rw [run_bind_ok (run_attempt_error (run_bind_error hrun))]
  rfl

/-- An archive has a tree if filling succeeds; where, does not matter. -/
theorem archiveTree_eq_ok_iff {t : FileTree Blob} (d : FileTree Blob) :
    archiveTree C dataDir archive = .ok t ↔
      ∃ entries readError n d', C.unpack archive = .ok (entries, readError) ∧
        fillRun C dataDir (extractLimit C archive) entries readError d = (.ok ((), n), d') ∧
        d'.below [stagingDirectory] = t := by
  unfold archiveTree
  rcases C.unpack archive with err | ⟨entries, readError⟩
  · simp
  obtain ⟨hout, hstaged⟩ := fillRun_related C dataDir (extractLimit C archive) entries readError d
  rcases hempty : fillRun C dataDir (extractLimit C archive) entries readError FileTree.empty
    with ⟨outcome, e⟩
  rcases hrun : fillRun C dataDir (extractLimit C archive) entries readError d with ⟨outcome', d'⟩
  rw [hempty, hrun] at hout hstaged
  dsimp only at hout
  subst hout
  dsimp only
  rw [hempty]
  constructor
  · intro h
    rcases outcome' with err | ⟨⟨⟩, n⟩
    · cases h
    · exact ⟨entries, readError, n, d', rfl, hrun, hstaged.trans (Except.ok.inj h)⟩
  · rintro ⟨_, _, n, _, hunpack, hrun', rfl⟩
    cases hunpack
    rw [hrun] at hrun'
    cases hrun'
    exact congrArg Except.ok hstaged.symm

/-- A good archive ends up in the AOF directory, whatever was there. -/
theorem extracted_ok (archivePath : String) {t : FileTree Blob}
    (h : archiveTree C dataDir archive = .ok t) (d : FileTree Blob) :
    (∃ n, (extracted C dataDir archivePath archive d).1 = .ok ((), n)) ∧
      (extracted C dataDir archivePath archive d).2.below [defaultAOFDirectory] = t := by
  obtain ⟨entries, readError, n, d', hunpack, hrun, rfl⟩ :=
    (archiveTree_eq_ok_iff C dataDir d).mp h
  rw [extracted_of_fill_ok C dataDir archivePath hunpack hrun]
  refine ⟨⟨n, rfl⟩, (FileTree.below_rename _ _ _).trans ?_⟩
  funext q
  exact FileTree.removeAll_outside _ (not_prefix_target q)

/-- An archive that is refused leaves the AOF directory as it was. -/
theorem extracted_error (archivePath : String) {err : String}
    (h : archiveTree C dataDir archive = .error err) (d : FileTree Blob) :
    (∃ err', (extracted C dataDir archivePath archive d).1 = .error err') ∧
      (extracted C dataDir archivePath archive d).2.below [defaultAOFDirectory]
        = d.below [defaultAOFDirectory] := by
  have hnot : ∀ t, archiveTree C dataDir archive ≠ .ok t := by
    intro t ht
    rw [h] at ht
    cases ht
  rcases hunpack : C.unpack archive with gzipErr | ⟨entries, readError⟩
  · have hrun : extracted C dataDir archivePath archive d
        = (.error ("creating gzip reader for " ++ archivePath ++ ": " ++ gzipErr), d) := by
      unfold extracted extractTarGz
      rw [hunpack]
      rfl
    rw [hrun]
    exact ⟨⟨_, rfl⟩, rfl⟩
  have hframe := fun q => fillRun_frame C dataDir (extractLimit C archive) entries readError d
    (not_prefix_staging q)
  rcases hrun : fillRun C dataDir (extractLimit C archive) entries readError d
    with ⟨fillErr | ⟨⟨⟩, n⟩, d'⟩
  · rw [hrun] at hframe
    rw [extracted_of_fill_error C dataDir archivePath hunpack hrun]
    refine ⟨⟨fillErr, rfl⟩, ?_⟩
    funext q
    exact (FileTree.removeAll_outside _ (not_prefix_staging q)).trans (hframe q)
  · exact absurd ((archiveTree_eq_ok_iff C dataDir d).mpr
      ⟨entries, readError, n, d', hunpack, hrun, rfl⟩) (hnot _)

/-! ## Entries -/

/-- The tar entry of a directory. -/
def dirEntry (name : Segment) : TarEntry Blob C.blobSize :=
  ⟨name, .dir, C.blobSize C.blank, C.blank, none, Nat.le_refl _⟩

/-- The tar entry of a regular file. -/
def fileEntry (f : Segment × Blob) : TarEntry Blob C.blobSize :=
  ⟨f.1, .reg, C.blobSize f.2, f.2, none, Nat.le_refl _⟩

/-- Directories and files that are packed are unpacked again. -/
def Codec.Faithful : Prop :=
  ∀ entries, (∀ e ∈ entries, (∃ name, e = dirEntry C name) ∨ ∃ f, e = fileEntry C f) →
    C.unpack (C.pack entries) = .ok (entries, none)

theorem sanitizeArchivePath_plain {name : Segment} (h : PlainSegment name) :
    sanitizeArchivePath name = .ok [name] := by
  have hclean : cleanPath name = (false, [name]) := by
    exact cleanPath_joinSlash (List.cons_ne_nil name []) (by simpa using h.fileName)
  unfold sanitizeArchivePath
  rw [trimSpace_of_no_blank h.no_blank, hclean]
  dsimp only
  rw [if_neg h.ne_dotdot]

theorem run_countExtracted {written limit n : Nat} (h : ¬ limit < n + written)
    (d : FileTree Blob) :
    Act.run (FileTree.step C.blank) (countExtracted written limit) n d
      = (.ok ((), n + written), d) := by
  show Act.run (FileTree.step C.blank) (if limit < n + written then _ else pure ()) _ d = _
  rw [if_neg h]
  rfl

theorem run_countExtracted_over {written limit n : Nat} (h : limit < n + written)
    (d : FileTree Blob) :
    ∃ err d', Act.run (FileTree.step C.blank) (countExtracted written limit) n d
      = (.error err, d') := by
  show ∃ err d', Act.run (FileTree.step C.blank)
    (if limit < n + written then Act.fail _ else _) _ d = (.error err, d')
  rw [if_pos h]
  exact ⟨_, _, rfl⟩

/-- A directory with these files in it. -/
def treeOf (files : List (Segment × Blob)) : FileTree Blob :=
  files.foldl (fun d f => d.set [f.1] (.file f.2)) (FileTree.empty.set [] .dir)

theorem below_withStaging_empty :
    (withStaging (FileTree.empty : FileTree Blob)).below [stagingDirectory]
      = FileTree.empty.set [] .dir := by
  have hset := FileTree.below_set ((FileTree.empty : FileTree Blob).removeAll [stagingDirectory])
    [stagingDirectory] [] .dir
  rw [List.append_nil] at hset
  refine hset.trans (congrArg (fun t : FileTree Blob => t.set [] .dir) ?_)
  funext q
  exact FileTree.removeAll_inside _ (List.prefix_append _ _)

end Extraction

end RedisOperator.Restore
