/-
  RedisOperator.Restore.Expansion

  How many bytes an extraction writes.  The limit is looked at after an entry
  was copied, so what keeps the extraction below it is the archive: the regular
  files up to the first entry that is refused must not be larger together.
-/

import RedisOperator.Restore.Archive

namespace RedisOperator.Restore

open Lib Act

variable {Blob : Type} (C : Codec Blob) (dataDir : String)

/-- The bytes that a call writes. -/
def writtenBytes : FileCmd Blob → Nat
  | .write _ content => C.blobSize content
  | _ => 0

/-- Calls are answered in any way; the written bytes are counted. -/
def CountsWrites : Prog.Handler (FileCmd Blob) (FileResp Blob) Nat :=
  fun n c _ n' => n' = n + writtenBytes C c

/-- The bytes that the round of an entry copies, complete or not. -/
def entryBytes (entry : TarEntry Blob C.blobSize) : Nat :=
  match sanitizeArchivePath entry.name, entry.kind with
  | .ok _, .reg => C.blobSize entry.content
  | _, _ => 0

/-- The entry does not end the extraction by itself: its path and its type are
    allowed, and a file is complete. -/
def accepted (entry : TarEntry Blob C.blobSize) : Bool :=
  match sanitizeArchivePath entry.name, entry.kind with
  | .error _, _ | .ok _, .other _ => false
  | .ok _, .reg => entry.readError.isNone && C.blobSize entry.content == entry.size
  | .ok _, .dir | .ok _, .xHeader | .ok _, .xGlobalHeader => true

/-- The bytes of the regular files, up to the first entry that is refused. -/
def copiedBytes : List (TarEntry Blob C.blobSize) → Nat
  | [] => 0
  | entry :: entries => entryBytes C entry + if accepted C entry then copiedBytes entries else 0

section

variable {limit : Nat} {Q : Unit → Nat → Nat → Prop} {l n : Nat}

/-- Every call stays below the limit, also while it writes, and errors are
    reported below it. -/
def WritesWithin (limit : Nat) (x : Extract Blob Unit) (Q : Unit → Nat → Nat → Prop)
    (l n : Nat) : Prop :=
  Act.wp (CountsWrites C) (fun n c => n + writtenBytes C c ≤ limit) x Q (fun _ n => n ≤ limit) l n

theorem writesWithin_bind {x : Extract Blob Unit} {f : Unit → Extract Blob Unit} :
    WritesWithin C limit (x >>= f) Q l n ↔
      WritesWithin C limit x (fun a l n => WritesWithin C limit (f a) Q l n) l n :=
  wp_bind

theorem writesWithin_call {c : FileCmd Blob} (hc : writtenBytes C c = 0) (text : String)
    (hn : n ≤ limit) : WritesWithin C limit (call c text) Q l n ↔ Q () l n := by
  rw [WritesWithin, call, wp_bind, wp_request]
  constructor
  · exact fun h => h.2 (.ok ()) n (by rw [CountsWrites, hc]; rfl)
  · intro hq
    refine ⟨by rwa [hc], fun answer n' hn' => ?_⟩
    obtain rfl : n' = n := by rw [hn', hc]; rfl
    cases answer with
    | ok => exact hq
    | error err => exact hn

theorem writesWithin_countExtracted {written : Nat} (hn : n + written ≤ limit) :
    WritesWithin C limit (countExtracted written limit) Q n (n + written) ↔
      Q () (n + written) (n + written) := by
  rw [WritesWithin, countExtracted, wp_bind, wp_get, wp_bind, wp_set,
    if_neg (by omega)]
  rfl

/-- The copy of a file has to fit as a whole. -/
theorem writesWithin_extractFile (entryPath : FilePath) (entry : TarEntry Blob C.blobSize)
    (hn : n ≤ limit) :
    WritesWithin C limit (extractFile C dataDir limit entryPath entry) Q n n ↔
      n + C.blobSize entry.content ≤ limit ∧
        (entry.readError = none ∧ C.blobSize entry.content = entry.size →
          Q () (n + C.blobSize entry.content) (n + C.blobSize entry.content)) := by
  unfold extractFile
  rw [writesWithin_bind, writesWithin_call C rfl _ hn, writesWithin_bind,
    writesWithin_call C rfl _ hn, writesWithin_bind, writesWithin_call C rfl _ hn]
  rw [WritesWithin, wp_bind, wp_request]
  refine and_congr_right fun (hfits : n + C.blobSize entry.content ≤ limit) => ?_
  have hend : WritesWithin C limit (do
      call (.chmod entryPath) ("setting permissions on extracted file " ++
        showPath dataDir entryPath)
      countExtracted (C.blobSize entry.content) limit) Q n (n + C.blobSize entry.content) ↔
      Q () (n + C.blobSize entry.content) (n + C.blobSize entry.content) := by
    rw [writesWithin_bind, writesWithin_call C rfl _ hfits, writesWithin_countExtracted C hfits]
  constructor
  · intro h hgood
    have hcopied := h (.ok ()) _ rfl
    rw [wp_bind, wp_request] at hcopied
    have hclosed := hcopied.2 (.ok ()) _ rfl
    simp only [hgood.1] at hclosed
    rw [if_neg (not_not.mpr hgood.2)] at hclosed
    exact hend.mp hclosed
  · rintro hq copied _ rfl
    rw [wp_bind, wp_request]
    refine ⟨hfits, ?_⟩
    rintro closed _ rfl
    -- whatever is reported of the copy and the close, nothing more is written
    cases copied with
    | error err => exact hfits
    | ok =>
      cases hread : entry.readError with
      | some err => exact hfits
      | none =>
        cases closed with
        | error err => exact hfits
        | ok =>
          refine wp_ite.mpr ⟨fun _ => hfits, fun hsize => ?_⟩
          exact hend.mpr (hq ⟨hread, not_not.mp hsize⟩)

theorem writesWithin_extractEntry (entry : TarEntry Blob C.blobSize) (hn : n ≤ limit) :
    WritesWithin C limit (extractEntry C dataDir limit entry) Q n n ↔
      n + entryBytes C entry ≤ limit ∧
        (accepted C entry = true → Q () (n + entryBytes C entry) (n + entryBytes C entry)) := by
  unfold extractEntry entryBytes accepted
  cases sanitizeArchivePath entry.name with
  | error err => exact iff_of_true hn ⟨hn, fun h => by cases h⟩
  | ok rel =>
    cases entry.kind with
    | dir =>
      dsimp only
      rw [extractDir, writesWithin_bind, writesWithin_call C rfl _ hn, writesWithin_call C rfl _ hn]
      exact ⟨fun h => ⟨hn, fun _ => h⟩, fun h => h.2 rfl⟩
    | reg =>
      dsimp only
      rw [writesWithin_extractFile C dataDir _ entry hn, Bool.and_eq_true,
        Option.isNone_iff_eq_none,
        beq_iff_eq]
    | xHeader | xGlobalHeader => exact ⟨fun h => ⟨hn, fun _ => h⟩, fun h => h.2 rfl⟩
    | other flag => exact iff_of_true hn ⟨hn, fun h => by cases h⟩

theorem writesWithin_extractEntries (entries : List (TarEntry Blob C.blobSize))
    (hQ : ∀ n ≤ limit, Q () n n) (hn : n ≤ limit) :
    WritesWithin C limit (Act.forEach (extractEntry C dataDir limit) entries) Q n n ↔
      n + copiedBytes C entries ≤ limit := by
  induction entries generalizing n with
  | nil => exact iff_of_true (hQ n hn) hn
  | cons entry entries ih =>
    refine (writesWithin_bind C).trans ((writesWithin_extractEntry C dataDir entry hn).trans ?_)
    rw [copiedBytes, ← Nat.add_assoc]
    cases accepted C entry with
    | false => exact ⟨fun h => h.1, fun h => ⟨h, fun hok => by cases hok⟩⟩
    | true =>
      constructor
      · exact fun h => (ih h.1).mp (h.2 rfl)
      · intro h
        have hfits : n + entryBytes C entry ≤ limit := Nat.le_trans (Nat.le_add_right ..) h
        exact ⟨hfits, fun _ => (ih hfits).mpr h⟩

/-- Removing the staging directory writes nothing. -/
theorem writesWithin_cleaningUp {x : Extract Blob Unit} :
    WritesWithin C limit (cleaningUp x) Q l n ↔ WritesWithin C limit x Q l n := by
  have hremove : ∀ (err : String) (n : Nat), wp (CountsWrites C)
      (fun n c => n + writtenBytes C c ≤ limit)
      (Act.request (.removeAll [stagingDirectory]) >>= fun _ => Act.fail err) Q
      (fun _ n => n ≤ limit) l n ↔ n ≤ limit := by
    intro err n
    rw [wp_bind, wp_request]
    constructor
    · exact fun h => h.1
    · rintro hn
      refine ⟨hn, ?_⟩
      rintro _ _ rfl
      exact hn
  rw [WritesWithin, cleaningUp, wp_bind, wp_attempt]
  simp only [hremove]
  rfl

/-- Neither the check for the manifest nor the promotion writes. -/
theorem writesWithin_afterwards (readError : Option String) (hn : n ≤ limit) :
    WritesWithin C limit (fillStaging C dataDir limit [] readError >>= fun _ =>
      promoteStaging dataDir) (fun _ _ n => n ≤ limit) n n := by
  cases readError with
  | some err => exact hn
  | none =>
    show WritesWithin C limit (call _ _ >>= fun _ => promoteStaging dataDir) _ n n
    rw [writesWithin_bind, writesWithin_call C rfl _ hn, promoteStaging, writesWithin_bind,
      writesWithin_call C rfl _ hn, writesWithin_call C rfl _ hn]
    exact hn

end

/-- The bytes an archive expands to, as far as it is unpacked. -/
def expandedBytes (archive : Blob) : Nat :=
  match C.unpack archive with
  | .error _ => 0
  | .ok (entries, _) => copiedBytes C entries

theorem writesWithin_extractTarGz (archivePath : String) {archive : Blob}
    {entries : List (TarEntry Blob C.blobSize)} {readError : Option String}
    (hunpack : C.unpack archive = .ok (entries, readError)) :
    WritesWithin C (extractLimit C archive) (extractTarGz C dataDir archivePath archive)
        (fun _ _ n => n ≤ extractLimit C archive) 0 0 ↔
      copiedBytes C entries ≤ extractLimit C archive := by
  have h0 := Nat.zero_le (extractLimit C archive)
  unfold extractTarGz
  rw [hunpack]
  dsimp only
  rw [writesWithin_bind, prepareStaging, writesWithin_bind, writesWithin_call C rfl _ h0,
    writesWithin_bind, writesWithin_call C rfl _ h0, writesWithin_call C rfl _ h0,
    writesWithin_cleaningUp, writesWithin_bind]
  unfold fillStaging
  rw [writesWithin_bind]
  refine (writesWithin_extractEntries C dataDir entries (fun n hn => ?_) h0).trans ?_
  · exact (writesWithin_bind C).mp (writesWithin_afterwards C dataDir readError hn)
  · rw [Nat.zero_add]

/-- **Extraction is bounded** at every point, whatever the calls are answered,
    exactly if the archive does not expand to more than the limit. -/
theorem extractTarGz_bounded_iff (archivePath : String) (archive : Blob) :
    Act.wp (CountsWrites C) (fun n c => n + writtenBytes C c ≤ extractLimit C archive)
      (extractTarGz C dataDir archivePath archive) (fun _ _ n => n ≤ extractLimit C archive)
      (fun _ n => n ≤ extractLimit C archive) 0 0 ↔
    expandedBytes C archive ≤ extractLimit C archive := by
  unfold expandedBytes
  cases hunpack : C.unpack archive with
  | error err =>
    unfold extractTarGz
    rw [hunpack]
    exact iff_of_true (Nat.zero_le _) (Nat.zero_le _)
  | ok unpacked => exact writesWithin_extractTarGz C dataDir archivePath hunpack

/-- Every archive holds one file of 1 GiB; only sizes matter here. -/
def bombCodec : Codec Nat where
  blobSize := id
  blank := 0
  unpack _ := .ok ([⟨"appendonly.aof.1.incr.aof".toList, .reg, 2 ^ 30, 2 ^ 30, none,
    Nat.le_refl _⟩],
    none)
  pack _ := 2 ^ 20

/-- An archive of 1 MiB may expand to 164 MiB; the file is written nevertheless. -/
theorem extractTarGz_exceeds_limit : ¬ Act.wp (CountsWrites bombCodec)
    (fun n c => n + writtenBytes bombCodec c ≤ extractLimit bombCodec (2 ^ 20))
    (extractTarGz bombCodec "/data" "aof-archive.tar.gz" (2 ^ 20))
    (fun _ _ n => n ≤ extractLimit bombCodec (2 ^ 20))
    (fun _ n => n ≤ extractLimit bombCodec (2 ^ 20)) 0 0 := by
  intro h
  exact absurd ((writesWithin_extractTarGz bombCodec "/data" _ rfl).mp h) (by decide)

end RedisOperator.Restore
