/-
  RedisOperator.Restore.Extraction

  What `extractTarGz` makes of an archive of directories and regular files: each
  entry is put below the staging directory at its sanitised path, as
  `Lib.Unpack` says, until one does not fit or takes the archive over its limit.
  `archiveTree_pack_iff` sums up the whole archive.
-/

import RedisOperator.Lib.Unpack
import RedisOperator.Restore.Archive
import Mathlib.Algebra.GroupWithZero.Nat
import Mathlib.Data.List.Forall2

namespace RedisOperator.Restore

open Lib Act

section

variable {Blob : Type} (C : Codec Blob) (dataDir : String)

/-! ## Calls that fail -/

theorem run_call_error {step : FileTree Blob → (c : FileCmd Blob) → FileResp Blob c × FileTree Blob}
    {c : FileCmd Blob} {d d' : FileTree Blob} {err : String} (h : step d c = (.error err, d'))
    (text : String) (n : Nat) :
    Act.run step (call c text) n d = (.error (text ++ ": " ++ err), d') := by
  unfold call
  rw [run_bind_ok (run_request c), h]
  rfl

/-! ## Entries -/

/-- The tar entry of a node of a directory. -/
def tarNode (node : FilePath × FileNode Blob) : TarEntry Blob C.blobSize :=
  match node.2 with
  | .dir => dirEntry C (joinSlash node.1)
  | .file content => fileEntry C (joinSlash node.1, content)

theorem Codec.Faithful.unpack_nodes {C : Codec Blob} (hC : C.Faithful)
    (nodes : List (FilePath × FileNode Blob)) :
    C.unpack (C.pack (nodes.map (tarNode C))) = .ok (nodes.map (tarNode C), none) := by
  refine hC _ fun e he => ?_
  obtain ⟨⟨p, _ | content⟩, -, rfl⟩ := List.mem_map.mp he
  · exact Or.inl ⟨_, rfl⟩
  · exact Or.inr ⟨_, rfl⟩

/-- The bytes that a node adds to `extractedBytes`. -/
def nodeSize : FileNode Blob → Nat
  | .dir => 0
  | .file content => C.blobSize content

variable {d : FileTree Blob} {rel : FilePath}

theorem step_chmod {p : FilePath} (h : d p ≠ none) :
    FileTree.step C.blank d (.chmod p) = (.ok (), d) := by
  obtain ⟨node, hnode⟩ := Option.ne_none_iff_exists'.mp h
  simp only [FileTree.step, hnode]

/-- A directory entry makes the directory and its parents, unless a file is in the way. -/
theorem run_extractDir (n : Nat) {p : FilePath} (hp : p ≠ []) :
    (d.Fits p .dir ∧ Act.run (FileTree.step C.blank) (extractDir dataDir p) n d =
        (.ok ((), n), d.put p .dir)) ∨
      (¬ d.Fits p .dir ∧ ∃ err d', Act.run (FileTree.step C.blank) (extractDir dataDir p) n d =
        (.error err, d')) := by
  by_cases hfile : d.NoFile (FileTree.ancestors p)
  · have hmkdir : FileTree.step C.blank d (.mkdirAll p) = (.ok (), d.put p .dir) :=
      FileTree.mkdirAll_of_noFile hfile
    have hmade : d.put p .dir p ≠ none := by
      rw [FileTree.put, FileTree.addDirs_of_mem _
        (FileTree.mem_ancestors_iff.mpr ⟨hp, List.prefix_refl _⟩)]
      exact Option.some_ne_none _
    refine Or.inl ⟨⟨hfile, fun content h => by cases h⟩, ?_⟩
    rw [extractDir, run_bind_ok (run_call_ok hmkdir _ n)]
    exact run_call_ok (step_chmod C hmade) _ n
  · obtain ⟨err, d', hmkdir⟩ := FileTree.mkdirAll_of_file hfile
    exact Or.inr ⟨fun h => hfile h.dirs, _, d', run_bind_error (run_call_error hmkdir _ n)⟩

/-- The parent directory of a file is made, unless a file is in the way. -/
theorem run_makeParent (n : Nat) {p : FilePath} (hp : p ≠ []) (text text' : String)
    (hfile : d.NoFile (FileTree.ancestors p)) {x : Extract Blob Unit} :
    Act.run (FileTree.step C.blank)
        (do call (.mkdirAll p) text; call (.chmod p) text'; x) n d =
      Act.run (FileTree.step C.blank) x n (d.addDirs (FileTree.ancestors p)) := by
  have hmkdir : FileTree.step C.blank d (.mkdirAll p) =
      (.ok (), d.addDirs (FileTree.ancestors p)) := FileTree.mkdirAll_of_noFile hfile
  have hmade : d.addDirs (FileTree.ancestors p) p ≠ none := by
    rw [FileTree.addDirs_of_mem _ (FileTree.mem_ancestors_iff.mpr ⟨hp, List.prefix_refl _⟩)]
    exact nofun
  rw [run_bind_ok (run_call_ok hmkdir _ n),
    run_bind_ok (run_call_ok (step_chmod C hmade) _ n)]

/-- A file entry is written and counted, unless something is in the way. -/
theorem run_extractFile (limit n : Nat) {p : FilePath} (hp : p.dropLast ≠ [])
    (name : List Char) (content : Blob) :
    (d.Fits p (.file content) ∧ Act.run (FileTree.step C.blank)
          (extractFile C dataDir limit p (fileEntry C (name, content))) n d =
        Act.run (FileTree.step C.blank) (countExtracted (C.blobSize content) limit) n
          (d.put p (.file content))) ∨
      (¬ d.Fits p (.file content) ∧ ∃ err d', Act.run (FileTree.step C.blank)
          (extractFile C dataDir limit p (fileEntry C (name, content))) n d =
            (.error err, d')) := by
  by_cases hfile : d.NoFile (FileTree.ancestors p.dropLast)
  · set e := d.addDirs (FileTree.ancestors p.dropLast) with he
    have hplace : e p = d p :=
      FileTree.addDirs_of_not_mem d (FileTree.not_mem_ancestors_dropLast p)
    have hparent : e.parentExists p = true := by
      rw [FileTree.parentExists, he, FileTree.addDirs_of_mem _
        (FileTree.mem_ancestors_iff.mpr ⟨hp, List.prefix_refl _⟩)]
      exact Bool.or_true _
    rw [extractFile, run_makeParent C n hp _ _ hfile, ← he]
    by_cases hdir : d p = some .dir
    · -- a directory stands where the file should go
      have hopen : FileTree.step C.blank e (.openTrunc p) = (.error "is a directory", e) := by
        simp only [FileTree.step, hparent, if_true, hplace, hdir]
      exact Or.inr ⟨fun h => h.place content rfl hdir, _, e,
        run_bind_error (run_call_error hopen _ n)⟩
    · have hopen : FileTree.step C.blank e (.openTrunc p) =
          (.ok (), e.set p (.file C.blank)) := by
        have hplace' : e p ≠ some .dir := hplace ▸ hdir
        simp only [FileTree.step, hparent, if_true]
      have hput : d.put p (.file content) p ≠ none := by
        rw [FileTree.put, FileTree.set_self]
        exact Option.some_ne_none _
      have hsize : ¬ C.blobSize (fileEntry C (name, content)).content ≠
          (fileEntry C (name, content)).size := fun h => h rfl
      refine Or.inl ⟨⟨hfile, fun _ _ => hdir⟩, ?_⟩
      rw [run_bind_ok (run_call_ok hopen _ n), run_bind_ok (run_request _),
        run_bind_ok (run_request _)]
      dsimp only [FileTree.step]
      rw [if_neg hsize, FileTree.set_set]
      exact run_bind_ok (run_call_ok (step_chmod C hput) _ n)
  · obtain ⟨err, d', hmkdir⟩ := FileTree.mkdirAll_of_file hfile
    exact Or.inr ⟨fun h => hfile h.dirs, _, d', run_bind_error (run_call_error hmkdir _ n)⟩

/-- What it takes for a node to be extracted after `n` bytes: a sanitised path
    where it fits, and room for its content. -/
structure Extractable (limit n : Nat) (d : FileTree Blob) (node : FilePath × FileNode Blob)
    (rel : FilePath) : Prop where
  sanitized : sanitizeArchivePath (joinSlash node.1) = .ok rel
  fits : (d.below [stagingDirectory]).Fits rel node.2
  room : n + nodeSize C node.2 ≤ limit

/-- One round of the loop puts the node below the staging directory, or fails. -/
theorem run_extractEntry (limit n : Nat) (hn : n ≤ limit) (node : FilePath × FileNode Blob)
    (hroot : d [stagingDirectory] = some .dir) :
    (∃ rel d', Extractable C limit n d node rel ∧
        Act.run (FileTree.step C.blank) (extractEntry C dataDir limit (tarNode C node)) n d =
          (.ok ((), n + nodeSize C node.2), d') ∧
        d' [stagingDirectory] = some .dir ∧
        d'.below [stagingDirectory] = (d.below [stagingDirectory]).put rel node.2) ∨
      ((∀ rel, ¬ Extractable C limit n d node rel) ∧
        ∃ err d', Act.run (FileTree.step C.blank)
          (extractEntry C dataDir limit (tarNode C node)) n d = (.error err, d')) := by
  obtain ⟨p, node⟩ := node
  have hname : (tarNode C (p, node)).name = joinSlash p := by cases node <;> rfl
  rw [extractEntry, hname]
  cases hrel : sanitizeArchivePath (joinSlash p) with
  | error err =>
    exact Or.inr ⟨fun rel h => (nomatch hrel.symm.trans h.sanitized), err, d, rfl⟩
  | ok rel =>
    have hne := sanitizeArchivePath_ne_nil hrel
    have hrel' {rel' : FilePath} {d : FileTree Blob} {node : FilePath × FileNode Blob}
        (hp : node.1 = p) (h : Extractable C limit n d node rel') : rel' = rel :=
      Except.ok.inj ((hp ▸ h.sanitized).symm.trans hrel)
    have hbelow : d.Fits (stagingDirectory :: rel) node ↔
        (d.below [stagingDirectory]).Fits rel node := FileTree.fits_below_iff hroot hne
    cases node with
    | dir =>
      rcases run_extractDir C dataDir n (d := d) (List.cons_ne_nil stagingDirectory rel) with
        ⟨hfits, hrun⟩ | ⟨hnot, err, d', hrun⟩
      · exact Or.inl ⟨rel, _, ⟨hrel, hbelow.mp hfits, hn⟩, hrun, FileTree.put_root hne,
          FileTree.below_put hroot hne⟩
      · refine Or.inr ⟨fun rel' h => hnot (hbelow.mpr ?_), err, d', hrun⟩
        exact hrel' rfl h ▸ h.fits
    | file content =>
      have hparent : (stagingDirectory :: rel).dropLast ≠ [] := by
        rw [List.dropLast_cons_of_ne_nil hne]
        exact List.cons_ne_nil _ _
      rcases run_extractFile C dataDir limit n (d := d) hparent (joinSlash p) content with
        ⟨hfits, hrun⟩ | ⟨hnot, err, d', hrun⟩
      · by_cases hlimit : limit < n + C.blobSize content
        · obtain ⟨err, d', hover⟩ := run_countExtracted_over C hlimit
            (d.put (stagingDirectory :: rel) (.file content))
          refine Or.inr ⟨fun rel' h => ?_, err, d', hrun.trans hover⟩
          exact absurd h.room (Nat.not_le_of_lt hlimit)
        · exact Or.inl ⟨rel, _, ⟨hrel, hbelow.mp hfits, Nat.le_of_not_lt hlimit⟩,
            hrun.trans (run_countExtracted C hlimit _), FileTree.put_root hne,
            FileTree.below_put hroot hne⟩
      · refine Or.inr ⟨fun rel' h => hnot (hbelow.mpr ?_), err, d', hrun⟩
        exact hrel' rfl h ▸ h.fits

/-! ## Archives -/

/-- The nodes at their sanitised paths. -/
def Sanitized : List (FilePath × FileNode Blob) → List (FilePath × FileNode Blob) → Prop :=
  List.Forall₂ fun node placed =>
    sanitizeArchivePath (joinSlash node.1) = .ok placed.1 ∧ placed.2 = node.2

/-- The bytes of all files. -/
def totalSize (nodes : List (FilePath × FileNode Blob)) : Nat :=
  (nodes.map fun node => nodeSize C node.2).sum

/-- The loop puts all nodes, or fails. -/
theorem run_forEach_nodes (limit : Nat) {n : Nat} (hn : n ≤ limit)
    (nodes : List (FilePath × FileNode Blob)) (hroot : d [stagingDirectory] = some .dir) :
    (∃ placed d', Sanitized nodes placed ∧ (d.below [stagingDirectory]).AllFit placed ∧
        n + totalSize C nodes ≤ limit ∧
        Act.run (FileTree.step C.blank)
            (Act.forEach (extractEntry C dataDir limit) (nodes.map (tarNode C))) n d =
          (.ok ((), n + totalSize C nodes), d') ∧
        d'.below [stagingDirectory] = (d.below [stagingDirectory]).putAll placed) ∨
      ((∀ placed, Sanitized nodes placed → (d.below [stagingDirectory]).AllFit placed →
          ¬ n + totalSize C nodes ≤ limit) ∧
        ∃ err d', Act.run (FileTree.step C.blank)
          (Act.forEach (extractEntry C dataDir limit) (nodes.map (tarNode C))) n d =
            (.error err, d')) := by
  induction nodes generalizing n d with
  | nil => exact Or.inl ⟨[], d, .nil, trivial, hn, rfl, rfl⟩
  | cons node nodes ih =>
    have htotal : totalSize C (node :: nodes) = nodeSize C node.2 + totalSize C nodes := rfl
    rw [List.map_cons, Act.forEach, htotal, ← Nat.add_assoc]
    rcases run_extractEntry C dataDir limit n hn node hroot with
      ⟨rel, d₁, hex, hrun, hroot₁, hbelow⟩ | ⟨hnot, err, d', hrun⟩
    · rw [run_bind_ok hrun]
      rcases ih hex.room hroot₁ with
        ⟨placed, d', hsan, hfit, hroom, hrun', hput⟩ | ⟨hnot, herr⟩
      · rw [hbelow] at hfit hput
        exact Or.inl ⟨(rel, node.2) :: placed, d', .cons ⟨hex.sanitized, rfl⟩ hsan,
          ⟨hex.fits, hfit⟩, hroom, hrun', hput⟩
      · refine Or.inr ⟨fun placed hsan hfit => ?_, herr⟩
        cases hsan with
        | cons hhead hsan =>
          rename_i first placed
          obtain ⟨q, node'⟩ := first
          obtain ⟨hq, rfl⟩ := hhead
          obtain rfl : q = rel := Except.ok.inj (hq.symm.trans hex.sanitized)
          exact hnot placed hsan (hbelow ▸ hfit.2)
    · refine Or.inr ⟨fun placed hsan hfit hroom => ?_, err, d', run_bind_error hrun⟩
      cases hsan with
      | cons hhead hsan =>
        rename_i first placed
        obtain ⟨q, node'⟩ := first
        obtain ⟨hq, rfl⟩ := hhead
        exact hnot q ⟨hq, hfit.1, Nat.le_trans (Nat.le_add_right _ _) hroom⟩

/-- The empty directory. -/
def emptyDir : FileTree Blob := FileTree.empty.set [] .dir

/-- The check for the manifest changes nothing. -/
theorem run_statManifest (n : Nat) (text : String) :
    (d [stagingDirectory, defaultAOFManifest] ≠ none ∧ Act.run (FileTree.step C.blank)
        (call (.stat [stagingDirectory, defaultAOFManifest]) text) n d = (.ok ((), n), d)) ∨
      (d [stagingDirectory, defaultAOFManifest] = none ∧ ∃ err, Act.run (FileTree.step C.blank)
        (call (.stat [stagingDirectory, defaultAOFManifest]) text) n d = (.error err, d)) := by
  cases hd : d [stagingDirectory, defaultAOFManifest] with
  | none =>
    have hstat : FileTree.step C.blank d (.stat [stagingDirectory, defaultAOFManifest]) =
        (.error "no such file or directory", d) := by
      simp only [FileTree.step, hd]
    exact Or.inr ⟨rfl, _, run_call_error hstat text n⟩
  | some node =>
    have hstat : FileTree.step C.blank d (.stat [stagingDirectory, defaultAOFManifest]) =
        (.ok (), d) := by
      simp only [FileTree.step, hd]
    exact Or.inl ⟨Option.some_ne_none _, run_call_ok hstat text n⟩

theorem Sanitized.unique {nodes placed placed' : List (FilePath × FileNode Blob)}
    (h : Sanitized nodes placed) (h' : Sanitized nodes placed') : placed = placed' := by
  refine Relator.RightUnique.forall₂ (fun a b c hb hc => ?_) h h'
  exact Prod.ext (Except.ok.inj (hb.1.symm.trans hc.1)) (hb.2.trans hc.2.symm)

/-- What an archive of directories and files holds, as it is unpacked. -/
theorem archiveTree_pack_iff (hC : C.Faithful) (nodes : List (FilePath × FileNode Blob))
    (t : FileTree Blob) :
    archiveTree C dataDir (C.pack (nodes.map (tarNode C))) = .ok t ↔
      ∃ placed, Sanitized nodes placed ∧ emptyDir.AllFit placed ∧
        totalSize C nodes ≤ extractLimit C (C.pack (nodes.map (tarNode C))) ∧
        emptyDir.putAll placed [defaultAOFManifest] ≠ none ∧ emptyDir.putAll placed = t := by
  set limit := extractLimit C (C.pack (nodes.map (tarNode C))) with hlimit
  have hroot : withStaging (FileTree.empty : FileTree Blob) [stagingDirectory] = some .dir :=
    FileTree.set_self _ _ _
  have hloop := run_forEach_nodes C dataDir limit (Nat.zero_le _) nodes hroot
  rw [below_withStaging_empty, Nat.zero_add] at hloop
  rw [archiveTree, hC.unpack_nodes]
  dsimp only
  rw [← hlimit, fillRun, fillStaging]
  rcases hloop with ⟨placed, d, hsan, hfit, hroom, hrun, hput⟩ | ⟨hnot, err, d, hrun⟩
  · rw [run_bind_ok hrun]
    have hmanifest : d [stagingDirectory, defaultAOFManifest] =
        emptyDir.putAll placed [defaultAOFManifest] := congrFun hput [defaultAOFManifest]
    rcases run_statManifest C (d := d) (totalSize C nodes) _ with
      ⟨hpresent, hstat⟩ | ⟨hmissing, err, hstat⟩
    · rw [hstat]
      dsimp only
      constructor
      · intro h
        exact ⟨placed, hsan, hfit, hroom, hmanifest ▸ hpresent, hput.symm.trans (Except.ok.inj h)⟩
      · rintro ⟨placed', hsan', -, -, -, rfl⟩
        rw [hsan'.unique hsan, hput]
        rfl
    · rw [hstat]
      dsimp only
      refine ⟨fun h => (nomatch h), ?_⟩
      rintro ⟨placed', hsan', -, -, hpresent, -⟩
      rw [hsan'.unique hsan, ← hmanifest] at hpresent
      exact absurd hmissing hpresent
  · rw [run_bind_error hrun]
    refine ⟨fun h => (nomatch h), ?_⟩
    rintro ⟨placed, hsan, hfit, hroom, -⟩
    exact absurd hroom (hnot placed hsan hfit)

/-! ## Plain files -/

/-- The node of a file in the directory itself. -/
def flatNode (f : Segment × Blob) : FilePath × FileNode Blob := ([f.1], .file f.2)

theorem putAll_flatNode (files : List (Segment × Blob)) :
    emptyDir.putAll (files.map flatNode) = treeOf files := by
  have hput : (fun (d : FileTree Blob) f => d.put (flatNode f).1 (flatNode f).2) =
      fun d f => d.set [f.1] (.file f.2) := by
    funext d f
    -- the directory itself is there already
    have hdirs : d.addDirs (FileTree.ancestors []) = d :=
      funext fun _ => FileTree.addDirs_of_not_mem d List.not_mem_nil
    exact congrArg (fun t : FileTree Blob => t.set [f.1] (.file f.2)) hdirs
  rw [FileTree.putAll, List.foldl_map, hput]
  rfl

/-- Unpacking an archive of plain files gives those files. -/
theorem archiveTree_files (hC : C.Faithful) {files : List (Segment × Blob)}
    (hnames : ∀ f ∈ files, PlainSegment f.1) {t : FileTree Blob}
    (h : archiveTree C dataDir (C.pack (files.map (fileEntry C))) = .ok t) : t = treeOf files := by
  have hentries : files.map (fileEntry C) = (files.map flatNode).map (tarNode C) := by
    rw [List.map_map]
    rfl
  have hplaced : Sanitized (files.map flatNode) (files.map flatNode) := by
    refine List.forall₂_same.mpr fun node hnode => ?_
    obtain ⟨f, hf, rfl⟩ := List.mem_map.mp hnode
    exact ⟨sanitizeArchivePath_plain (hnames f hf), rfl⟩
  rw [hentries, archiveTree_pack_iff C dataDir hC] at h
  obtain ⟨placed, hsan, -, -, -, rfl⟩ := h
  rw [hsan.unique hplaced, putAll_flatNode]

end

end RedisOperator.Restore
