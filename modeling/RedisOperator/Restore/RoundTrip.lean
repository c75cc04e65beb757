/-
  RedisOperator.Restore.RoundTrip

  From `writeTarGz` of the backup to `extractTarGz` of the restore.  The writer
  takes every directory; the reader trims blanks off the names in the archive
  and refuses an archive that expands too much.  `restored_iff` says for which
  directories and archives the restore brings the directory back.
-/

import RedisOperator.Backup.Artifact
import RedisOperator.Lib.ListFacts
import RedisOperator.Restore.Extraction

namespace RedisOperator.Restore

open Lib

/-! ## Directories -/

/-- A directory of directories and regular files, by their paths. -/
structure Directory (Blob : Type) where
  nodes : List (FilePath × FileNode Blob)
  ne_nil : ∀ node ∈ nodes, node.1 ≠ []
  named : ∀ node ∈ nodes, ∀ seg ∈ node.1, FileName seg
  distinct : (nodes.map Prod.fst).Nodup
  /-- what a path goes through are directories -/
  closed : ∀ p seg node, (p ++ [seg], node) ∈ nodes → p ≠ [] → (p, .dir) ∈ nodes

namespace Directory

variable {Blob : Type} (dir : Directory Blob)

/-- The visits of `filepath.WalkDir`. -/
def walk : List (Backup.WalkEntry Blob) :=
  dir.nodes.map fun node =>
    ⟨node.1, match node.2 with
      | .dir => .dir
      | .file content => .file content⟩

/-- The directory as a tree. -/
def tree : FileTree Blob := fun p => if p = [] then some .dir else dir.nodes.lookup p

variable {dir}

variable {node : FileNode Blob}

theorem tree_eq_some_iff {p : FilePath} (hp : p ≠ []) :
    dir.tree p = some node ↔ (p, node) ∈ dir.nodes := by
  rw [tree, if_neg hp]
  exact lookup_eq_some_iff_mem dir.distinct

theorem tree_root : dir.tree [] = some .dir := if_pos rfl

/-- A path names one node. -/
theorem node_unique {p : FilePath} {node' : FileNode Blob} (h : (p, node) ∈ dir.nodes)
    (h' : (p, node') ∈ dir.nodes) : node = node' := by
  have hp := dir.ne_nil _ h
  exact Option.some.inj (((tree_eq_some_iff hp).mpr h).symm.trans ((tree_eq_some_iff hp).mpr h'))

/-- Above a node there are directories. -/
theorem dir_of_prefix {p q : FilePath} (h : (p, node) ∈ dir.nodes)
    (hq : q <+: p) (hne : q ≠ p) (hnil : q ≠ []) : (q, .dir) ∈ dir.nodes := by
  induction p using List.reverseRecOn generalizing node with
  | nil => exact absurd (List.prefix_nil.mp hq) hnil
  | append_singleton p seg ih =>
    have hq' : q <+: p := by
      rcases List.prefix_concat_iff.mp hq with hq | hq
      · exact absurd hq hne
      · exact hq
    have hp : p ≠ [] := fun hp => hnil (List.prefix_nil.mp (hp ▸ hq'))
    have hdir := dir.closed p seg node h hp
    by_cases hpq : q = p
    · rw [hpq]
      exact hdir
    · exact ih hdir hq' hpq

end Directory

/-! ## Names in an archive -/

/-- The text begins with a blank. -/
def BeginsBlank (cs : List Char) : Prop := ∃ c, cs.head? = some c ∧ isSpace c = true

/-- The text ends with a blank. -/
def EndsBlank (cs : List Char) : Prop := ∃ c, cs.getLast? = some c ∧ isSpace c = true

instance (cs : List Char) : Decidable (BeginsBlank cs) :=
  decidable_of_iff (cs.head?.any isSpace = true) (by simp [BeginsBlank, Option.any_eq_true])

instance (cs : List Char) : Decidable (EndsBlank cs) :=
  decidable_of_iff (cs.getLast?.any isSpace = true) (by simp [EndsBlank, Option.any_eq_true])

section Names

variable {init : FilePath} {last seg : Segment} {q : FilePath}

variable {cs : List Char}

theorem dropWhile_of_not_beginsBlank (h : ¬ BeginsBlank cs) : cs.dropWhile isSpace = cs :=
  dropWhile_isSpace_eq_self fun c hc => Bool.eq_false_iff.mpr fun hblank => h ⟨c, hc, hblank⟩

theorem trimRight_of_not_endsBlank (h : ¬ EndsBlank cs) : trimRight cs = cs :=
  trimRight_eq_self fun c hc => Bool.eq_false_iff.mpr fun hblank => h ⟨c, hc, hblank⟩

theorem not_endsBlank_trimRight (cs : List Char) : ¬ EndsBlank (trimRight cs) := by
  rintro ⟨c, hc, hblank⟩
  exact Bool.false_ne_true ((getLast?_trimRight hc).symm.trans hblank)

theorem not_beginsBlank_dropWhile (cs : List Char) : ¬ BeginsBlank (cs.dropWhile isSpace) := by
  rintro ⟨c, hc, hblank⟩
  have hhead := List.head?_dropWhile_not isSpace cs
  rw [hc] at hhead
  simp [hblank] at hhead

/-- A path leads at most to where it goes through, or to its last segment. -/
theorem followLast_cases (init : FilePath) (last : Segment) :
    followLast init last <+: init ∨
      (followLast init last = init ++ [last] ∧ last ≠ [] ∧ last ≠ ['.', '.']) := by
  unfold followLast
  split
  · exact Or.inl (List.prefix_refl _)
  · rename_i hskip
    split
    · exact Or.inl (List.dropLast_prefix _)
    · rename_i hup
      exact Or.inr ⟨rfl, fun h => hskip (Or.inl h), hup⟩

theorem followLast_of_fileName (h : FileName last) : followLast init last = init ++ [last] := by
  rw [followLast, if_neg fun hc => hc.elim h.ne_nil h.ne_dot, if_neg h.ne_dotdot]

/-- Only what is left of a name without blanks matters. -/
theorem sanitizeArchivePath_congr {ds : List Char} (h : trimSpace cs = trimSpace ds) :
    sanitizeArchivePath cs = .ok q ↔ sanitizeArchivePath ds = .ok q := by
  unfold sanitizeArchivePath
  rw [h]
  split
  · exact ⟨fun h => (nomatch h), fun h => (nomatch h)⟩
  · exact ⟨fun h => (nomatch h), fun h => (nomatch h)⟩
  · split
    · exact ⟨fun h => (nomatch h), fun h => (nomatch h)⟩
    · exact Iff.rfl

/-- Where an entry goes whose path does not begin with a blank. -/
theorem sanitizeArchivePath_joinSlash_iff (hinit : ∀ seg ∈ init, FileName seg)
    (hlast : FileName last) (hfront : ¬ BeginsBlank (joinSlash (init ++ [last]))) :
    sanitizeArchivePath (joinSlash (init ++ [last])) = .ok q ↔
      q = followLast init (trimRight last) ∧ q ≠ [] := by
  have hslash : '/' ∉ trimRight last := fun h =>
    hlast.no_slash ((trimRight_isPrefixOf last).subset h)
  have htrim : trimSpace (joinSlash (init ++ [last])) = joinSlash (init ++ [trimRight last]) := by
    rw [trimSpace_eq, dropWhile_of_not_beginsBlank hfront, trimRight_joinSlash]
  unfold sanitizeArchivePath
  rw [htrim, cleanPath_joinSlash_append hinit hslash]
  by_cases hroot : trimRight last = ['.', '.'] ∧ init = []
  · -- `..` at the root escapes
    have hnil : followLast init (trimRight last) = [] := by
      rw [hroot.1, hroot.2]
      rfl
    rw [if_pos hroot, hroot.1]
    dsimp only
    rw [if_pos rfl]
    refine ⟨fun h => (nomatch h), ?_⟩
    rintro ⟨rfl, hne⟩
    rw [← hroot.1] at hne
    exact absurd hnil hne
  · rw [if_neg hroot]
    cases hfollow : followLast init (trimRight last) with
    | nil => exact ⟨fun h => (nomatch h), fun h => absurd h.1 h.2⟩
    | cons seg segs =>
      have hseg : seg ≠ ['.', '.'] := by
        rcases followLast_cases init (trimRight last) with hpre | ⟨heq, -, hne⟩
        · rw [hfollow] at hpre
          exact (hinit seg (hpre.subset (List.mem_cons_self ..))).ne_dotdot
        · rw [hfollow] at heq
          cases init with
          | nil =>
            rw [(List.cons.inj heq).1]
            exact hne
          | cons seg' init =>
            rw [(List.cons.inj heq).1]
            exact (hinit seg' (List.mem_cons_self ..)).ne_dotdot
      dsimp only
      rw [if_neg hseg]
      exact ⟨fun h => ⟨(Except.ok.inj h).symm, (Except.ok.inj h) ▸ List.cons_ne_nil _ _⟩,
        fun h => congrArg Except.ok h.1.symm⟩

/-- A name that can stand at the top of an archive is a name without the blanks before it. -/
theorem fileName_dropWhile (hseg : FileName seg) {top : FilePath}
    (htop : sanitizeArchivePath seg = .ok top) : FileName (seg.dropWhile isSpace) := by
  have hne {rest : List Char} (hrest : seg.dropWhile isSpace = rest)
      (hfails : ∀ cs, trimSpace cs = trimRight rest → sanitizeArchivePath cs ≠ .ok top) : False :=
    hfails seg (by rw [trimSpace_eq, hrest]) htop
  refine ⟨fun h => hne h ?_, fun h => hseg.no_slash ((List.dropWhile_suffix _).subset h),
    fun h => hne h ?_, fun h => hne h ?_⟩
  · intro cs hcs h
    rw [sanitizeArchivePath, hcs] at h
    exact nomatch h
  · intro cs hcs h
    rw [sanitizeArchivePath, hcs] at h
    exact nomatch h
  · intro cs hcs h
    rw [sanitizeArchivePath, hcs] at h
    exact nomatch h

/-- No entry ends up below a name that begins with a blank. -/
theorem head_sanitizeArchivePath {rest : FilePath} (hnames : ∀ s ∈ seg :: rest, FileName s)
    {top : FilePath} (htop : sanitizeArchivePath seg = .ok top)
    (h : sanitizeArchivePath (joinSlash (seg :: rest)) = .ok q) :
    ∃ first, q.head? = some first ∧ ¬ BeginsBlank first := by
  set seg' := seg.dropWhile isSpace with hseg'
  have hname : FileName seg' := fileName_dropWhile (hnames seg (List.mem_cons_self ..)) htop
  have hblank : ¬ BeginsBlank seg' := not_beginsBlank_dropWhile seg
  have hfront : ¬ BeginsBlank (joinSlash (seg' :: rest)) := by
    rintro ⟨c, hc, hspace⟩
    rw [head?_joinSlash hname.ne_nil] at hc
    exact hblank ⟨c, hc, hspace⟩
  have htrim : trimSpace (joinSlash (seg :: rest)) = trimSpace (joinSlash (seg' :: rest)) := by
    rw [trimSpace_eq, trimSpace_eq, dropWhile_joinSlash, ← hseg',
      dropWhile_of_not_beginsBlank hfront]
  have hq := (sanitizeArchivePath_congr htrim).mp h
  -- the same path with its last segment apart
  obtain hnil | ⟨init, last, hpath⟩ := List.eq_nil_or_concat (seg' :: rest)
  · exact nomatch hnil
  rw [List.concat_eq_append] at hpath
  have hnames' : ∀ s ∈ init ++ [last], FileName s := by
    intro s hs
    rw [← hpath] at hs
    rcases List.mem_cons.mp hs with rfl | hs
    · exact hname
    · exact hnames s (List.mem_cons_of_mem _ hs)
  rw [hpath] at hq hfront
  obtain ⟨rfl, hne⟩ := (sanitizeArchivePath_joinSlash_iff
    (fun s hs => hnames' s (List.mem_append_left _ hs)) (hnames' last (by simp)) hfront).mp hq
  cases init with
  | cons first init =>
    obtain rfl : seg' = first := (List.cons.inj hpath).1
    refine ⟨_, ?_, hblank⟩
    rcases followLast_cases (seg' :: init) (trimRight last) with hpre | ⟨heq, -, -⟩
    · obtain ⟨first', tail, hfollow⟩ := List.exists_cons_of_ne_nil hne
      rw [hfollow] at hpre ⊢
      rw [(List.cons_prefix_cons.mp hpre).1]
      rfl
    · rw [heq]
      rfl
  | nil =>
    obtain rfl : seg' = last := (List.cons.inj hpath).1
    rcases followLast_cases [] (trimRight seg') with hpre | ⟨heq, hsome, -⟩
    · exact absurd (List.prefix_nil.mp hpre) hne
    · refine ⟨trimRight seg', by rw [heq]; rfl, ?_⟩
      rintro ⟨c, hc, hspace⟩
      obtain ⟨cs, hcs⟩ := List.head?_eq_some_iff.mp hc
      obtain ⟨tail, htail⟩ := trimRight_isPrefixOf seg'
      refine hblank ⟨c, ?_, hspace⟩
      rw [← htail, hcs]
      rfl

end Names

/-! ## Directories that come back -/

section

variable {Blob : Type} {C : Codec Blob} {dir : Directory Blob}

/-- What it takes for a directory to come back from its archive. -/
structure Restorable (C : Codec Blob) (dir : Directory Blob) (archive : Blob) : Prop where
  /-- the files are at most 100 times the archive, and 64 MiB -/
  ratio : totalSize C dir.nodes ≤ C.blobSize archive * 100 + 64 * 2 ^ 20
  /-- and at most 32 GiB -/
  cap : totalSize C dir.nodes ≤ maxExtractedBytes
  /-- no path begins with a blank -/
  front : ∀ seg rest node, (seg :: rest, node) ∈ dir.nodes → ¬ BeginsBlank seg
  /-- no file ends with one -/
  files : ∀ init last content, (init ++ [last], .file content) ∈ dir.nodes → ¬ EndsBlank last
  /-- a directory that does is not empty -/
  dirs_used : ∀ init last, (init ++ [last], .dir) ∈ dir.nodes → EndsBlank last →
    ∃ node ∈ dir.nodes, init ++ [last] <+: node.1 ∧ node.1 ≠ init ++ [last]
  /-- and without its blanks leads to a directory as well -/
  dirs_trimmed : ∀ init last, (init ++ [last], .dir) ∈ dir.nodes → EndsBlank last →
    (followLast init (trimRight last), .dir) ∈ dir.nodes

/-- Where the entry of a path goes. -/
def targetPath (p : FilePath) : FilePath := followLast p.dropLast (trimRight (p.getLast?.getD []))

theorem targetPath_append (init : FilePath) (last : Segment) :
    targetPath (init ++ [last]) = followLast init (trimRight last) := by
  rw [targetPath, List.dropLast_concat, List.getLast?_concat]
  rfl

/-- Every path has a last segment. -/
theorem Directory.exists_last {node : FilePath × FileNode Blob} (h : node ∈ dir.nodes) :
    ∃ init last, node = (init ++ [last], node.2) ∧ (∀ seg ∈ init, FileName seg) ∧
      FileName last := by
  obtain ⟨p, node⟩ := node
  obtain hnil | ⟨init, last, hp⟩ := List.eq_nil_or_concat p
  · exact absurd hnil (dir.ne_nil _ h)
  rw [List.concat_eq_append] at hp
  subst hp
  have hnames := dir.named _ h
  exact ⟨init, last, rfl, fun seg hseg => hnames seg (List.mem_append_left _ hseg),
    hnames last (List.mem_append_right _ (List.mem_singleton_self _))⟩

theorem targetPath_of_not_endsBlank {init : FilePath} {last : Segment} (hlast : FileName last)
    (h : ¬ EndsBlank last) : targetPath (init ++ [last]) = init ++ [last] := by
  rw [targetPath_append, trimRight_of_not_endsBlank h, followLast_of_fileName hlast]

/-- What stands above a directory, or is it, are directories. -/
theorem Directory.tree_of_prefix {p q : FilePath} (h : (p, .dir) ∈ dir.nodes) (hq : q <+: p)
    (hnil : q ≠ []) : dir.tree q = some .dir := by
  rw [Directory.tree_eq_some_iff hnil]
  by_cases hne : q = p
  · rw [hne]
    exact h
  · exact Directory.dir_of_prefix h hq hne hnil

theorem emptyDir_within_tree : emptyDir.Within dir.tree := by
  intro q node hq
  by_cases hnil : q = []
  · rw [hnil, emptyDir, FileTree.set_self] at hq
    rw [hnil, Directory.tree_root, hq]
  · rw [emptyDir, FileTree.set_ne _ _ hnil] at hq
    exact nomatch hq

variable {node : FileNode Blob}

theorem front_joinSlash {init : FilePath} {last : Segment} (h : (init ++ [last], node) ∈ dir.nodes)
    (hfront : ∀ seg rest node, (seg :: rest, node) ∈ dir.nodes → ¬ BeginsBlank seg) :
    ¬ BeginsBlank (joinSlash (init ++ [last])) := by
  obtain ⟨seg, rest, hpath⟩ := List.exists_cons_of_ne_nil (dir.ne_nil _ h)
  dsimp only at hpath
  rw [hpath] at h ⊢
  rintro ⟨c, hc, hblank⟩
  rw [head?_joinSlash (dir.named _ h seg (List.mem_cons_self ..)).ne_nil] at hc
  exact hfront seg rest node h ⟨c, hc, hblank⟩

namespace Restorable

variable {archive : Blob}

variable (h : Restorable C dir archive)
include h

theorem target_mem {init : FilePath} {last : Segment}
    (hmem : (init ++ [last], .dir) ∈ dir.nodes) (hlast : FileName last) :
    (targetPath (init ++ [last]), .dir) ∈ dir.nodes := by
  by_cases hblank : EndsBlank last
  · rw [targetPath_append]
    exact h.dirs_trimmed init last hmem hblank
  · rw [targetPath_of_not_endsBlank hlast hblank]
    exact hmem

/-- The entries can all be put where they go. -/
theorem belongsTo {node : FilePath × FileNode Blob}
    (hnode : node ∈ dir.nodes) : dir.tree.BelongsTo (targetPath node.1) node.2 := by
  obtain ⟨init, last, heq, hinit, hlast⟩ := dir.exists_last hnode
  obtain ⟨p, node⟩ := node
  obtain ⟨rfl, -⟩ := Prod.mk.inj heq
  cases node with
  | dir =>
    have htarget := h.target_mem hnode hlast
    refine ⟨fun q hq => ?_, nofun⟩
    obtain ⟨hnil, hpre⟩ := FileTree.mem_ancestors_iff.mp hq
    exact dir.tree_of_prefix htarget hpre hnil
  | file content =>
    have htarget : targetPath (init ++ [last]) = init ++ [last] :=
      targetPath_of_not_endsBlank hlast (h.files init last content hnode)
    dsimp only
    rw [htarget]
    refine ⟨fun q hq => ?_, fun content' _ => ?_⟩
    · obtain ⟨hnil, hpre⟩ := FileTree.mem_ancestors_iff.mp hq
      have hne : q ≠ init ++ [last] := fun hq' =>
        FileTree.not_mem_ancestors_dropLast _ (hq' ▸ hq)
      rw [Directory.tree_eq_some_iff hnil]
      exact Directory.dir_of_prefix hnode (hpre.trans (List.dropLast_prefix _)) hne hnil
    · exact (Directory.tree_eq_some_iff (dir.ne_nil _ hnode)).mpr hnode

/-- At or below every directory there is an entry that keeps its path. -/
theorem exists_kept {q : FilePath} (hq : (q, .dir) ∈ dir.nodes) :
    ∃ node ∈ dir.nodes, q <+: node.1 ∧ targetPath node.1 = node.1 := by
  -- deeper and deeper, until no path is longer
  obtain ⟨bound, hbound⟩ : ∃ bound, ∀ node ∈ dir.nodes, node.1.length ≤ bound :=
    ⟨(dir.nodes.map fun node => node.1.length).max?.getD 0, fun node hnode =>
      List.le_max?_getD_of_mem (List.mem_map.mpr ⟨node, hnode, rfl⟩)⟩
  induction hk : bound - q.length using Nat.strong_induction_on generalizing q with
  | _ k ih =>
    obtain ⟨init, last, heq, -, hlast⟩ := dir.exists_last hq
    obtain ⟨rfl, -⟩ := Prod.mk.inj heq
    by_cases hblank : EndsBlank last
    · obtain ⟨⟨p, node⟩, hnode, hpre, hne⟩ := h.dirs_used init last hq hblank
      obtain ⟨init', last', heq', -, hlast'⟩ := dir.exists_last hnode
      obtain ⟨rfl, -⟩ := Prod.mk.inj heq'
      cases node with
      | file content =>
        exact ⟨_, hnode, hpre,
          targetPath_of_not_endsBlank hlast' (h.files init' last' content hnode)⟩
      | dir =>
        have hlonger : (init ++ [last]).length < (init' ++ [last']).length := by
          refine Nat.lt_of_le_of_ne hpre.length_le fun hlen => hne ?_
          exact (hpre.eq_of_length hlen).symm
        have hle := hbound _ hnode
        dsimp only at hle
        obtain ⟨node, hnode', hpre', hkept⟩ := ih _ (by omega) hnode rfl
        exact ⟨node, hnode', hpre.trans hpre', hkept⟩
    · exact ⟨_, hq, List.prefix_refl _, targetPath_of_not_endsBlank hlast hblank⟩

/-- Unpacking the archive gives the directory. -/
theorem putAll_eq_tree :
    emptyDir.putAll (dir.nodes.map fun node => (targetPath node.1, node.2)) = dir.tree := by
  apply FileTree.putAll_eq
  · intro placed hplaced
    obtain ⟨node, hnode, rfl⟩ := List.mem_map.mp hplaced
    exact h.belongsTo hnode
  · exact emptyDir_within_tree
  · intro q hq
    by_cases hnil : q = []
    · exact Or.inl (hnil ▸ FileTree.set_self _ _ _)
    · obtain ⟨⟨p, node⟩, hnode, hpre, hkept⟩ :=
        h.exists_kept ((Directory.tree_eq_some_iff hnil).mp hq)
      refine Or.inr ⟨_, List.mem_map.mpr ⟨_, hnode, rfl⟩, ?_⟩
      dsimp only at hkept ⊢
      rw [hkept]
      cases node with
      | dir => exact FileTree.mem_ancestors_iff.mpr ⟨hnil, hpre⟩
      | file content =>
        -- the directory is not the file itself
        have hne : q ≠ p := by
          rintro rfl
          exact nomatch Directory.node_unique hnode ((Directory.tree_eq_some_iff hnil).mp hq)
        exact FileTree.mem_ancestors_iff.mpr ⟨hnil, FileTree.prefix_dropLast hpre hne⟩
  · intro q content hq
    have hnil : q ≠ [] := by
      rintro rfl
      exact nomatch Directory.tree_root.symm.trans hq
    have hnode := (Directory.tree_eq_some_iff hnil).mp hq
    obtain ⟨init, last, heq, -, hlast⟩ := dir.exists_last hnode
    obtain ⟨rfl, -⟩ := Prod.mk.inj heq
    have htarget : targetPath (init ++ [last]) = init ++ [last] :=
      targetPath_of_not_endsBlank hlast (h.files init last content hnode)
    exact ⟨content, List.mem_map.mpr ⟨_, hnode, by rw [htarget]⟩⟩

theorem sanitized :
    Sanitized dir.nodes (dir.nodes.map fun node => (targetPath node.1, node.2)) := by
  rw [Sanitized, List.forall₂_map_right_iff, List.forall₂_same]
  intro node hnode
  refine ⟨?_, rfl⟩
  obtain ⟨init, last, heq, hinit, hlast⟩ := dir.exists_last hnode
  obtain ⟨p, node⟩ := node
  obtain ⟨rfl, -⟩ := Prod.mk.inj heq
  dsimp only
  rw [sanitizeArchivePath_joinSlash_iff hinit hlast (front_joinSlash hnode h.front)]
  refine ⟨targetPath_append init last, ?_⟩
  cases node with
  | dir => exact dir.ne_nil _ (h.target_mem hnode hlast)
  | file content =>
    rw [targetPath_of_not_endsBlank hlast (h.files init last content hnode)]
    exact dir.ne_nil _ hnode

end Restorable

/-! ## What a restore shows -/

/-- The entry at a sanitised path comes from a node. -/
theorem Sanitized.exists_node {nodes placed : List (FilePath × FileNode Blob)}
    (h : Sanitized nodes placed) {q : FilePath} (hq : (q, node) ∈ placed) :
    ∃ p, (p, node) ∈ nodes ∧ sanitizeArchivePath (joinSlash p) = .ok q := by
  induction h with
  | nil => exact nomatch hq
  | cons hhead _ ih =>
    rename_i first placed _ _
    rcases List.mem_cons.mp hq with rfl | hq
    · exact ⟨_, List.mem_cons.mpr (Or.inl (Prod.ext rfl hhead.2)), hhead.1⟩
    · obtain ⟨p, hp, hsan⟩ := ih hq
      exact ⟨p, List.mem_cons_of_mem _ hp, hsan⟩

/-- Every node has an entry at a sanitised path. -/
theorem Sanitized.exists_placed {nodes placed : List (FilePath × FileNode Blob)}
    (h : Sanitized nodes placed) {p : FilePath} (hp : (p, node) ∈ nodes) :
    ∃ q, (q, node) ∈ placed ∧ sanitizeArchivePath (joinSlash p) = .ok q := by
  induction h with
  | nil => exact nomatch hp
  | cons hhead _ ih =>
    rcases List.mem_cons.mp hp with rfl | hp
    · exact ⟨_, List.mem_cons.mpr (Or.inl (Prod.ext rfl hhead.2.symm)), hhead.1⟩
    · obtain ⟨q, hq, hsan⟩ := ih hp
      exact ⟨q, List.mem_cons_of_mem _ hq, hsan⟩

section Restored

variable {placed : List (FilePath × FileNode Blob)} (hsan : Sanitized dir.nodes placed)
  (hfit : emptyDir.AllFit placed) (hput : emptyDir.putAll placed = dir.tree)
include hsan hfit hput

variable {node : FileNode Blob}

/-- Whatever stands in the directory was put there for some node. -/
theorem exists_entry {q : FilePath} (hq : (q, node) ∈ dir.nodes) :
    ∃ p node' rel, (p, node') ∈ dir.nodes ∧ sanitizeArchivePath (joinSlash p) = .ok rel ∧
      q <+: rel := by
  have hnil := dir.ne_nil _ hq
  have htree : emptyDir.putAll placed q = some node := by
    rw [hput]
    exact (Directory.tree_eq_some_iff hnil).mpr hq
  have hempty : emptyDir q = (none : Option (FileNode Blob)) := FileTree.set_ne _ _ hnil
  cases node with
  | file content =>
    rcases FileTree.file_of_putAll htree with h | h
    · exact nomatch hempty.symm.trans h
    · obtain ⟨p, hp, hrel⟩ := hsan.exists_node h
      exact ⟨p, _, q, hp, hrel, List.prefix_refl _⟩
  | dir =>
    rcases (FileTree.putAll_eq_dir_iff hfit).mp htree with h | ⟨⟨rel, node'⟩, hplaced, h⟩
    · exact nomatch hempty.symm.trans h
    · obtain ⟨p, hp, hrel⟩ := hsan.exists_node hplaced
      refine ⟨p, node', rel, hp, hrel, ?_⟩
      cases node' with
      | dir => exact (FileTree.mem_ancestors_iff.mp h).2
      | file content =>
        exact (FileTree.mem_ancestors_iff.mp h).2.trans (List.dropLast_prefix _)

theorem restored_front (seg : Segment) (rest : FilePath) (node : FileNode Blob)
    (h : (seg :: rest, node) ∈ dir.nodes) : ¬ BeginsBlank seg := by
  -- the name at the top of a path is itself in the directory, and in the archive
  have htop {seg : Segment} {rest : FilePath} {node : FileNode Blob}
      (h : (seg :: rest, node) ∈ dir.nodes) : ∃ node', ([seg], node') ∈ dir.nodes := by
    by_cases hrest : rest = []
    · exact ⟨node, hrest ▸ h⟩
    · refine ⟨.dir, Directory.dir_of_prefix h ⟨rest, rfl⟩ (fun heq => hrest ?_) (by simp)⟩
      exact (List.cons.inj heq).2.symm
  obtain ⟨node', hseg⟩ := htop h
  obtain ⟨p, node'', rel, hp, hrel, hpre⟩ := exists_entry hsan hfit hput hseg
  obtain ⟨seg', rest', rfl⟩ := List.exists_cons_of_ne_nil (dir.ne_nil _ hp)
  obtain ⟨_, htop'⟩ := htop hp
  obtain ⟨top, -, hsantop⟩ := hsan.exists_placed htop'
  obtain ⟨first, hfirst, hblank⟩ := head_sanitizeArchivePath (dir.named _ hp) hsantop hrel
  obtain ⟨tail, rfl⟩ := hpre
  obtain rfl : seg = first := Option.some.inj hfirst
  exact hblank

/-- Where the entry of a node went. -/
theorem restored_target {init : FilePath} {last : Segment}
    (h : (init ++ [last], node) ∈ dir.nodes) {rel : FilePath}
    (hrel : sanitizeArchivePath (joinSlash (init ++ [last])) = .ok rel) :
    rel = followLast init (trimRight last) ∧ rel ≠ [] := by
  have hnames := dir.named _ h
  exact (sanitizeArchivePath_joinSlash_iff
    (fun seg hseg => hnames seg (List.mem_append_left _ hseg)) (hnames last (by simp))
    (front_joinSlash h (restored_front hsan hfit hput))).mp hrel

/-- An entry that went below a path that ends with a blank is below it in the directory. -/
theorem below_of_endsBlank {init : FilePath} {last : Segment} (hblank : EndsBlank last)
    {p rel : FilePath} (hp : (p, node) ∈ dir.nodes)
    (hrel : sanitizeArchivePath (joinSlash p) = .ok rel) (hpre : init ++ [last] <+: rel) :
    init ++ [last] <+: p ∧ p ≠ init ++ [last] := by
  obtain ⟨init', last', heq, -, -⟩ := dir.exists_last hp
  obtain ⟨rfl, -⟩ := Prod.mk.inj heq
  obtain ⟨rfl, -⟩ := restored_target hsan hfit hput hp hrel
  have hinit : init ++ [last] <+: init' := by
    rcases followLast_cases init' (trimRight last') with h | ⟨h, -, -⟩
    · exact hpre.trans h
    · rw [h] at hpre
      rcases List.prefix_concat_iff.mp hpre with heq | hpre
      · rw [(List.append_singleton_inj.mp heq).2] at hblank
        exact absurd hblank (not_endsBlank_trimRight last')
      · exact hpre
  refine ⟨hinit.trans (List.prefix_append _ _), fun heq => ?_⟩
  have hlen := hinit.length_le
  rw [← heq, List.length_append, List.length_singleton] at hlen
  omega

/-- A directory that came back was restorable. -/
theorem restorable_of_putAll {archive : Blob}
    (hsize : totalSize C dir.nodes ≤ extractLimit C archive) : Restorable C dir archive := by
  refine ⟨Nat.le_trans hsize (Nat.min_le_left _ _), Nat.le_trans hsize (Nat.min_le_right _ _),
    restored_front hsan hfit hput, ?_, ?_, ?_⟩
  · intro init last content hnode hblank
    obtain ⟨p, node', rel, hp, hrel, hpre⟩ := exists_entry hsan hfit hput hnode
    obtain ⟨hbelow, hne⟩ := below_of_endsBlank hsan hfit hput hblank hp hrel hpre
    have hdir := Directory.dir_of_prefix hp hbelow hne.symm (dir.ne_nil _ hnode)
    exact nomatch Directory.node_unique hnode hdir
  · intro init last hnode hblank
    obtain ⟨p, node', rel, hp, hrel, hpre⟩ := exists_entry hsan hfit hput hnode
    exact ⟨_, hp, below_of_endsBlank hsan hfit hput hblank hp hrel hpre⟩
  · intro init last hnode hblank
    obtain ⟨rel, hplaced, hrel⟩ := hsan.exists_placed hnode
    obtain ⟨rfl, hnil⟩ := restored_target hsan hfit hput hnode hrel
    rw [← Directory.tree_eq_some_iff hnil, ← hput, FileTree.putAll_eq_dir_iff hfit]
    exact Or.inr ⟨_, hplaced, FileTree.mem_ancestors_iff.mpr ⟨hnil, List.prefix_refl _⟩⟩

end Restored

/-! ## Backup and restore -/

theorem mapM_tarEntry_walk (C : Codec Blob) (directory : String) (dir : Directory Blob) :
    dir.walk.mapM (Backup.tarEntry C directory) = .ok (dir.nodes.map (tarNode C)) := by
  rw [Directory.walk]
  induction dir.nodes with
  | nil => rfl
  | cons node nodes ih =>
    obtain ⟨p, node⟩ := node
    rw [List.map_cons, List.mapM_cons, ih]
    cases node <;> rfl

/-- The writer takes every directory. -/
theorem writeTarGz_walk (C : Codec Blob) (directory : String) (dir : Directory Blob) :
    Backup.writeTarGz C directory dir.walk = .ok (C.pack (dir.nodes.map (tarNode C))) := by
  rw [Backup.writeTarGz, mapM_tarEntry_walk]

/-- The restore succeeds, and the AOF directory is the given one. -/
def Restores (C : Codec Blob) (dataDir archivePath : String) (archive : Blob) (d : FileTree Blob)
    (t : FileTree Blob) : Prop :=
  (∃ n, (extracted C dataDir archivePath archive d).1 = .ok ((), n)) ∧
    (extracted C dataDir archivePath archive d).2.below [defaultAOFDirectory] = t

theorem restores_iff_archiveTree (dataDir archivePath : String) (archive : Blob)
    (d t : FileTree Blob) :
    Restores C dataDir archivePath archive d t ↔ archiveTree C dataDir archive = .ok t := by
  cases h : archiveTree C dataDir archive with
  | error err =>
    obtain ⟨⟨err', hrun⟩, -⟩ := extracted_error C dataDir archivePath h d
    refine ⟨fun hrestores => ?_, fun h => (nomatch h)⟩
    obtain ⟨⟨n, hok⟩, -⟩ := hrestores
    exact nomatch hrun.symm.trans hok
  | ok t' =>
    obtain ⟨hok, htree⟩ := extracted_ok C dataDir archivePath h d
    refine ⟨fun hrestores => congrArg Except.ok (htree.symm.trans hrestores.2), fun ht => ?_⟩
    exact ⟨hok, htree.trans (Except.ok.inj ht)⟩

theorem archiveTree_eq_tree_iff (hC : C.Faithful) (dataDir : String)
    (hmanifest : ∃ node, ([defaultAOFManifest], node) ∈ dir.nodes) :
    archiveTree C dataDir (C.pack (dir.nodes.map (tarNode C))) = .ok dir.tree ↔
      Restorable C dir (C.pack (dir.nodes.map (tarNode C))) := by
  rw [archiveTree_pack_iff C dataDir hC]
  constructor
  · rintro ⟨placed, hsan, hfit, hsize, -, hput⟩
    exact restorable_of_putAll hsan hfit hput hsize
  · intro h
    have hput := h.putAll_eq_tree
    refine ⟨_, h.sanitized, ?_, Nat.le_min.mpr ⟨h.ratio, h.cap⟩, ?_, hput⟩
    · refine (FileTree.allFit_of_belongsTo (t := dir.tree) (fun placed hplaced => ?_) ?_).1
      · obtain ⟨node, hnode, rfl⟩ := List.mem_map.mp hplaced
        exact h.belongsTo hnode
      · exact emptyDir_within_tree
    · obtain ⟨node, hnode⟩ := hmanifest
      rw [hput, (Directory.tree_eq_some_iff (dir.ne_nil _ hnode)).mpr hnode]
      exact nofun

/-- An archive made of a directory with a manifest brings the directory back
    exactly if it does not expand too much and no name is changed by trimming. -/
theorem restored_iff (hC : C.Faithful) (dir : Directory Blob)
    (hmanifest : ∃ node, ([defaultAOFManifest], node) ∈ dir.nodes) {directory : String}
    {archive : Blob} (hwrite : Backup.writeTarGz C directory dir.walk = .ok archive)
    (dataDir archivePath : String) (d : FileTree Blob) :
    Restores C dataDir archivePath archive d dir.tree ↔ Restorable C dir archive := by
  obtain rfl : C.pack (dir.nodes.map (tarNode C)) = archive :=
    Except.ok.inj ((writeTarGz_walk C directory dir).symm.trans hwrite)
  rw [restores_iff_archiveTree, archiveTree_eq_tree_iff hC dataDir hmanifest]

end

/-! ### A codec that compresses a thousandfold -/

/-- Contents of which only the size matters, and archives. -/
inductive ZipBlob
  | bytes (size : Nat)
  | archive (size : Nat) (entries : List (List Char × TarKind × Nat × ZipBlob × Option String))

/-- The size in bytes. -/
def ZipBlob.size : ZipBlob → Nat
  | .bytes size => size
  | .archive size _ => size

/-- An archive has a thousandth of the size of what is in it. -/
def zipCodec : Codec ZipBlob where
  blobSize := ZipBlob.size
  blank := .bytes 0
  unpack
    | .bytes _ => .error "gzip: invalid header"
    | .archive _ entries => .ok (entries.map fun e =>
      ⟨e.1, e.2.1, max e.2.2.1 e.2.2.2.1.size, e.2.2.2.1, e.2.2.2.2, Nat.le_max_right _ _⟩, none)
  pack entries := .archive ((entries.map TarEntry.size).sum / 1000)
    (entries.map fun e => (e.name, e.kind, e.size, e.content, e.readError))

theorem zipCodec_faithful : zipCodec.Faithful := by
  intro (entries : List (TarEntry ZipBlob ZipBlob.size)) _
  have hentries : (entries.map fun e => (e.name, e.kind, e.size, e.content, e.readError)).map
      (fun e => (⟨e.1, e.2.1, max e.2.2.1 e.2.2.2.1.size, e.2.2.2.1, e.2.2.2.2,
        Nat.le_max_right _ _⟩ : TarEntry ZipBlob ZipBlob.size)) = entries := by
    rw [List.map_map]
    refine List.map_id'' (fun e => ?_) entries
    obtain ⟨name, kind, size, content, readError, hle⟩ := e
    simp only [Function.comp_apply, TarEntry.mk.injEq, true_and, and_true]
    exact Nat.max_eq_left hle
  exact congrArg (fun entries => Except.ok (entries, none)) hentries

/-- A directory with its manifest and one more file. -/
def aofDirectory (name : Segment) (hname : FileName name) (hne : name ≠ defaultAOFManifest)
    (size : Nat) : Directory ZipBlob where
  nodes := [([defaultAOFManifest], .file (.bytes 1)), ([name], .file (.bytes size))]
  ne_nil := by simp
  named := by
    have hmanifest : FileName defaultAOFManifest :=
      ⟨by decide, by decide, by decide, by decide⟩
    intro node hnode seg hseg
    simp only [List.mem_cons, List.not_mem_nil, or_false] at hnode
    rcases hnode with rfl | rfl
    · rw [List.mem_singleton.mp hseg]
      exact hmanifest
    · rw [List.mem_singleton.mp hseg]
      exact hname
  distinct := by simp [Ne.symm hne]
  closed := by
    intro p seg node hnode hp
    have hlen : (p ++ [seg]).length = 1 := by
      simp only [List.mem_cons, List.not_mem_nil, or_false, Prod.mk.injEq] at hnode
      rcases hnode with ⟨h, -⟩ | ⟨h, -⟩ <;> rw [h] <;> rfl
    rw [List.length_append, List.length_singleton] at hlen
    exact absurd (List.eq_nil_of_length_eq_zero (by omega)) hp

section

variable {name : Segment} {hname : FileName name} {hne : name ≠ defaultAOFManifest} {size : Nat}

theorem path_of_mem_aofDirectory {p : FilePath} {node : FileNode ZipBlob}
    (h : (p, node) ∈ (aofDirectory name hname hne size).nodes) :
    ∃ content, node = .file content ∧ (p = [defaultAOFManifest] ∨ p = [name]) := by
  simp only [aofDirectory, List.mem_cons, List.not_mem_nil, or_false, Prod.mk.injEq] at h
  rcases h with ⟨rfl, rfl⟩ | ⟨rfl, rfl⟩
  · exact ⟨_, rfl, Or.inl rfl⟩
  · exact ⟨_, rfl, Or.inr rfl⟩

theorem manifest_mem_aofDirectory :
    ∃ node, ([defaultAOFManifest], node) ∈ (aofDirectory name hname hne size).nodes :=
  ⟨_, List.mem_cons_self ..⟩

theorem totalSize_aofDirectory :
    totalSize zipCodec (aofDirectory name hname hne size).nodes = 1 + size := by
  simp [totalSize, aofDirectory, nodeSize, zipCodec, ZipBlob.size]

/-- What makes such a directory restorable. -/
theorem restorable_aofDirectory {archive : ZipBlob} (hfront : ¬ BeginsBlank name)
    (hlast : ¬ EndsBlank name) (hratio : 1 + size ≤ archive.size * 100 + 64 * 2 ^ 20)
    (hcap : 1 + size ≤ maxExtractedBytes) :
    Restorable zipCodec (aofDirectory name hname hne size) archive where
  ratio := Nat.le_trans (Nat.le_of_eq totalSize_aofDirectory) hratio
  cap := Nat.le_trans (Nat.le_of_eq totalSize_aofDirectory) hcap
  front := by
    intro seg rest node hnode
    obtain ⟨_, -, h | h⟩ := path_of_mem_aofDirectory hnode
    · obtain ⟨rfl, -⟩ := List.cons.inj h
      decide
    · obtain ⟨rfl, -⟩ := List.cons.inj h
      exact hfront
  files := by
    intro init last content hnode
    obtain ⟨_, -, h | h⟩ := path_of_mem_aofDirectory hnode
    · obtain rfl : last = defaultAOFManifest :=
        (List.append_singleton_inj.mp (h.trans (List.nil_append _).symm)).2
      decide
    · obtain rfl : last = name :=
        (List.append_singleton_inj.mp (h.trans (List.nil_append _).symm)).2
      exact hlast
  dirs_used := by
    intro init last hnode
    obtain ⟨_, hfile, -⟩ := path_of_mem_aofDirectory hnode
    exact nomatch hfile
  dirs_trimmed := by
    intro init last hnode
    obtain ⟨_, hfile, -⟩ := path_of_mem_aofDirectory hnode
    exact nomatch hfile

end

/-- The base file of a multi-part AOF, of the given size, beside its manifest. -/
def baseFileDirectory (size : Nat) : Directory ZipBlob :=
  aofDirectory "appendonly.aof.1.base.rdb".toList ⟨by decide, by decide, by decide, by decide⟩
    (by decide) size

/-- A file whose name ends with a blank, beside the manifest. -/
def blankFileDirectory : Directory ZipBlob :=
  aofDirectory "notes ".toList ⟨by decide, by decide, by decide, by decide⟩ (by decide) 1000

theorem restored_base_file : ∃ archive,
    Backup.writeTarGz zipCodec "/data/appendonlydir" (baseFileDirectory 1000).walk = .ok archive ∧
      Restores zipCodec "/data" "/data/archive.tar.gz" archive FileTree.empty
        (baseFileDirectory 1000).tree := by
  refine ⟨_, writeTarGz_walk _ _ _, ?_⟩
  refine (restored_iff zipCodec_faithful (baseFileDirectory 1000) manifest_mem_aofDirectory
    (writeTarGz_walk _ "/data/appendonlydir" _) _ _ _).mpr ?_
  exact restorable_aofDirectory (by decide) (by decide) (by decide) (by decide)

/-- The directory is backed up, but its archive does not bring it back. -/
def LostByBackup (dir : Directory ZipBlob) : Prop :=
  ∃ archive, Backup.writeTarGz zipCodec "/data/appendonlydir" dir.walk = .ok archive ∧
    ¬ Restores zipCodec "/data" "/data/archive.tar.gz" archive FileTree.empty dir.tree

theorem lostByBackup_of_not_restorable {dir : Directory ZipBlob}
    (hmanifest : ∃ node, ([defaultAOFManifest], node) ∈ dir.nodes)
    (h : ¬ Restorable zipCodec dir (zipCodec.pack (dir.nodes.map (tarNode zipCodec)))) :
    LostByBackup dir := by
  refine ⟨_, writeTarGz_walk _ _ _, fun hrestores => h ?_⟩
  rw [restores_iff_archiveTree] at hrestores
  exact (archiveTree_eq_tree_iff zipCodec_faithful _ hmanifest).mp hrestores

/-- 200 MiB that shrink to a thousandth exceed the limit of the archive's size,
    and a name that ends with a blank loses it. -/
theorem large_file_and_blank_lost :
    LostByBackup (baseFileDirectory (200 * 2 ^ 20)) ∧ LostByBackup blankFileDirectory := by
  constructor
  · refine lostByBackup_of_not_restorable manifest_mem_aofDirectory fun h => ?_
    have hratio := Nat.le_trans (Nat.le_of_eq totalSize_aofDirectory.symm) h.ratio
    exact absurd hratio (by decide)
  · refine lostByBackup_of_not_restorable manifest_mem_aofDirectory fun h => ?_
    have hnode : ([] ++ ["notes ".toList], .file (.bytes 1000)) ∈ blankFileDirectory.nodes :=
      List.mem_cons_of_mem _ (List.mem_cons_self ..)
    exact h.files _ _ _ hnode (by decide)

end RedisOperator.Restore
