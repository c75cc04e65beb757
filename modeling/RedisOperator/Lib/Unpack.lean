/-
  RedisOperator.Lib.Unpack

  Putting directories and files into a tree one after the other, as an unpacker
  does: a directory is made together with its parents, a file is written after
  the directory it is in was made.  `Fits` says when one node can be put,
  `AllFit` when a list of them can; `putAll_eq_dir_iff` and `file_of_putAll` say
  what the list leaves, and `putAll_eq` when that is a given tree.
-/

import RedisOperator.Lib.FileTree

namespace Lib.FileTree

variable {Blob : Type}

/-! ## Directories -/

variable {q : FilePath}

theorem mem_ancestors_iff {p : FilePath} : q ∈ ancestors p ↔ q ≠ [] ∧ q <+: p := by
  induction p generalizing q with
  | nil =>
    rw [List.prefix_nil]
    exact ⟨fun h => (nomatch h), fun h => absurd h.2 h.1⟩
  | cons seg p ih =>
    rw [ancestors, List.mem_cons, List.mem_map]
    cases q with
    | nil => simp
    | cons seg' q =>
      rw [List.cons_prefix_cons]
      constructor
      · rintro (h | ⟨r, hr, h⟩)
        · obtain ⟨rfl, rfl⟩ := List.cons.inj h
          exact ⟨List.cons_ne_nil _ _, rfl, List.nil_prefix⟩
        · obtain ⟨rfl, rfl⟩ := List.cons.inj h
          exact ⟨List.cons_ne_nil _ _, rfl, (ih.mp hr).2⟩
      · rintro ⟨-, rfl, hpre⟩
        by_cases hq : q = []
        · exact Or.inl (by rw [hq])
        · exact Or.inr ⟨q, ih.mpr ⟨hq, hpre⟩, rfl⟩

theorem prefix_dropLast {p : FilePath} (h : q <+: p) (hne : q ≠ p) : q <+: p.dropLast := by
  obtain rfl | ⟨init, last, rfl⟩ := List.eq_nil_or_concat p
  · exact absurd (List.prefix_nil.mp h) hne
  · rw [List.concat_eq_append] at h hne ⊢
    rw [List.dropLast_concat]
    exact (List.prefix_concat_iff.mp h).resolve_left hne

theorem not_mem_ancestors_dropLast (p : FilePath) : p ∉ ancestors p.dropLast := by
  intro h
  obtain ⟨hne, hpre⟩ := mem_ancestors_iff.mp h
  have hle := hpre.length_le
  have hpos := List.length_pos_iff.mpr hne
  rw [List.length_dropLast] at hle
  omega

/-- The tree with these directories. -/
def addDirs (d : FileTree Blob) (ps : List FilePath) : FileTree Blob :=
  fun q => if q ∈ ps then some .dir else d q

variable {ps : List FilePath}

theorem addDirs_of_mem (d : FileTree Blob) (h : q ∈ ps) : d.addDirs ps q = some .dir := if_pos h

theorem addDirs_of_not_mem (d : FileTree Blob) (h : q ∉ ps) : d.addDirs ps q = d q := if_neg h

/-- None of these paths is a file. -/
def NoFile (d : FileTree Blob) (ps : List FilePath) : Prop :=
  ∀ p ∈ ps, ∀ content, d p ≠ some (.file content)

theorem addDirs_cons (d : FileTree Blob) (p : FilePath) (ps : List FilePath) :
    d.addDirs (p :: ps) = (d.set p .dir).addDirs ps := by
  funext q
  by_cases hps : q ∈ ps
  · rw [addDirs_of_mem _ hps, addDirs_of_mem _ (List.mem_cons_of_mem _ hps)]
  · rw [addDirs_of_not_mem _ hps]
    by_cases hp : q = p
    · rw [hp, set_self, addDirs_of_mem _ (List.mem_cons_self ..)]
    · rw [set_ne _ _ hp, addDirs_of_not_mem]
      rw [List.mem_cons, not_or]
      exact ⟨hp, hps⟩

variable {d : FileTree Blob}

theorem set_dir_eq_self {p : FilePath} (h : d p = some .dir) : d.set p .dir = d := by
  funext q
  by_cases hp : q = p
  · rw [hp, set_self, h]
  · exact set_ne _ _ hp

theorem mkdirAll_of_noFile (h : d.NoFile ps) : d.mkdirAll ps = (.ok (), d.addDirs ps) := by
  induction ps generalizing d with
  | nil => rfl
  | cons p ps ih =>
    have hset : (d.set p .dir).NoFile ps := by
      intro q hq content
      by_cases hp : q = p
      · rw [hp, set_self]
        exact nofun
      · rw [set_ne _ _ hp]
        exact h q (List.mem_cons_of_mem _ hq) content
    rw [addDirs_cons, mkdirAll, mkdirStep]
    cases hd : d p with
    | none => exact ih hset
    | some node =>
      cases node with
      | file content => exact absurd hd (h p (List.mem_cons_self ..) content)
      | dir =>
        rw [set_dir_eq_self hd] at hset ⊢
        exact ih hset

theorem mkdirAll_of_file (h : ¬ d.NoFile ps) : ∃ err d', d.mkdirAll ps = (.error err, d') := by
  induction ps generalizing d with
  | nil => exact absurd (fun _ hp => nomatch hp) h
  | cons p ps ih =>
    rw [mkdirAll, mkdirStep]
    cases hd : d p with
    | none =>
      refine ih fun hrest => h fun q hq content hq' => ?_
      have hne : q ≠ p := by
        rintro rfl
        exact nomatch hd.symm.trans hq'
      refine hrest q ((List.mem_cons.mp hq).resolve_left hne) content ?_
      rw [set_ne _ _ hne]
      exact hq'
    | some node =>
      cases node with
      | file content => exact ⟨_, _, rfl⟩
      | dir =>
        refine ih fun hrest => h fun q hq content hq' => ?_
        have hne : q ≠ p := by
          rintro rfl
          exact nomatch hd.symm.trans hq'
        exact hrest q ((List.mem_cons.mp hq).resolve_left hne) content hq'

/-! ## One node -/

/-- The directories that a node at a path needs. -/
def dirsFor (p : FilePath) : FileNode Blob → List FilePath
  | .dir => ancestors p
  | .file _ => ancestors p.dropLast

/-- A node can be put at a path: no file is in the way, and a file does not
    take the place of a directory. -/
structure Fits (d : FileTree Blob) (p : FilePath) (node : FileNode Blob) : Prop where
  dirs : d.NoFile (dirsFor p node)
  place : ∀ content, node = .file content → d p ≠ some .dir

/-- Put a node at a path. -/
def put (d : FileTree Blob) (p : FilePath) : FileNode Blob → FileTree Blob
  | .dir => d.addDirs (ancestors p)
  | .file content => (d.addDirs (ancestors p.dropLast)).set p (.file content)

section

variable {d : FileTree Blob} {p q : FilePath} {node : FileNode Blob}

theorem put_eq_dir_iff (h : d.Fits p node) :
    d.put p node q = some .dir ↔ d q = some .dir ∨ q ∈ dirsFor p node := by
  have hadd (ps : List FilePath) : d.addDirs ps q = some .dir ↔ d q = some .dir ∨ q ∈ ps := by
    by_cases hq : q ∈ ps
    · simp only [addDirs_of_mem _ hq, hq, or_true]
    · simp only [addDirs_of_not_mem _ hq, hq, or_false]
  cases node with
  | dir => exact hadd _
  | file content =>
    by_cases hp : q = p
    · subst hp
      rw [put, set_self]
      refine ⟨fun h' => (nomatch h'), fun h' => ?_⟩
      exact h'.elim (fun h' => absurd h' (h.place content rfl))
        fun h' => absurd h' (not_mem_ancestors_dropLast q)
    · rw [put, set_ne _ _ hp]
      exact hadd _

theorem file_of_put {content : Blob} (h : d.put p node q = some (.file content)) :
    d q = some (.file content) ∨ (q = p ∧ node = .file content) := by
  have hadd {ps : List FilePath} (h : d.addDirs ps q = some (.file content)) :
      d q = some (.file content) := by
    by_cases hq : q ∈ ps
    · rw [addDirs_of_mem _ hq] at h
      exact nomatch h
    · rwa [addDirs_of_not_mem _ hq] at h
  cases node with
  | dir => exact Or.inl (hadd h)
  | file content' =>
    by_cases hp : q = p
    · rw [put, hp, set_self] at h
      exact Or.inr ⟨hp, Option.some.inj h⟩
    · rw [put, set_ne _ _ hp] at h
      exact Or.inl (hadd h)

/-- Nothing disappears. -/
theorem put_ne_none (h : d q ≠ none) : d.put p node q ≠ none := by
  have hadd (ps : List FilePath) : d.addDirs ps q ≠ none := by
    unfold addDirs
    split
    · exact nofun
    · exact h
  cases node with
  | dir => exact hadd _
  | file content =>
    by_cases hp : q = p
    · rw [put, hp, set_self]
      exact nofun
    · rw [put, set_ne _ _ hp]
      exact hadd _

end

/-! ## A list of nodes -/

/-- Put nodes one after the other. -/
def putAll (d : FileTree Blob) (nodes : List (FilePath × FileNode Blob)) : FileTree Blob :=
  nodes.foldl (fun d node => d.put node.1 node.2) d

/-- Each of them fits when its turn comes. -/
def AllFit : FileTree Blob → List (FilePath × FileNode Blob) → Prop
  | _, [] => True
  | d, (p, node) :: nodes => d.Fits p node ∧ (d.put p node).AllFit nodes

section

variable {d : FileTree Blob} {q : FilePath} {nodes : List (FilePath × FileNode Blob)}

theorem putAll_eq_dir_iff (h : d.AllFit nodes) :
    d.putAll nodes q = some .dir ↔
      d q = some .dir ∨ ∃ node ∈ nodes, q ∈ dirsFor node.1 node.2 := by
  induction nodes generalizing d with
  | nil =>
    change d q = some .dir ↔ _
    simp
  | cons node nodes ih =>
    change (d.put node.1 node.2).putAll nodes q = some .dir ↔ _
    rw [ih h.2, put_eq_dir_iff h.1, or_assoc]
    simp only [List.mem_cons, exists_eq_or_imp]

theorem file_of_putAll {content : Blob} (h : d.putAll nodes q = some (.file content)) :
    d q = some (.file content) ∨ (q, .file content) ∈ nodes := by
  induction nodes generalizing d with
  | nil => exact Or.inl h
  | cons node nodes ih =>
    rcases ih h with h' | h'
    · rcases file_of_put h' with h'' | ⟨rfl, hnode⟩
      · exact Or.inl h''
      · refine Or.inr (List.mem_cons.mpr (Or.inl ?_))
        rw [← hnode]
    · exact Or.inr (List.mem_cons_of_mem _ h')

theorem putAll_ne_none (h : d q ≠ none) : d.putAll nodes q ≠ none := by
  induction nodes generalizing d with
  | nil => exact h
  | cons node nodes ih => exact ih (put_ne_none h)

theorem putAll_file_ne_none {content : Blob} (h : (q, .file content) ∈ nodes) :
    d.putAll nodes q ≠ none := by
  induction nodes generalizing d with
  | nil => exact nomatch h
  | cons node nodes ih =>
    rcases List.mem_cons.mp h with rfl | h
    · refine putAll_ne_none (d := d.put q (.file content)) ?_
      rw [put, set_self]
      exact nofun
    · exact ih h

/-! ## Aiming at a tree -/

/-- Whatever is in one tree is in the other. -/
def Within (d t : FileTree Blob) : Prop := ∀ q node, d q = some node → t q = some node

/-- A node belongs to a tree with all the directories it needs. -/
structure BelongsTo (t : FileTree Blob) (p : FilePath) (node : FileNode Blob) : Prop where
  dirs : ∀ q ∈ dirsFor p node, t q = some .dir
  file : ∀ content, node = .file content → t p = some node

variable {t : FileTree Blob}

theorem fits_of_belongsTo {p : FilePath} {node : FileNode Blob}
    (h : t.BelongsTo p node) (hd : d.Within t) : d.Fits p node ∧ (d.put p node).Within t := by
  have hfits : d.Fits p node := by
    refine ⟨fun q hq content hfile => ?_, fun content hnode hdir => ?_⟩
    · exact nomatch (h.dirs q hq).symm.trans (hd q _ hfile)
    · subst hnode
      exact nomatch (h.file content rfl).symm.trans (hd p _ hdir)
  refine ⟨hfits, fun q node' hq => ?_⟩
  cases node' with
  | dir =>
    rcases (put_eq_dir_iff hfits).mp hq with hq | hq
    · exact hd q _ hq
    · exact h.dirs q hq
  | file content =>
    rcases file_of_put hq with hq | ⟨rfl, rfl⟩
    · exact hd q _ hq
    · exact h.file content rfl

theorem allFit_of_belongsTo (h : ∀ node ∈ nodes, t.BelongsTo node.1 node.2)
    (hd : d.Within t) : d.AllFit nodes ∧ (d.putAll nodes).Within t := by
  induction nodes generalizing d with
  | nil => exact ⟨trivial, hd⟩
  | cons node nodes ih =>
    obtain ⟨hfits, hput⟩ := fits_of_belongsTo (h node (List.mem_cons_self ..)) hd
    obtain ⟨hrest, hall⟩ := ih (fun node' hnode => h node' (List.mem_cons_of_mem _ hnode)) hput
    exact ⟨⟨hfits, hrest⟩, hall⟩

/-- The list leaves a given tree if its nodes belong to it and make up for what is missing. -/
theorem putAll_eq (h : ∀ node ∈ nodes, t.BelongsTo node.1 node.2) (hd : d.Within t)
    (hdirs : ∀ q, t q = some .dir → d q = some .dir ∨ ∃ node ∈ nodes, q ∈ dirsFor node.1 node.2)
    (hfiles : ∀ q content, t q = some (.file content) → ∃ content', (q, .file content') ∈ nodes) :
    d.putAll nodes = t := by
  obtain ⟨hfit, hwithin⟩ := allFit_of_belongsTo h hd
  funext q
  cases hq : t q with
  | none =>
    cases hput : d.putAll nodes q with
    | none => rfl
    | some node => exact nomatch hq.symm.trans (hwithin q node hput)
  | some node =>
    have hsome : d.putAll nodes q ≠ none := by
      cases node with
      | dir =>
        rw [(putAll_eq_dir_iff hfit).mpr (hdirs q hq)]
        exact nofun
      | file content =>
        obtain ⟨content', hmem⟩ := hfiles q content hq
        exact putAll_file_ne_none hmem
    obtain ⟨node', hput⟩ := Option.ne_none_iff_exists'.mp hsome
    rw [hput, ← hq]
    exact (hwithin q node' hput).symm

end

/-! ## Below a directory -/

section

variable {d : FileTree Blob} {seg : Segment} {q : FilePath} {node : FileNode Blob}

theorem cons_mem_ancestors_cons {r : FilePath} :
    seg :: r ∈ ancestors (seg :: q) ↔ r = [] ∨ r ∈ ancestors q := by
  rw [mem_ancestors_iff, mem_ancestors_iff, List.cons_prefix_cons]
  by_cases hr : r = []
  · simp [hr]
  · simp [hr]

theorem below_addDirs (hroot : d [seg] = some .dir) (q : FilePath) :
    (d.addDirs (ancestors (seg :: q))).below [seg] = (d.below [seg]).addDirs (ancestors q) := by
  funext r
  change d.addDirs (ancestors (seg :: q)) (seg :: r) = _
  by_cases hr : r ∈ ancestors q
  · rw [addDirs_of_mem _ hr, addDirs_of_mem _ (cons_mem_ancestors_cons.mpr (Or.inr hr))]
  · rw [addDirs_of_not_mem _ hr]
    by_cases hnil : r = []
    · rw [addDirs_of_mem _ (cons_mem_ancestors_cons.mpr (Or.inl hnil)), hnil]
      exact hroot.symm
    · rw [addDirs_of_not_mem]
      · rfl
      · exact fun h => (cons_mem_ancestors_cons.mp h).elim hnil hr

theorem noFile_below_iff (hroot : d [seg] = some .dir) :
    d.NoFile (ancestors (seg :: q)) ↔ (d.below [seg]).NoFile (ancestors q) := by
  constructor
  · intro h r hr
    exact h (seg :: r) (cons_mem_ancestors_cons.mpr (Or.inr hr))
  · intro h r hr content
    obtain ⟨hne, hpre⟩ := mem_ancestors_iff.mp hr
    obtain ⟨seg', r, rfl⟩ := List.exists_cons_of_ne_nil hne
    obtain rfl : seg' = seg := (List.cons_prefix_cons.mp hpre).1
    rcases cons_mem_ancestors_cons.mp hr with rfl | hr
    · rw [hroot]
      exact nofun
    · exact h r hr content

theorem fits_below_iff (hroot : d [seg] = some .dir) (hq : q ≠ []) :
    d.Fits (seg :: q) node ↔ (d.below [seg]).Fits q node := by
  have hdirs : d.NoFile (dirsFor (seg :: q) node) ↔ (d.below [seg]).NoFile (dirsFor q node) := by
    cases node with
    | dir => exact noFile_below_iff hroot
    | file content =>
      rw [dirsFor, List.dropLast_cons_of_ne_nil hq]
      exact noFile_below_iff hroot
  exact ⟨fun h => ⟨hdirs.mp h.dirs, h.place⟩, fun h => ⟨hdirs.mpr h.dirs, h.place⟩⟩

theorem below_put (hroot : d [seg] = some .dir) (hq : q ≠ []) :
    (d.put (seg :: q) node).below [seg] = (d.below [seg]).put q node := by
  cases node with
  | dir => exact below_addDirs hroot q
  | file content =>
    rw [put, List.dropLast_cons_of_ne_nil hq, put, ← below_addDirs hroot]
    exact below_set _ [seg] q _

theorem put_root (hq : q ≠ []) :
    d.put (seg :: q) node [seg] = some .dir := by
  cases node with
  | dir => exact addDirs_of_mem _ (cons_mem_ancestors_cons.mpr (Or.inl rfl))
  | file content =>
    have hne : [seg] ≠ seg :: q := fun h => hq (List.cons.inj h).2.symm
    rw [put, set_ne _ _ hne, List.dropLast_cons_of_ne_nil hq]
    exact addDirs_of_mem _ (cons_mem_ancestors_cons.mpr (Or.inl rfl))

end

end Lib.FileTree
