/-
  RedisOperator.Lib.FileTree

  A file system below one directory: a map from relative paths to directories
  and regular files, and the calls of Go's `os` package that programs make on
  it.  File contents are of an arbitrary type.  Permissions are not part of a
  tree; `chmod` is a command nevertheless, so that it is visible which paths a
  program touches.
-/

import RedisOperator.Lib.GoPath
import RedisOperator.Lib.Prog

namespace Lib

/-- A path below the directory. -/
abbrev FilePath := List Segment

/-- What a path names. -/
inductive FileNode (Blob : Type)
  | dir
  | file (content : Blob)
  deriving DecidableEq

/-- The files and directories below a directory. -/
def FileTree (Blob : Type) : Type := FilePath → Option (FileNode Blob)

namespace FileTree

variable {Blob : Type}

/-- A fresh directory. -/
def empty : FileTree Blob := fun _ => none

/-- Create or replace one entry. -/
def set (d : FileTree Blob) (p : FilePath) (node : FileNode Blob) : FileTree Blob :=
  fun q => if q = p then some node else d q

/-- Remove a path and everything below it. -/
def removeAll (d : FileTree Blob) (p : FilePath) : FileTree Blob :=
  fun q => if p.isPrefixOf q then none else d q

/-- Move everything at and below `source` to `target`. -/
def rename (d : FileTree Blob) (source target : FilePath) : FileTree Blob :=
  fun q =>
    if target.isPrefixOf q then d (source ++ q.drop target.length)
    else if source.isPrefixOf q then none
    else d q

/-- The tree below a path, addressed relative to it. -/
def below (d : FileTree Blob) (p : FilePath) : FileTree Blob := fun q => d (p ++ q)

@[simp] theorem set_self (d : FileTree Blob) (p : FilePath) (node : FileNode Blob) :
    d.set p node p = some node := by simp [set]

theorem set_ne (d : FileTree Blob) {p q : FilePath} (node : FileNode Blob) (h : q ≠ p) :
    d.set p node q = d q := by simp [set, h]

theorem removeAll_inside (d : FileTree Blob) {p q : FilePath} (h : p <+: q) :
    d.removeAll p q = none := by simp [removeAll, List.isPrefixOf_iff_prefix, h]

theorem removeAll_outside (d : FileTree Blob) {p q : FilePath} (h : ¬ p <+: q) :
    d.removeAll p q = d q := by simp [removeAll, List.isPrefixOf_iff_prefix, h]

/-- What stood at the source stands at the target after a rename. -/
theorem below_rename (d : FileTree Blob) (source target : FilePath) :
    (d.rename source target).below target = d.below source := by
  funext q
  simp [rename, below, List.isPrefixOf_iff_prefix]

theorem set_set (d : FileTree Blob) (p : FilePath) (a b : FileNode Blob) :
    (d.set p a).set p b = d.set p b := by
  funext q
  by_cases h : q = p
  · rw [h, set_self, set_self]
  · rw [set_ne _ _ h, set_ne _ _ h, set_ne _ _ h]

theorem below_set (d : FileTree Blob) (root p : FilePath) (node : FileNode Blob) :
    (d.set (root ++ p) node).below root = (d.below root).set p node := by
  funext q
  simp [set, below]

/-- Paths below one name are not below another. -/
theorem not_prefix_of_head_ne {seg seg' : Segment} (h : seg ≠ seg') (q : FilePath) :
    ¬ [seg] <+: seg' :: q := by
  rw [List.cons_prefix_cons]
  exact fun hc => h hc.1

end FileTree

/-! ## Calls -/

/-- The calls a program makes on the file system. -/
inductive FileCmd (Blob : Type)
  | removeAll (p : FilePath)
  | mkdirAll (p : FilePath)
  | chmod (p : FilePath)
  | openTrunc (p : FilePath)
  | write (p : FilePath) (content : Blob)
  | close (p : FilePath)
  | stat (p : FilePath)
  | rename (source target : FilePath)

/-- The paths a call looks at or changes. -/
def FileCmd.paths {Blob : Type} : FileCmd Blob → List FilePath
  | .removeAll p | .mkdirAll p | .chmod p | .openTrunc p | .write p _ | .close p | .stat p => [p]
  | .rename source target => [source, target]

/-- Every call either succeeds or reports an error text. -/
abbrev FileResp (Blob : Type) (_ : FileCmd Blob) : Type := Except String Unit

namespace FileTree

variable {Blob : Type}

/-- The non-empty prefixes of a path, shortest first. -/
def ancestors : FilePath → List FilePath
  | [] => []
  | seg :: rest => [seg] :: (ancestors rest).map (seg :: ·)

/-- One component of `os.MkdirAll`. -/
def mkdirStep (d : FileTree Blob) (p : FilePath) : Except String (FileTree Blob) :=
  match d p with
  | some (.file _) => .error "not a directory"
  | some .dir => .ok d
  | none => .ok (d.set p .dir)

/-- `os.MkdirAll`: the error, if any, and the tree it leaves. -/
def mkdirAll (d : FileTree Blob) : List FilePath → Except String Unit × FileTree Blob
  | [] => (.ok (), d)
  | p :: ps =>
    match d.mkdirStep p with
    | .error err => (.error err, d)
    | .ok d' => d'.mkdirAll ps

/-- The entry is a directory. -/
def isDir : Option (FileNode Blob) → Bool
  | some .dir => true
  | _ => false

/-- The directory a path is in exists. -/
def parentExists (d : FileTree Blob) (p : FilePath) : Bool :=
  p.dropLast.isEmpty || isDir (d p.dropLast)

/-- A file system that fails only where the tree forces it to.  `blank` is the
    content of an empty file.  Renaming onto a directory is refused whether or
    not it is empty. -/
def step (blank : Blob) (d : FileTree Blob) :
    (c : FileCmd Blob) → FileResp Blob c × FileTree Blob
  | .removeAll p => (.ok (), d.removeAll p)
  | .mkdirAll p => d.mkdirAll (ancestors p)
  | .chmod p | .stat p =>
    match d p with
    | none => (.error "no such file or directory", d)
    | some _ => (.ok (), d)
  | .openTrunc p =>
    if d.parentExists p then
      match d p with
      | some .dir => (.error "is a directory", d)
      | _ => (.ok (), d.set p (.file blank))
    else (.error "no such file or directory", d)
  | .write p content => (.ok (), d.set p (.file content))
  | .close _ => (.ok (), d)
  | .rename source target =>
    match d source, d target with
    | none, _ => (.error "no such file or directory", d)
    | some _, some .dir => (.error "file exists", d)
    | some .dir, some (.file _) => (.error "not a directory", d)
    | some _, _ => (.ok (), d.rename source target)

/-! ## Calls that stay below one name -/

/-- Two trees with the same entries at and below a path. -/
def AgreeBelow (root : FilePath) (d e : FileTree Blob) : Prop := d.below root = e.below root

theorem AgreeBelow.apply {root p : FilePath} {d e : FileTree Blob} (h : AgreeBelow root d e)
    (hp : root <+: p) : d p = e p := by
  obtain ⟨q, rfl⟩ := hp
  exact congrFun h q

theorem AgreeBelow.set {root p : FilePath} {d e : FileTree Blob} (h : AgreeBelow root d e)
    (node : FileNode Blob) : AgreeBelow root (d.set p node) (e.set p node) := by
  funext q
  show (if root ++ q = p then _ else d (root ++ q)) = if root ++ q = p then _ else e (root ++ q)
  rw [h.apply (List.prefix_append root q)]

/-- Removing a path makes any two trees agree below it. -/
theorem agreeBelow_removeAll (d e : FileTree Blob) (root : FilePath) :
    AgreeBelow root (d.removeAll root) (e.removeAll root) := by
  funext q
  show d.removeAll root (root ++ q) = e.removeAll root (root ++ q)
  rw [removeAll_inside d (List.prefix_append root q),
    removeAll_inside e (List.prefix_append root q)]

end FileTree

/-- The call looks at and adds to what is at or below `seg` only; files are
    written strictly below it, and nothing is removed or moved. -/
def FileCmd.Inside {Blob : Type} (seg : Segment) : FileCmd Blob → Prop
  | .mkdirAll p | .chmod p | .close p | .stat p => [seg] <+: p
  | .openTrunc p | .write p _ => [seg] <+: p.dropLast
  | .removeAll _ | .rename _ _ => False

namespace FileTree

variable {Blob : Type} {seg : Segment}

theorem prefix_of_mem_ancestors {p q : FilePath} (hp : [seg] <+: p) (hq : q ∈ ancestors p) :
    [seg] <+: q := by
  obtain ⟨rest, rfl⟩ := hp
  rw [List.singleton_append, ancestors, List.mem_cons, List.mem_map] at hq
  obtain rfl | ⟨r, -, rfl⟩ := hq
  · exact List.prefix_refl _
  · exact ⟨r, rfl⟩

theorem mkdirAll_agree {ps : List FilePath} (hps : ∀ p ∈ ps, [seg] <+: p) {d e : FileTree Blob}
    (h : AgreeBelow [seg] d e) :
    (d.mkdirAll ps).1 = (e.mkdirAll ps).1 ∧
    AgreeBelow [seg] (d.mkdirAll ps).2 (e.mkdirAll ps).2 := by
  induction ps generalizing d e with
  | nil => exact ⟨rfl, h⟩
  | cons p ps ih =>
    have hrest := fun q hq => hps q (List.mem_cons_of_mem p hq)
    have hp : d p = e p := h.apply (hps p (List.mem_cons_self ..))
    unfold mkdirAll mkdirStep
    rw [hp]
    rcases e p with _ | (_ | content)
    · exact ih hrest (h.set _)
    · exact ih hrest h
    · exact ⟨rfl, h⟩

theorem mkdirAll_frame {ps : List FilePath} (hps : ∀ p ∈ ps, [seg] <+: p) (d : FileTree Blob)
    {q : FilePath} (hq : ¬ [seg] <+: q) : (d.mkdirAll ps).2 q = d q := by
  induction ps generalizing d with
  | nil => rfl
  | cons p ps ih =>
    have hrest := fun q hq => hps q (List.mem_cons_of_mem p hq)
    have hne : q ≠ p := fun hc => hq (hc ▸ hps p (List.mem_cons_self ..))
    unfold mkdirAll mkdirStep
    rcases d p with _ | (_ | content)
    · exact (ih hrest _).trans (set_ne d _ hne)
    · exact ih hrest d
    · rfl

/-- A call inside `seg` is answered from what is below `seg` only. -/
theorem step_agree (blank : Blob) {c : FileCmd Blob} (hc : c.Inside seg) (d e : FileTree Blob)
    (h : AgreeBelow [seg] d e) :
    (step blank d c).1 = (step blank e c).1 ∧
      AgreeBelow [seg] (step blank d c).2 (step blank e c).2 := by
  cases c with
  | removeAll p => exact hc.elim
  | mkdirAll p => exact mkdirAll_agree (fun q hq => prefix_of_mem_ancestors hc hq) h
  | write p content => exact ⟨rfl, h.set _⟩
  | close p => exact ⟨rfl, h⟩
  | rename source target => exact hc.elim
  | chmod p | stat p =>
    unfold step
    dsimp only
    rw [h.apply hc]
    cases e p <;> exact ⟨rfl, h⟩
  | openTrunc p =>
    have hpath : [seg] <+: p := hc.trans (List.dropLast_prefix p)
    have hparent : d.parentExists p = e.parentExists p := by
      unfold parentExists
      rw [h.apply hc]
    unfold step
    dsimp only
    rw [hparent, h.apply hpath]
    cases e.parentExists p with
    | false => exact ⟨rfl, h⟩
    | true =>
      rcases e p with _ | (_ | content)
      · exact ⟨rfl, h.set _⟩
      · exact ⟨rfl, h⟩
      · exact ⟨rfl, h.set _⟩

/-- A call inside `seg` leaves everything else alone. -/
theorem step_frame (blank : Blob) {c : FileCmd Blob} (hc : c.Inside seg) (d : FileTree Blob)
    {q : FilePath} (hq : ¬ [seg] <+: q) : (step blank d c).2 q = d q := by
  have hne : ∀ {p : FilePath}, [seg] <+: p → q ≠ p := fun hp heq => hq (heq ▸ hp)
  cases c with
  | removeAll p => exact hc.elim
  | mkdirAll p => exact mkdirAll_frame (fun r hr => prefix_of_mem_ancestors hc hr) d hq
  | write p content => exact set_ne d _ (hne (hc.trans (List.dropLast_prefix p)))
  | close p => rfl
  | rename source target => exact hc.elim
  | chmod p | stat p =>
    unfold step
    dsimp only
    cases d p <;> rfl
  | openTrunc p =>
    have hpath : [seg] <+: p := hc.trans (List.dropLast_prefix p)
    unfold step
    dsimp only
    split
    · split
      · rfl
      · exact set_ne d _ (hne hpath)
    · rfl

theorem mkdirAll_keeps_dir (ps : List FilePath) {d : FileTree Blob} {q : FilePath}
    (h : d q = some .dir) : (d.mkdirAll ps).2 q = some .dir := by
  induction ps generalizing d with
  | nil => exact h
  | cons p ps ih =>
    unfold mkdirAll mkdirStep
    rcases hp : d p with _ | (_ | content)
    · refine ih ((set_ne d _ ?_).trans h)
      rintro rfl
      rw [h] at hp
      cases hp
    · exact ih h
    · exact h

/-- A call inside `seg` leaves the directory `seg` in place. -/
theorem step_keeps_dir (blank : Blob) {c : FileCmd Blob} (hc : c.Inside seg) (d : FileTree Blob)
    (h : d [seg] = some .dir) : (step blank d c).2 [seg] = some .dir := by
  -- a file strictly below `seg` is not `seg` itself
  have hne : ∀ {p : FilePath}, [seg] <+: p.dropLast → [seg] ≠ p := by
    rintro p hp rfl
    exact absurd hp (by simp)
  cases c with
  | removeAll p => exact hc.elim
  | mkdirAll p => exact mkdirAll_keeps_dir _ h
  | write p content => exact (set_ne d _ (hne hc)).trans h
  | close p => exact h
  | rename source target => exact hc.elim
  | chmod p | stat p =>
    unfold step
    dsimp only
    cases d p <;> exact h
  | openTrunc p =>
    unfold step
    dsimp only
    split
    · split
      · exact h
      · exact (set_ne d _ (hne hc)).trans h
    · exact h

/-! ## Calls that stay away from one name -/

end FileTree

/-- No path of the call is at or below `seg`. -/
def FileCmd.Avoids {Blob : Type} (seg : Segment) (c : FileCmd Blob) : Prop :=
  ∀ p ∈ c.paths, p ≠ [] ∧ ¬ [seg] <+: p

namespace FileTree

variable {Blob : Type} {seg : Segment}

/-- Of two paths below different names, neither is above the other. -/
theorem not_prefix_below {p : FilePath} (hne : p ≠ []) (hp : ¬ [seg] <+: p) (q : FilePath) :
    ¬ p <+: seg :: q := by
  obtain ⟨head, rest, rfl⟩ := List.exists_cons_of_ne_nil hne
  rw [List.cons_prefix_cons]
  rintro ⟨rfl, -⟩
  exact hp ⟨rest, rfl⟩

theorem ancestors_avoid {p : FilePath} (hp : ¬ [seg] <+: p) {q : FilePath}
    (hq : q ∈ ancestors p) : ¬ [seg] <+: q := by
  cases p with
  | nil => cases hq
  | cons head rest =>
    rw [ancestors, List.mem_cons, List.mem_map] at hq
    have hne : seg ≠ head := fun hc => hp ⟨rest, by rw [hc]; rfl⟩
    obtain rfl | ⟨r, -, rfl⟩ := hq
    · exact not_prefix_of_head_ne hne []
    · exact not_prefix_of_head_ne hne r

theorem below_set_outside (d : FileTree Blob) {p : FilePath} (hp : ¬ [seg] <+: p)
    (node : FileNode Blob) : (d.set p node).below [seg] = d.below [seg] := by
  funext q
  refine set_ne d node ?_
  rintro rfl
  exact hp ⟨q, rfl⟩

theorem mkdirAll_avoids {ps : List FilePath} (hps : ∀ p ∈ ps, ¬ [seg] <+: p) (d : FileTree Blob) :
    (d.mkdirAll ps).2.below [seg] = d.below [seg] := by
  induction ps generalizing d with
  | nil => rfl
  | cons p ps ih =>
    have hrest := fun q hq => hps q (List.mem_cons_of_mem p hq)
    have hp := hps p (List.mem_cons_self ..)
    unfold mkdirAll mkdirStep
    rcases d p with _ | (_ | content)
    · exact (ih hrest _).trans (below_set_outside d hp _)
    · exact ih hrest d
    · rfl

/-- A call that avoids `seg` leaves what is below it alone. -/
theorem step_avoids (blank : Blob) {c : FileCmd Blob} (hc : c.Avoids seg) (d : FileTree Blob) :
    (step blank d c).2.below [seg] = d.below [seg] := by
  cases c with
  | removeAll p =>
    obtain ⟨hne, hp⟩ := hc p (List.mem_singleton_self p)
    funext q
    exact removeAll_outside d (not_prefix_below hne hp q)
  | mkdirAll p =>
    exact mkdirAll_avoids (fun q hq => ancestors_avoid (hc p (List.mem_singleton_self p)).2 hq) d
  | write p content => exact below_set_outside d (hc p (List.mem_singleton_self p)).2 _
  | close p => rfl
  | chmod p | stat p =>
    unfold step
    dsimp only
    cases d p <;> rfl
  | openTrunc p =>
    unfold step
    dsimp only
    split
    · split
      · rfl
      · exact below_set_outside d (hc p (List.mem_singleton_self p)).2 _
    · rfl
  | rename source target =>
    obtain ⟨hsne, hs⟩ := hc source (List.mem_cons_self ..)
    obtain ⟨htne, ht⟩ := hc target (List.mem_cons_of_mem _ (List.mem_singleton_self target))
    have hmove : (d.rename source target).below [seg] = d.below [seg] := by
      funext q
      have h1 := not_prefix_below htne ht q
      have h2 := not_prefix_below hsne hs q
      simp [FileTree.rename, below, List.isPrefixOf_iff_prefix, h1, h2]
    unfold step
    dsimp only
    split <;> first | rfl | exact hmove

end FileTree

end Lib
