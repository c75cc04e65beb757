/-
  RedisOperator.Restore.Confinement

  Where an extraction can reach.  Whatever an archive names, the path of an
  accepted entry, joined to the staging directory and cleaned as the source
  does it, is strictly below that directory; so is everything that is created,
  truncated or given permissions.
-/

import RedisOperator.Restore.Archive

namespace RedisOperator.Restore

open Lib Act

/-! ## Cleaned paths -/

/-- What `path.Clean` has written so far, last segment first: names on top of
    the `..` that lead out of a relative path. -/
structure Cleaned (rooted : Bool) (out : List Segment) : Prop where
  apart : ∃ names ups, out = names ++ ups ∧ (∀ seg ∈ names, FileName seg) ∧
    (∀ seg ∈ ups, seg = ['.', '.']) ∧ (rooted = true → ups = [])

theorem Cleaned.step {rooted : Bool} {out : List Segment} (h : Cleaned rooted out) {seg : Segment}
    (hseg : '/' ∉ seg) : Cleaned rooted (cleanStep rooted out seg) := by
  obtain ⟨names, ups, rfl, hnames, hups, hroot⟩ := h.apart
  unfold cleanStep
  split
  · exact h
  rename_i hsome
  rw [not_or] at hsome
  split
  · -- a name is taken back; without one, `..` stays
    rename_i hup
    cases names with
    | cons top names =>
      have htop := (hnames top (List.mem_cons_self ..)).ne_dotdot
      rw [List.cons_append]
      dsimp only
      rw [if_neg htop]
      exact ⟨names, ups, rfl, fun s hs => hnames s (List.mem_cons_of_mem _ hs), hups, hroot⟩
    | nil =>
      cases ups with
      | nil =>
        cases rooted with
        | true => exact ⟨[], [], rfl, hnames, hups, hroot⟩
        | false => exact ⟨[], [seg], rfl, hnames, by simpa using hup, fun hc => by cases hc⟩
      | cons top ups =>
        have htop := hups top (List.mem_cons_self ..)
        rw [List.nil_append]
        dsimp only
        rw [if_pos htop]
        refine ⟨[], seg :: top :: ups, rfl, hnames, ?_, fun hc => absurd (hroot hc) (by simp)⟩
        exact List.forall_mem_cons.mpr ⟨hup, hups⟩
  · rename_i hdots
    exact ⟨seg :: names, ups, rfl,
      List.forall_mem_cons.mpr ⟨⟨hsome.1, hseg, hsome.2, hdots⟩, hnames⟩, hups, hroot⟩

theorem Cleaned.mem {rooted : Bool} {out : List Segment} (h : Cleaned rooted out) {seg : Segment}
    (hseg : seg ∈ out) : '/' ∉ seg ∧ seg ≠ [] ∧ seg ≠ ['.'] := by
  obtain ⟨names, ups, rfl, hnames, hups, -⟩ := h.apart
  rcases List.mem_append.mp hseg with hseg | hseg
  · exact ⟨(hnames seg hseg).no_slash, (hnames seg hseg).ne_nil, (hnames seg hseg).ne_dot⟩
  · rw [hups seg hseg]
    decide

theorem not_mem_of_mem_splitSlash {cs : List Char} {seg : Segment} (h : seg ∈ splitSlash cs) :
    '/' ∉ seg := by
  induction cs generalizing seg with
  | nil =>
    rw [List.mem_singleton.mp h]
    exact List.not_mem_nil
  | cons c cs ih =>
    obtain ⟨first, segs, hsplit⟩ := List.exists_cons_of_ne_nil (splitSlash_ne_nil cs)
    rw [hsplit] at ih
    rw [splitSlash, hsplit] at h
    split at h
    · rcases List.mem_cons.mp h with rfl | h
      · exact List.not_mem_nil
      · exact ih h
    · rename_i hc
      rcases List.mem_cons.mp h with rfl | h
      · rw [List.mem_cons, not_or]
        exact ⟨Ne.symm hc, ih (List.mem_cons_self ..)⟩
      · exact ih (List.mem_cons_of_mem _ h)

/-- A cleaned path has all its `..` in front. -/
theorem cleaned_cleanPath (p : List Char) : Cleaned (cleanPath p).1 (cleanPath p).2.reverse := by
  unfold cleanPath
  dsimp only
  rw [List.reverse_reverse]
  refine List.foldlRecOn _ _ ⟨[], [], rfl, ?_⟩ fun out h seg hseg =>
    h.step (not_mem_of_mem_splitSlash hseg)
  exact ⟨by simp, by simp, fun _ => rfl⟩

/-- The path of an accepted entry consists of names. -/
theorem fileName_of_sanitized {entry : List Char} {rel : FilePath}
    (h : sanitizeArchivePath entry = .ok rel) : ∀ seg ∈ rel, FileName seg := by
  have hclean := cleaned_cleanPath (trimSpace entry)
  unfold sanitizeArchivePath at h
  split at h
  · cases h
  · cases h
  · rename_i seg segs heq
    split at h
    · cases h
    · rename_i hseg
      cases h
      rw [heq] at hclean
      obtain ⟨names, ups, hout, hnames, hups, -⟩ := hclean.apart
      -- the first segment is none of the `..`, which would come first
      have hnone : ups = [] := by
        obtain rfl | ⟨init, last, rfl⟩ := List.eq_nil_or_concat ups
        · rfl
        · have hlast : seg = last := by
            have := congrArg List.getLast? hout
            simpa using this
          exact absurd (hlast.trans (hups last (by simp))) hseg
      rw [hnone, List.append_nil] at hout
      intro s hs
      exact hnames s (hout ▸ List.mem_reverse.mpr hs)

/-- Names joined to a path end up below it. -/
theorem cleanPath_append {base : List Char} (hbase : base ≠ []) {rel : FilePath} (hne : rel ≠ [])
    (hrel : ∀ seg ∈ rel, FileName seg) :
    cleanPath (base ++ '/' :: joinSlash rel) = ((cleanPath base).1, (cleanPath base).2 ++ rel) := by
  obtain ⟨c, cs, rfl⟩ := List.exists_cons_of_ne_nil hbase
  unfold cleanPath
  dsimp only
  rw [splitSlash_append, splitSlash_joinSlash hne fun seg hseg => (hrel seg hseg).no_slash,
    List.foldl_append, foldl_cleanStep_fileName hrel]
  simp

/-! ## `sanitizeArchivePath` on texts -/

/-- The text of a cleaned path. -/
def cleanText : Bool × List Segment → List Char
  | (true, segs) => '/' :: joinSlash segs
  | (false, []) => ['.']
  | (false, seg :: segs) => joinSlash (seg :: segs)

/-- `sanitizeArchivePath`, with the extraction root and its last check.  Joining
    cleans the path already. -/
def sanitizeArchivePathIn (baseDir archiveEntry : List Char) : Except String (List Char) :=
  let cleanEntry := cleanText (cleanPath (trimSpace archiveEntry))
  let escapes := "archive entry " ++ quote archiveEntry ++ " escapes extraction root"
  if cleanEntry = ['.'] ∨ cleanEntry = [] then .error "archive contains empty path entry"
  else if ['/'] <+: cleanEntry ∨ cleanEntry = ['.', '.'] ∨ ['.', '.', '/'] <+: cleanEntry then
    .error escapes
  else
    let cleanBase := cleanText (cleanPath baseDir)
    let cleanTarget := cleanText (joinPath [baseDir, cleanEntry])
    if cleanTarget ≠ cleanBase ∧ ¬ cleanBase ++ ['/'] <+: cleanTarget then .error escapes
    else .ok cleanTarget

theorem cleanText_append {rooted : Bool} {base rel : List Segment} (hbase : base ≠ [])
    (hrel : rel ≠ []) :
    cleanText (rooted, base ++ rel) = cleanText (rooted, base) ++ '/' :: joinSlash rel := by
  have hjoin : joinSlash (base ++ rel) = joinSlash base ++ '/' :: joinSlash rel := by
    induction base with
    | nil => exact absurd rfl hbase
    | cons seg base ih =>
      cases base with
      | nil => exact joinSlash_cons hrel seg
      | cons seg' base =>
        have hne : seg' :: base ≠ [] := List.cons_ne_nil _ _
        rw [List.cons_append, joinSlash_cons (by simp), ih hne, joinSlash_cons hne,
          List.append_assoc]
        rfl
  obtain ⟨seg, segs, rfl⟩ := List.exists_cons_of_ne_nil hbase
  cases rooted with
  | true => exact congrArg ('/' :: ·) hjoin
  | false => exact hjoin

/-- Which checks the text of a cleaned relative path meets is seen in its first
    segment. -/
theorem cleanText_checks {seg : Segment} {segs : List Segment}
    (hsegs : ∀ s ∈ seg :: segs, '/' ∉ s) (hsome : seg ≠ [] ∧ seg ≠ ['.']) :
    ¬ (cleanText (false, seg :: segs) = ['.'] ∨ cleanText (false, seg :: segs) = []) ∧
      (['/'] <+: cleanText (false, seg :: segs) ∨ cleanText (false, seg :: segs) = ['.', '.'] ∨
        ['.', '.', '/'] <+: cleanText (false, seg :: segs) ↔ seg = ['.', '.']) := by
  have hsplit : splitSlash (cleanText (false, seg :: segs)) = seg :: segs :=
    splitSlash_joinSlash (by simp) hsegs
  have hfirst : ∀ {text : List Char} {first : Segment} {rest : List Segment},
      cleanText (false, seg :: segs) = text → splitSlash text = first :: rest → seg = first := by
    rintro _ first rest rfl hrest
    exact (List.cons.inj (hsplit.symm.trans hrest)).1
  refine ⟨?_, ?_, ?_⟩
  · rintro (h | h)
    · exact hsome.2 (hfirst h rfl)
    · exact hsome.1 (hfirst h rfl)
  · rintro (⟨rest, h⟩ | h | ⟨rest, h⟩)
    · exact absurd (hfirst h.symm (splitSlash_append [] rest)) hsome.1
    · exact hfirst h rfl
    · exact hfirst h.symm (splitSlash_append ['.', '.'] rest)
  · rintro rfl
    cases segs with
    | nil => exact Or.inr (Or.inl rfl)
    | cons seg segs => exact Or.inr (Or.inr ⟨joinSlash (seg :: segs), rfl⟩)

/-- On every root that has a name, the text function accepts the same entries and
    leads to the same path below the root. -/
theorem sanitizeArchivePathIn_eq {base : List Char} (hbase : (cleanPath base).2 ≠ [])
    (entry : List Char) : sanitizeArchivePathIn base entry =
      (sanitizeArchivePath entry).map fun rel =>
        cleanText (cleanPath base) ++ '/' :: joinSlash rel := by
  have hne : base ≠ [] := by
    rintro rfl
    exact hbase rfl
  have hclean := cleaned_cleanPath (trimSpace entry)
  have hnames : ∀ rel, sanitizeArchivePath entry = .ok rel → ∀ seg ∈ rel, FileName seg :=
    fun _ => fileName_of_sanitized
  unfold sanitizeArchivePathIn
  unfold sanitizeArchivePath at hnames ⊢
  generalize cleanPath (trimSpace entry) = cleaned at hclean hnames ⊢
  obtain ⟨rooted | rooted, segs⟩ := cleaned
  · cases segs with
    | nil => rfl
    | cons seg segs =>
      have hparts : ∀ s ∈ seg :: segs, '/' ∉ s ∧ s ≠ [] ∧ s ≠ ['.'] :=
        fun s hs => hclean.mem (List.mem_reverse.mpr hs)
      obtain ⟨hsome, hescapes⟩ := cleanText_checks (fun s hs => (hparts s hs).1)
        (hparts seg (List.mem_cons_self ..)).2
      dsimp only at hnames ⊢
      rw [if_neg hsome]
      by_cases hup : seg = ['.', '.']
      · rw [if_pos (hescapes.mpr hup), if_pos hup]
        rfl
      · rw [if_neg (mt hescapes.mp hup), if_neg hup]
        rw [if_neg hup] at hnames
        have htarget : cleanText (joinPath [base, cleanText (false, seg :: segs)]) =
            cleanText (cleanPath base) ++ '/' :: joinSlash (seg :: segs) := by
          have hjoin : joinPath [base, cleanText (false, seg :: segs)] =
              cleanPath (base ++ '/' :: joinSlash (seg :: segs)) := by
            simp [joinPath, hne, joinSlash, cleanText]
          rw [hjoin, cleanPath_append hne (by simp) (hnames _ rfl),
            cleanText_append hbase (by simp)]
        rw [htarget, if_neg fun h => h.2 ⟨joinSlash (seg :: segs), by simp⟩]
        rfl
  · simp [cleanText, Except.map]

/-! ## The calls of an extraction -/

/-- `stagingDir`. -/
def stagingPath (dataDir : List Char) : List Char :=
  cleanText (joinPath [dataDir, defaultAOFDirectory]) ++ ".restore-tmp".toList

/-- A name at the end of a path is never cleaned away. -/
theorem cleanPath_stagingPath_ne_nil (dataDir : List Char) :
    (cleanPath (stagingPath dataDir)).2 ≠ [] := by
  have hlast : ∀ cs, (cleanPath (cs ++ '/' :: stagingDirectory)).2 ≠ [] := by
    intro cs hnil
    have hname : FileName stagingDirectory := ⟨by decide, by decide, by decide, by decide⟩
    have hget := getLast?_cleanPath hname cs
    rw [hnil] at hget
    cases hget
  have haof : ∀ seg ∈ [defaultAOFDirectory], FileName seg := by
    simp only [List.forall_mem_singleton]
    exact ⟨by decide, by decide, by decide, by decide⟩
  cases dataDir with
  | nil => decide
  | cons c cs =>
    have hjoin : joinPath [c :: cs, defaultAOFDirectory] =
        cleanPath ((c :: cs) ++ '/' :: joinSlash [defaultAOFDirectory]) := rfl
    rw [stagingPath, hjoin, cleanPath_append (by simp) (by simp) haof]
    by_cases hroot : (cleanPath (c :: cs)).2 = []
    · rw [hroot]
      cases (cleanPath (c :: cs)).1 <;> decide
    · rw [cleanText_append hroot (by simp), List.append_assoc]
      exact hlast _

/-- What the call creates, truncates or gives permissions is at or below `seg`. -/
def MakesInside {Blob : Type} (seg : Segment) : FileCmd Blob → Prop
  | .mkdirAll p | .chmod p | .openTrunc p | .write p _ => [seg] <+: p
  | .removeAll _ | .close _ | .stat _ | .rename _ _ => True

variable {Blob : Type} (C : Codec Blob) (dataDir : String)

theorem cleaningUp_only {P : FileCmd Blob → Prop} {x : Extract Blob Unit} (hx : Only P x)
    (hremove : P (.removeAll [stagingDirectory])) : Only P (cleaningUp x) := by
  refine Only.bind (fun l => Prog.Only.bind (hx l) ?_) ?_
  · rintro (err | ⟨_, l'⟩) <;> trivial
  · rintro (err | _)
    · exact Only.bind (.request hremove) fun _ => .fail _
    · exact .pure _

/-- **Extraction does not escape.**  Every call that creates, truncates or
    changes permissions stays in the staging directory; and the paths these
    calls use are the ones the source computes, for every data directory, of
    proper names only. -/
theorem extractTarGz_confined (archivePath : String) (archive : Blob) :
    Act.Only (MakesInside stagingDirectory) (extractTarGz C dataDir archivePath archive) ∧
      ∀ entry : List Char, sanitizeArchivePathIn (stagingPath dataDir.toList) entry =
        ((sanitizeArchivePath entry).map fun rel =>
          cleanText (cleanPath (stagingPath dataDir.toList)) ++ '/' :: joinSlash rel) ∧
        ∀ rel, sanitizeArchivePath entry = .ok rel → ∀ seg ∈ rel, FileName seg := by
  refine ⟨?_, fun entry => ⟨sanitizeArchivePathIn_eq (cleanPath_stagingPath_ne_nil _) entry,
    fun _ => fileName_of_sanitized⟩⟩
  have hroot : [stagingDirectory] <+: [stagingDirectory] := List.prefix_refl _
  have hinside : ∀ c : FileCmd Blob, c.Inside stagingDirectory →
      MakesInside stagingDirectory c := by
    intro c hc
    cases c with
    | openTrunc p | write p content => exact List.IsPrefix.trans hc (List.dropLast_prefix p)
    | mkdirAll p | chmod p => exact hc
    | removeAll p | close p | stat p | rename p q => trivial
  unfold extractTarGz
  split
  · exact Act.Only.fail _
  · refine Act.Only.bind ?_ fun _ => cleaningUp_only ?_ trivial
    · refine Act.Only.bind (call_only trivial _) fun _ => ?_
      exact Act.Only.bind (call_only hroot _) fun _ => call_only hroot _
    · refine Act.Only.bind ((fillStaging_only C dataDir _ _ _).mono hinside) fun _ => ?_
      exact Act.Only.bind (call_only trivial _) fun _ => call_only trivial _

end RedisOperator.Restore
