/-
  RedisOperator.Cluster.Simulation

  Passes one can compute.  `World.respond` answers every request by a function,
  in a way `Handles` allows, so a pass on concrete objects has a run that can be
  evaluated: its requests (`Prog.trace`) and the world it leaves behind
  (`Prog.run`).  The runs that show what a pass should not do are given this way.
-/

import RedisOperator.Cluster.Specs

namespace RedisOperator

open Lib

namespace World

/-- The answer to a request, and the world it leaves.  Deletions take effect at
    once, posts and sub-steps succeed, and Sentinel names nobody. -/
def answer (w : World) : (c : Cmd) → Reply c × World
  | .now => (w.clock, w)
  | .mapOrder => (MapOrder.stored, w)
  | .substep _ => (.ok (), w)
  | .getCluster => (.ok w.cluster, w)
  | .patchCluster before after optimisticLock =>
    if optimisticLock = true ∧ before ≠ w.cluster then
      (.error ⟨.conflict, "the object has been modified"⟩, w)
    else
      (.ok (mergeCluster before after w.cluster),
        { w with cluster := mergeCluster before after w.cluster })
  | .patchStatus before after =>
    let stored := { w.cluster with
      status := mergeStatus before.status after.status w.cluster.status }
    (.ok stored, { w with cluster := stored })
  | .listPods => (.ok w.pods, w)
  | .getPod name => (found "pods" name (w.findPod name), w)
  | .createPod pod =>
    match w.findPod pod.name with
    | some _ => (.error (alreadyThere "pods" pod.name), w)
    | none => (.ok (), { w with pods := w.pods ++ [pod] })
  | .patchPod before after =>
    match w.findPod before.name with
    | none => (found "pods" before.name none, w)
    | some _ =>
      (.ok (), { w with pods := w.pods.map fun pod =>
        if pod.name = before.name then
          { pod with labels := after.labels, controlled := after.controlled }
        else pod })
  | .deletePod name _ =>
    match w.findPod name with
    | none => (found "pods" name none, w)
    | some _ => (.ok (), { w with pods := w.pods.filter fun pod => pod.name != name })
  | .listPVCs => (.ok w.pvcs, w)
  | .getPVC name => (found "persistentvolumeclaims" name (w.findPVC name), w)
  | .createPVC pvc =>
    match w.findPVC pvc.name with
    | some _ => (.error (alreadyThere "persistentvolumeclaims" pvc.name), w)
    | none =>
      (.ok (), { w with
        pvcs := w.pvcs ++ [{ pvc with uid := w.nextUID }]
        nextUID := w.nextUID + 1 })
  | .patchPVC before after =>
    match w.findPVC before.name with
    | none => (found "persistentvolumeclaims" before.name none, w)
    | some _ =>
      (.ok (), { w with pvcs := w.pvcs.map fun pvc =>
        if pvc.name = before.name then { pvc with request := after.request } else pvc })
  | .deletePVC name =>
    match w.findPVC name with
    | none => (found "persistentvolumeclaims" name none, w)
    | some _ => (.ok (), { w with pvcs := w.pvcs.filter fun pvc => pvc.name != name })
  | .getStorageClass name => (found "storageclasses" name (w.storageClasses.lookup name), w)
  | .getBackup name => (found "redisbackups" name (w.backups.lookup name), w)
  | .getService name => (found "services" name (w.services.lookup name), w)
  | .createService service =>
    match w.services.lookup service.name with
    | some _ => (.error (alreadyThere "services" service.name), w)
    | none => (.ok (), { w with services := w.services.insert service.name service })
  | .patchService before after =>
    match w.services.lookup before.name with
    | none => (found "services" before.name none, w)
    | some _ => (.ok (), { w with services := w.services.insert before.name after })
  | .deleteService name =>
    match w.services.lookup name with
    | none => (found "services" name none, w)
    | some _ => (.ok (), { w with services := w.services.erase name })
  | .getStatus podIP =>
    (match w.answers podIP with
      | some response => .ok response
      | none => .error "no answer", w)
  | .post .. => (.ok (), w)
  | .querySentinelMaster _ => (.ok "", w)

theorem answers_answer (w : World) (c : Cmd) : Answers w c (w.answer c).1 (w.answer c).2 := by
  cases c with
  | patchCluster before after optimisticLock =>
    simp only [Answers, answer]
    split
    · exact ⟨⟨_, rfl⟩, rfl⟩
    · exact ⟨rfl, rfl⟩
  | createPod | patchPod | deletePod | createPVC | patchPVC | deletePVC | createService
  | patchService | deleteService =>
    simp only [Answers, answer]
    split <;> simp [*]
  | getStatus podIP =>
    simp only [Answers, answer]
    cases w.answers podIP with
    | none => exact ⟨⟨_, rfl⟩, trivial⟩
    | some response => exact ⟨rfl, trivial⟩
  | mapOrder => rfl
  | substep => rfl
  | post => rfl
  | querySentinelMaster => rfl
  | _ => exact ⟨rfl, rfl⟩

theorem handles_answer (faulty : Cmd → Prop) (w : World) (c : Cmd) :
    Handles faulty w c (w.answer c).1 (w.answer c).2 := Or.inl (w.answers_answer c)

end World

/-- A pass on `w` may leave `w'`, whether it fails or not. -/
def PassLeads (faulty : Cmd → Prop) (r : ClusterReconciler) (w w' : World) : Prop :=
  ∃ result, Prog.Returns (Handles faulty) (reconcile r w.cluster) w result w'

section

variable {faulty : Cmd → Prop} {P : World → Cmd → Prop} {α : Type} {x : Op α}
variable {l : RedisCluster} {w : World}

/-- The computed run of a pass is one of its runs. -/
theorem passLeads_answer (faulty : Cmd → Prop) (r : ClusterReconciler) (w : World) :
    PassLeads faulty r w (Act.run World.answer (reconcile r) w.cluster w).2 :=
  ⟨_, Prog.returns_run (World.handles_answer faulty) (reconcile r w.cluster) w⟩

/-- A computed run without an error is a run that returns. -/
theorem exists_returns_of_answer {p : Prog Cmd Reply (Except String (α × RedisCluster))}
    (h : (Prog.run World.answer p w).1.isOk = true) :
    ∃ done, Prog.Returns (Handles faulty) p w (.ok done) (Prog.run World.answer p w).2 := by
  have hreturns := Prog.returns_run (World.handles_answer faulty) p w
  cases hresult : (Prog.run World.answer p w).1 with
  | error message =>
    rw [hresult] at h
    cases h
  | ok done =>
    rw [hresult] at hreturns
    exact ⟨done, hreturns⟩

/-- A guard the computed run breaks is not kept. -/
theorem not_safe_of_answer {Q : Outcome α}
    (h : ∃ p ∈ Prog.trace World.answer (x l) w, ¬ P p.1 p.2) : ¬ Safe faulty P x Q l w := by
  obtain ⟨⟨w', c⟩, hmem, hbroken⟩ := h
  intro hsafe
  have hissues : Prog.Issues (Handles faulty) (x l) w w' c :=
    Prog.issues_of_mem_trace (World.handles_answer faulty) hmem
  exact hbroken (Prog.wp_issues hissues hsafe)

end

/-- A reconciler that needs no hash. -/
def anyTemplate : ClusterReconciler where
  objectNamespace := "default"
  computeSpecHash := fun _ => ""

end RedisOperator
