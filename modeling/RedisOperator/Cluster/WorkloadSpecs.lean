/-
  RedisOperator.Cluster.WorkloadSpecs

  What the storage and pod steps of a pass leave behind, and when they can
  return at all.  Storage work always can; the creation of pods cannot when a
  missing pod is to be restored from a backup that is not usable.
-/

import RedisOperator.Cluster.Footprints

namespace RedisOperator

open Lib

/-! ## Reads -/

/-- A request that writes nothing leaves the world as it is. -/
theorem handles_quiet {faulty : Cmd → Prop} {w w' : World} {c : Cmd} {r : Reply c} (hc : c.Quiet)
    (h : Handles faulty w c r w') : w' = w := by
  refine handles_effects (Q := (· = w)) h rfl ?_
  cases c with
  | patchCluster | patchStatus | createPod | patchPod | deletePod | createPVC | patchPVC
  | deletePVC | createService | patchService | deleteService | post => exact hc.elim
  | _ => simp [Cmd.effects]

section

variable {faulty : Cmd → Prop} {P : World → Cmd → Prop} {l : RedisCluster} {w : World} {α : Type}

/-- A guard met by every request of an action need not be looked at again. -/
theorem safe_guard {R : Cmd → Prop} {x : Op α} {Q : Outcome α}
    (hx : Act.Only R x) (hP : ∀ w c, R c → P w c)
    (h : Safe faulty (fun _ _ => True) x Q l w) : Safe faulty P x Q l w :=
  Act.wp_mono (Act.wp_and h (hx.wp (Handles faulty))) (fun w c hc => hP w c hc.2)
    (fun _ _ _ hq => hq.1) (fun _ _ _ => trivial)

/-- After a read the world is what it was. -/
theorem safe_read {c : Cmd} (hc : c.Quiet) {Q : Outcome (Reply c)}
    (hP : P w c) (hQ : ∀ r, Handles faulty w c r w → Q r l w) : Safe faulty P (ask c) Q l w := by
  refine safe_ask.mpr ⟨hP, fun r w' h => ?_⟩
  have hw := handles_quiet hc h
  subst hw
  exact hQ r h

theorem safe_ofApi_of {r : Api α} {Q : Outcome α}
    (h : ∀ a, r = .ok a → Q a l w) : Safe faulty P (ofApi r) Q l w := by
  cases r with
  | ok a => exact h a rfl
  | error err => trivial

theorem safe_ignoreNotFound_of {r : Api Unit} {Q : Outcome Unit}
    (h : Q () l w) : Safe faulty P (ignoreNotFound r) Q l w := by
  cases r with
  | ok a => exact h
  | error err =>
    show Safe faulty P (if err.reason = .notFound then pure () else Act.fail err.message) Q l w
    rw [safe_ite]
    exact ⟨fun _ => h, fun _ => trivial⟩

end

/-! ## Storage -/

/-- The world with other claims. -/
def World.withClaims (w : World) (pvcs : List PVC) (nextUID : Nat) : World :=
  { w with pvcs := pvcs, nextUID := nextUID }

/-- Only the claims differ. -/
def ClaimsChanged (l : RedisCluster) (w : World) (l' : RedisCluster) (w' : World) : Prop :=
  l' = l ∧ ∃ pvcs uid, w' = w.withClaims pvcs uid

theorem ClaimsChanged.refl (l : RedisCluster) (w : World) : ClaimsChanged l w l w :=
  ⟨rfl, w.pvcs, w.nextUID, rfl⟩

/-- Requests that write nothing but claims. -/
def Cmd.Claiming : Cmd → Prop
  | .createPVC _ | .patchPVC .. | .deletePVC _ => True
  | c => c.Quiet

theorem handles_claims {faulty : Cmd → Prop} {w w' : World} {c : Cmd} {r : Reply c}
    (hc : c.Claiming) (h : Handles faulty w c r w') : ∃ pvcs uid, w' = w.withClaims pvcs uid := by
  refine handles_effects (Q := fun w' => ∃ pvcs uid, w' = w.withClaims pvcs uid) h
    ⟨w.pvcs, w.nextUID, rfl⟩ ?_
  cases c with
  | patchCluster | patchStatus | createPod | patchPod | deletePod | createService | patchService
  | deleteService | post => exact hc.elim
  | createPVC pvc =>
    intro w' hw
    exact ⟨_, _, List.mem_singleton.mp hw⟩
  | patchPVC before after =>
    intro w' hw
    exact ⟨_, w.nextUID, List.mem_singleton.mp hw⟩
  | deletePVC name =>
    intro w' hw
    rcases List.mem_pair.mp hw with rfl | rfl <;> exact ⟨_, w.nextUID, rfl⟩
  | _ => simp [Cmd.effects]

section Storage

variable {faulty : Cmd → Prop} {l : RedisCluster} {w : World}

/-- Work on claims leaves everything else as it is. -/
theorem safe_claims {α : Type} {x : Op α} (hx : Act.KeepsLocal Cmd.Claiming x) :
    Safe faulty (fun _ _ => True) x (fun _ => ClaimsChanged l w) l w := by
  refine hx.wp (J := fun w' => ∃ pvcs uid, w' = w.withClaims pvcs uid) (fun _ _ _ _ => trivial)
    ?_ ⟨w.pvcs, w.nextUID, rfl⟩ (fun _ _ hclaims => ⟨rfl, hclaims⟩) fun _ _ _ => trivial
  rintro _ c r w' ⟨pvcs, uid, rfl⟩ hc hr
  obtain ⟨pvcs', uid', rfl⟩ := handles_claims hc hr
  exact ⟨pvcs', uid', rfl⟩

/-- What storage work leaves: other claims, and three fields of the status. -/
def StorageDone (l : RedisCluster) (w : World) (l' : RedisCluster) (w' : World) : Prop :=
  ∃ healthy dangling conditions pvcs uid,
    l' = { l with status := { l.status with
      healthyPVC := healthy, danglingPVC := dangling, conditions := conditions } } ∧
    w' = (w.store l').withClaims pvcs uid

theorem ClaimsChanged.done {l l' : RedisCluster} {w w' : World} (hl : l = w.cluster)
    (h : ClaimsChanged l w l' w') : StorageDone l w l' w' := by
  obtain ⟨rfl, pvcs, uid, rfl⟩ := h
  subst hl
  exact ⟨_, _, _, pvcs, uid, rfl, rfl⟩

theorem safe_reconcilePVCs (hl : l = w.cluster) :
    Safe faulty (fun _ _ => True) reconcilePVCs (fun _ => StorageDone l w) l w := by
  unfold reconcilePVCs
  rw [safe_bind, safe_get, safe_bind]
  have hloop : Safe faulty (fun _ _ => True)
      ((List.range l.spec.desiredDataInstances.toNat).foldlM (ensurePVC l) {})
      (fun _ => ClaimsChanged l w) l w :=
    safe_claims (.foldlM (local_ensurePVC (fun _ => trivial) (fun _ => trivial) (fun _ => trivial)
      (fun _ _ => trivial) l) {})
  refine safe_mono hloop ?_
  rintro progress _ _ ⟨rfl, pvcs, uid, rfl⟩
  rw [safe_bind, safe_wrap, safe_bind]
  refine safe_read (by trivial) trivial fun r _ => safe_ofApi_of fun claims _ => ?_
  rw [safe_bind, safe_wrap, safe_listClusterPods, safe_bind, safe_now, safe_bind, safe_wrap,
    safe_patchStatus (by rw [hl]; rfl)]
  exact ⟨trivial, trivial, trivial, _, _, _, pvcs, uid, rfl, rfl⟩

/-- Storage work touches claims and three fields of the status. -/
theorem safe_reconcileStorage (hl : l = w.cluster) (maintenanceReplace : Bool) :
    Safe faulty (fun _ _ => True) (reconcileStorage maintenanceReplace)
      (fun _ => StorageDone l w) l w := by
  unfold reconcileStorage
  rw [safe_bind, safe_get, safe_ite, safe_pure, safe_bind, safe_doWhen, safe_wrap]
  have hclaims : ∀ l' w', ClaimsChanged l w l' w' →
      Safe faulty (fun _ _ => True) (wrap "reconciling PVCs" reconcilePVCs)
        (fun _ => StorageDone l w) l' w' := by
    rintro _ _ ⟨rfl, pvcs, uid, rfl⟩
    rw [safe_wrap]
    refine safe_mono (safe_reconcilePVCs hl) ?_
    rintro _ _ _ ⟨healthy, dangling, conditions, pvcs', uid', rfl, rfl⟩
    exact ⟨_, _, _, pvcs', uid', rfl, rfl⟩
  exact ⟨fun _ => (ClaimsChanged.refl l w).done hl, fun _ =>
    ⟨fun _ => safe_mono (safe_claims (local_recyclePVCsForMissingPods trivial (fun _ => trivial)
      fun _ => trivial)) fun _ => hclaims, fun _ =>
      hclaims l w (.refl l w)⟩⟩

/-! ### Storage work can return -/

end Storage

/-! ## Pods -/

theorem World.findPod_eq_none {w : World} {name : String} :
    w.findPod name = none ↔ name ∉ w.pods.map Pod.name := by
  simp [World.findPod]

/-- The bootstrap backup exists and can be restored from. -/
def RestoreReady (r : ClusterReconciler) (cluster : RedisCluster)
    (backups : GoMap String RedisBackup) : Prop :=
  ∃ bootstrap backup, cluster.spec.bootstrap = some bootstrap ∧ bootstrap.backupName ≠ "" ∧
    backups.lookup bootstrap.backupName = some backup ∧
    bootstrapBackupError (r.objectNamespace ++ "/" ++ backup.name) backup = none

section Pods

variable {faulty : Cmd → Prop} {l : RedisCluster} {w : World} (r : ClusterReconciler)

/-- A restore container is only set up from a usable backup. -/
theorem safe_restoreContainer (cluster : RedisCluster) (podName : String) (index : Nat)
    (role : String) :
    Safe faulty (fun _ _ => True) (restoreContainer r cluster podName index role)
      (fun _ l' w' => l' = l ∧ w' = w ∧
        (shouldRestoreFromBackup cluster podName index role = false ∨
          RestoreReady r cluster w.backups)) l w := by
  unfold restoreContainer
  rw [safe_ite, safe_pure]
  refine ⟨fun h => ⟨rfl, rfl, Or.inl h⟩, fun _ => ?_⟩
  rw [safe_bind, safe_wrap]
  unfold getBootstrapBackup
  cases hb : cluster.spec.bootstrap with
  | none => trivial
  | some bootstrap =>
    show Safe faulty _ (if bootstrap.backupName = "" then _ else _) _ l w
    rw [safe_ite, safe_fail, safe_bind]
    refine ⟨fun _ => trivial, fun hname => ?_⟩
    refine safe_read (by trivial) trivial fun answer hans => safe_ofApi_of fun backup hok => ?_
    -- an answer with a value is the stored backup
    have hstored : w.backups.lookup bootstrap.backupName = some backup := by
      subst hok
      rcases hans with ⟨ha, -⟩ | ⟨-, ⟨message, hm⟩, -⟩
      · exact found_eq_ok.mp ha.symm
      · cases hm
    cases herr : bootstrapBackupError (r.objectNamespace ++ "/" ++ backup.name) backup with
    | some err => trivial
    | none => exact ⟨rfl, rfl, Or.inr ⟨bootstrap, backup, hb, hname, hstored, herr⟩⟩

end Pods

end RedisOperator
