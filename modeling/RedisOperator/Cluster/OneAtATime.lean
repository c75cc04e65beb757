/-
  RedisOperator.Cluster.OneAtATime

  Whether a pass takes a pod down while another one is down already.  The
  rolling update itself looks at template hashes only; what should keep it
  from going on too early is the reachability check, which counts polled pods.
  The check does its work in a pass that polled every expected pod, and it is
  not needed in a pass with nothing to update.
-/

import RedisOperator.Cluster.FenceProtocol
import RedisOperator.Cluster.PrimaryProtection
import RedisOperator.Cluster.Simulation
import RedisOperator.Cluster.WorkloadCourse

namespace RedisOperator

open Lib Act

/-! ## Pods that are up -/

/-- Every expected pod but `target` exists, and every data pod but `target` is ready. -/
def OthersUp (names : List String) (target : String) (w : World) : Prop :=
  (∀ name ∈ names, name ≠ target → name ∈ w.pods.map Pod.name) ∧
    ∀ pod ∈ w.pods, Belongs names pod → pod.name ≠ target → isPodRunningAndReady pod = true

instance (names : List String) (target : String) (w : World) :
    Decidable (OthersUp names target w) := inferInstanceAs (Decidable (_ ∧ _))

/-- A pod is deleted for an update or a resize, or fenced outside a handover,
    only while the others are up. -/
def OneDown (names : List String) (w : World) : Cmd → Prop
  | .deletePod target .rollingUpdate | .deletePod target .resizeRestart => OthersUp names target w
  | .patchCluster before after false =>
    ∀ target ∈ getFencedPods after, target ∉ getFencedPods before → OthersUp names target w
  | _ => True

/-- All expected pods exist, and all data pods are ready. -/
def AllUp (names : List String) (w : World) : Prop :=
  PodsMeet (fun pod => isPodRunningAndReady pod = true) names names w

theorem AllUp.others {names : List String} {w : World} (h : AllUp names w) (target : String) :
    OthersUp names target w :=
  ⟨fun name hname _ => h.present name hname, fun pod hpod hbelongs _ => h.meet pod hpod hbelongs⟩

/-- While all pods are up anything may be done. -/
theorem AllUp.oneDown {names : List String} {w : World} (h : AllUp names w) (c : Cmd) :
    OneDown names w c := by
  cases c with
  | deletePod target reason => cases reason <;> first | exact h.others target | exact trivial
  | patchCluster before after optimisticLock =>
    cases optimisticLock with
    | false => exact fun target _ _ => h.others target
    | true => trivial
  | _ => trivial

/-- Requests that neither delete a pod nor patch the object take nothing down. -/
theorem oneDown_of_mild (names : List String) {w : World} {c : Cmd}
    (hdelete : ∀ name reason, c ≠ .deletePod name reason)
    (hpatch : ∀ before after, c ≠ .patchCluster before after false) : OneDown names w c := by
  cases c with
  | deletePod name reason => exact absurd rfl (hdelete name reason)
  | patchCluster before after optimisticLock =>
    cases optimisticLock with
    | false => exact absurd rfl (hpatch before after)
    | true => trivial
  | _ => trivial

theorem oneDown_shaping (names : List String) (w : World) (c : Cmd) (hc : c.Shaping) :
    OneDown names w c := by
  refine oneDown_of_mild names ?_ ?_ <;> rintro _ _ rfl
  · exact hc
  · exact absurd hc Bool.false_ne_true

theorem oneDown_workGuard (names : List String) : WorkGuard (OneDown names) where
  quiet w c hc := by
    refine oneDown_of_mild names ?_ ?_ <;> rintro _ _ rfl <;> exact hc
  patchStatus _ _ _ := trivial
  hibernation _ _ := trivial
  patchService _ _ _ := trivial
  patchSpec w before after hsame target hafter hbefore := by
    have hfences : getFencedPods after = getFencedPods before := by
      unfold getFencedPods
      rw [hsame]
    exact absurd (hfences ▸ hafter) hbefore
  storing w c hc := by
    refine oneDown_of_mild names ?_ ?_ <;> rintro _ _ rfl <;> exact hc
  creating w c hc := by
    refine oneDown_of_mild names ?_ ?_ <;> rintro _ _ rfl <;> exact hc
  scaleDown _ _ := trivial

section

variable {faulty : Cmd → Prop} {l : RedisCluster} {w : World} {names : List String}
variable {r : ClusterReconciler}

/-! ## Moves while all pods are up -/

/-- A move of the primary role does not touch the pods. -/
theorem handles_handing {c : Cmd} {answer : Reply c} {w' : World} (hc : c.Handing)
    (h : Handles faulty w c answer w') : w'.pods = w.pods := by
  rcases handles_cases h with rfl | ⟨answer, ha⟩
  · rfl
  cases c with
  | patchCluster before after optimisticLock =>
    simp only [Answers] at ha
    split at ha <;> rw [ha.2]
  | patchStatus before after => rw [ha.2]
  | patchService before after =>
    cases hsvc : w.services.lookup before.name <;> simp only [Answers, hsvc] at ha <;> rw [ha.2]
  | post podIP request => rw [show w' = w from ha]
  | deletePod => exact hc.elim
  | createPod => exact hc.elim
  | patchPod => exact hc.elim
  | createPVC => exact hc.elim
  | patchPVC => exact hc.elim
  | deletePVC => exact hc.elim
  | createService => exact hc.elim
  | deleteService => exact hc.elim
  | mapOrder => rw [show w' = w from ha]
  | substep => rw [show w' = w from ha]
  | querySentinelMaster => rw [show w' = w from ha]
  | _ => rw [ha.2]

theorem safe_handing {α : Type} {x : Op α} (hx : Only Cmd.Handing x) (h : AllUp names w) :
    Safe faulty (OneDown names) x (fun _ _ w' => AllUp names w') l w := by
  have hkeeps : wp (Handles faulty) (fun w _ => AllUp names w) x (fun _ _ w' => AllUp names w')
      (fun _ w' => AllUp names w') l w := by
    refine wp_invariant ?_ (hx.wp (Handles faulty)) h
    intro w c r w' hup hc hw
    have hpods := handles_handing hc hw
    exact ⟨hpods ▸ hup.present, hpods ▸ hup.meet⟩
  exact wp_mono hkeeps (fun _ c hup => hup.oneDown c) (fun _ _ _ hup => hup)
    fun _ _ _ => trivial

/-- The approval is consumed without a new fence. -/
theorem safe_consumeApproval (supervised : Bool) :
    Safe faulty (OneDown names) (consumeApproval supervised) (fun _ _ _ => True) l w := by
  -- what follows the patch of the annotations writes the status only
  have honly : Only (fun c => ∀ w, OneDown names w c)
      (Act.get >>= fun current : RedisCluster => now >>= fun time =>
        wrap "patching status after approval" (patchStatus
          { current.status with
            phase := if current.status.phase = .waitingForUser then .updating
              else current.status.phase
            conditions := setCondition current.status.conditions
              (primaryUpdateCondition false time) })) :=
    Only.get.bind fun _ => (only_now fun _ => trivial).bind fun _ =>
      only_wrap (only_patchStatus fun _ _ _ => trivial)
  have hrest := fun l w =>
    (safe_of_only honly (fun w c hc => hc w) : Safe faulty (OneDown names) _ _ l w)
  unfold consumeApproval clearPrimaryUpdateApproval
  rw [safe_doWhen, safe_wrap, safe_bind, safe_get, safe_bind, safe_doWhen, safe_wrap]
  refine ⟨fun _ => ⟨fun _ => ?_, fun _ => hrest l w⟩, fun _ => trivial⟩
  exact wp_patchCluster_request (fun w target hafter hbefore => absurd hafter hbefore) hrest

theorem safe_updatePrimary (h : AllUp names w) (primary : Pod) (replicas : List Pod) :
    Safe faulty (OneDown names) (updatePrimary primary replicas) (fun _ _ _ => True) l w := by
  have hconsume : ∀ (supervised : Bool) l w, Safe faulty (OneDown names)
      (consumeApproval supervised >>= fun _ => (pure true : Op Bool)) (fun _ _ _ => True) l w := by
    intro supervised l w
    rw [safe_bind]
    exact safe_consumeApproval supervised
  unfold updatePrimary
  rw [safe_bind, safe_get]
  dsimp only
  rw [safe_ite, safe_ite]
  refine ⟨fun _ => ?_, fun _ => ⟨fun _ => ?_, fun _ => ?_⟩⟩
  · have honly : Only (fun c => ∀ w, OneDown names w c) pauseForPrimaryApproval :=
      only_pauseForPrimaryApproval (fun _ => trivial) fun _ _ _ => trivial
    exact safe_of_only honly fun w c hc => hc w
  · rw [safe_bind, safe_wrap]
    exact safe_deletePod (h.others _) fun pods => hconsume _ _ _
  · rw [safe_bind, safe_wrap]
    exact safe_mono (safe_handing only_switchover h) fun _ l' w' _ => hconsume _ l' w'

/-- A rolling update that finds all pods up takes one down. -/
theorem safe_rollingUpdate_allUp (h : AllUp names w) (desiredHash : String) :
    Safe faulty (OneDown names) (rollingUpdate desiredHash) (fun _ _ _ => True) l w := by
  unfold rollingUpdate
  rw [safe_bind, safe_get, safe_ite]
  refine ⟨fun _ => (safe_rollingUpdateClusterMode trivial).mpr fun _ shard _ => ?_, fun _ => ?_⟩
  · unfold dueUpdate
    split
    · rw [safe_wrap]
      exact safe_deletePod (h.others _) fun _ => trivial
    · split
      · trivial
      · unfold updateShardPrimary
        split
        · rw [safe_wrap]
          exact safe_deletePod (h.others _) fun _ => trivial
        · rw [safe_ite]
          refine ⟨fun _ => trivial, fun _ => ?_⟩
          exact safe_mono (safe_handing (only_shardFailover _ _) h) fun _ _ _ _ => trivial
  · unfold rollingUpdateReplicated
    rw [safe_bind, safe_get, safe_bind, safe_wrap, safe_listDataPods]
    refine ⟨trivial, ?_⟩
    dsimp only
    split
    · rw [safe_bind, safe_wrap]
      exact safe_deletePod (h.others _) fun _ => trivial
    · split
      · trivial
      · rw [safe_ite]
        exact ⟨fun _ => trivial, fun _ => safe_updatePrimary h _ _⟩

/-- So does a restart for a resize; if it lets the pass go on, it did nothing. -/
theorem safe_restart_allUp (h : AllUp names w) (pendingPVCs : List String) :
    Safe faulty (OneDown names) (restartPodsForPendingResize pendingPVCs)
      (fun stop _ w' => stop = false → AllUp names w') l w := by
  have hstop : ∀ w' : World, true = false → AllUp names w' := fun _ hno => nomatch hno
  unfold restartPodsForPendingResize
  rw [safe_bind, safe_get, safe_bind, safe_wrap, safe_listDataPods]
  refine ⟨trivial, ?_⟩
  dsimp only
  split
  · rw [safe_bind, safe_wrap]
    exact safe_deletePod (h.others _) fun _ => hstop _
  · rw [safe_ite]
    refine ⟨fun _ => hstop _, fun _ => ?_⟩
    split
    · exact fun _ => h
    · unfold restartPrimary
      rw [safe_ite, safe_ite, safe_ite]
      refine ⟨fun _ => hstop _, fun _ => ⟨fun _ => ?_, fun _ => ⟨fun _ => hstop _, fun _ => ?_⟩⟩⟩
      · rw [safe_bind, safe_wrap]
        exact safe_deletePod (h.others _) fun _ => hstop _
      · rw [safe_bind, safe_wrap]
        exact safe_mono (safe_handing only_switchover h) fun _ _ w' _ => hstop w'

theorem safe_reconcileSentinel_oneDown :
    Safe faulty (OneDown names) (reconcileSentinel r) (fun _ _ _ => True) l w := by
  refine safe_of_only (only_reconcileSentinel r) fun w c hc => ?_
  refine oneDown_of_mild names ?_ ?_ <;> rintro _ _ rfl <;> exact hc

theorem safe_plannedMoves_allUp (h : AllUp names w) (pendingPVCs : List String) :
    Safe faulty (OneDown names) (plannedMoves r pendingPVCs) (fun _ _ _ => True) l w := by
  have hupdate : ∀ l w, AllUp names w → Safe faulty (OneDown names)
      (Act.get >>= fun cluster : RedisCluster =>
        wrap "rolling update" (rollingUpdate (r.computeSpecHash cluster)) >>= fun _ =>
          reconcileSentinel r) (fun _ _ _ => True) l w := by
    intro l w hup
    rw [safe_bind, safe_get, safe_bind, safe_wrap]
    exact safe_mono (safe_rollingUpdate_allUp hup _) fun _ _ _ _ => safe_reconcileSentinel_oneDown
  unfold plannedMoves resizeRestart
  rw [safe_bind, safe_ite, safe_wrap]
  refine ⟨fun _ => hupdate l w h, fun _ => safe_mono (safe_restart_allUp h pendingPVCs) ?_⟩
  intro stop l' w' hup
  rw [safe_ite]
  exact ⟨fun _ => trivial, fun hgo => hupdate l' w' (hup (by simpa using hgo))⟩

/-! ## A pass with nothing to update -/

/-- A rolling update that finds every pod up to date does nothing. -/
theorem safe_rollingUpdate_done {hash : String}
    (h : ∀ pod ∈ w.dataPods, getPodSpecHash pod = hash) :
    Safe faulty (OneDown names) (rollingUpdate hash) (fun _ _ _ => True) l w := by
  unfold rollingUpdate
  rw [safe_bind, safe_get, safe_ite]
  refine ⟨fun _ => (safe_rollingUpdateClusterMode trivial).mpr fun _ _ hturn => ?_, fun _ => ?_⟩
  · obtain ⟨pod, ⟨_, -, hlookup⟩, hold⟩ := hturn.outdated
    exact absurd (h pod (podsByName_lookup hlookup).1) hold
  · unfold rollingUpdateReplicated
    rw [safe_bind, safe_get, safe_bind, safe_wrap, safe_listDataPods]
    refine ⟨trivial, ?_⟩
    dsimp only
    have hreplicas : (splitPrimary l w.dataPods).2.find?
        (fun replica => getPodSpecHash replica != hash) = none := by
      rw [List.find?_eq_none]
      intro replica hreplica
      simp [h replica (mem_replicas.mp hreplica).1]
    rw [hreplicas]
    cases hprimary : (splitPrimary l w.dataPods).1 with
    | none => trivial
    | some primary =>
      have hmem := (List.mem_filter.mp (List.mem_of_getLast? hprimary)).1
      rw [safe_ite]
      exact ⟨fun _ => trivial, fun hne => absurd (h primary hmem) hne⟩

end

/-! ## When a pass takes down one pod at a time -/

/-- No claim waits for a restart of its pod. -/
def NoneWaiting (w : World) : Prop := ∀ pvc ∈ w.pvcs, pvc.resizePending = false

/-- There is nothing to update. -/
structure UpToDate (r : ClusterReconciler) (w : World) : Prop where
  template : ∀ pod ∈ w.pods, Belongs (expectedNames w.cluster) pod →
    MadeFrom (r.computeSpecHash w.cluster) pod
  claims : w.cluster.spec.isEphemeral = true ∨ NoneWaiting w

/-- The poll reaches every expected pod and no other, and a pod that answers is ready. -/
structure PollComplete (faulty : Cmd → Prop) (w : World) : Prop where
  lists : ¬ faulty .listPods
  names : (w.pods.map Pod.name).Nodup
  expected : ∀ pod ∈ w.dataPods, pod.name ∈ expectedNames w.cluster
  complete : w.cluster.spec.desiredDataInstances ≤ w.polled.len
  ready : ∀ pod ∈ w.dataPods, (w.polled.get pod.name).connected = true →
    isPodRunningAndReady pod = true

/-- What a pass needs to find: no primary that failed by itself, and either
    nothing to update or a complete poll. -/
structure Orderly (faulty : Cmd → Prop) (r : ClusterReconciler) (w : World) : Prop where
  steady : shouldTriggerFailover w.cluster w.polled = false
  state : UpToDate r w ∨ PollComplete faulty w

theorem length_expectedNames (cluster : RedisCluster) :
    (expectedNames cluster).length = cluster.spec.desiredDataInstances.toNat := by
  rw [expectedNames, List.length_map, List.length_range]

section

variable {faulty : Cmd → Prop} {r : ClusterReconciler} {w : World}

variable (h : PollComplete faulty w)
include h

theorem PollComplete.keys_subset :
    w.polled.keys ⊆ expectedNames w.cluster := by
  intro name hname
  obtain ⟨st, hst⟩ := GoMap.mem_iff_lookup.mp (GoMap.mem_keys.mp hname)
  obtain ⟨pod, hpod, -, rfl, -⟩ := World.polled_lookup hst
  exact h.expected pod hpod

theorem PollComplete.length_dataPods :
    w.dataPods.length ≤ (expectedNames w.cluster).length := by
  have hnodup : (w.dataPods.map Pod.name).Nodup :=
    h.names.sublist ((List.filter_sublist).map Pod.name)
  rw [← List.length_map (f := Pod.name)]
  refine hnodup.length_le_of_subset fun name hname => ?_
  obtain ⟨pod, hpod, rfl⟩ := List.mem_map.mp hname
  exact h.expected pod hpod

/-- Every expected pod was polled. -/
theorem PollComplete.polls {name : String}
    (hname : name ∈ expectedNames w.cluster) : name ∈ w.polled := by
  have hperm : w.polled.keys.Perm (expectedNames w.cluster) := by
    refine (w.polled.keys_nodup.subperm h.keys_subset).perm_of_length_le ?_
    have hlen : w.polled.keys.length = w.polled.len := List.length_map ..
    rw [length_expectedNames, hlen]
    have := h.complete
    omega
  exact GoMap.mem_keys.mp (hperm.mem_iff.mpr hname)

/-- If the reachability check then lets the pass go on, every polled pod is connected. -/
theorem PollComplete.connected
    (hreach : checkReachability w.cluster w.polled = false) {name : String} {st : InstanceStatus}
    (hst : w.polled.lookup name = some st) : st.connected = true := by
  have hlen : w.polled.pairs.length ≤ (expectedNames w.cluster).length := by
    have hkeys := w.polled.keys_nodup.length_le_of_subset h.keys_subset
    rwa [GoMap.length_pairs, ← show w.polled.keys.length = w.polled.len from List.length_map ..]
  have hcount : w.cluster.spec.desiredDataInstances ≤ connectedCount w.polled := by
    have hcomplete := h.complete
    simp only [checkReachability, decide_eq_false_iff_not, ite_eq_left_iff] at hreach
    have := hreach (by omega)
    omega
  have hall : (w.polled.pairs.filter fun p => p.2.connected).length = w.polled.pairs.length := by
    have hle := List.length_filter_le (fun p => p.2.connected) w.polled.pairs
    rw [length_expectedNames] at hlen
    unfold connectedCount at hcount
    omega
  exact List.length_filter_eq_length_iff.mp hall (name, st) (GoMap.mem_pairs.mpr hst)

/-- Then all pods are up. -/
theorem PollComplete.allUp (hreach : checkReachability w.cluster w.polled = false) :
    AllUp (expectedNames w.cluster) w := by
  refine ⟨fun name hname => ?_, fun pod hpod hbelongs => ?_⟩
  · obtain ⟨st, hst⟩ := GoMap.mem_iff_lookup.mp (h.polls hname)
    obtain ⟨pod, hpod, -, rfl, -⟩ := World.polled_lookup hst
    exact List.mem_map_of_mem (List.mem_filter.mp hpod).1
  · have hname : pod.name ∈ expectedNames w.cluster := by
      rcases hbelongs with hdata | hname
      · exact h.expected pod (List.mem_filter.mpr ⟨hpod, hdata⟩)
      · exact hname
    obtain ⟨st, hst⟩ := GoMap.mem_iff_lookup.mp (h.polls hname)
    obtain ⟨polledPod, hpolled, -, hsame, -⟩ := World.polled_lookup hst
    -- names are unique, so the polled pod is this one
    obtain rfl : polledPod = pod :=
      List.inj_on_of_nodup_map h.names (List.mem_filter.mp hpolled).1 hpod hsame
    refine h.ready polledPod hpolled ?_
    rw [GoMap.get_of_lookup hst]
    exact h.connected hreach hst

omit h

theorem Orderly.safe_reconcile (hhash : HashReadsSpec r) (h : Orderly faulty r w) :
    Safe faulty (OneDown (expectedNames w.cluster)) (reconcile r)
      (fun _ _ _ => True) w.cluster w := by
  refine safe_reconcile_workload (oneDown_workGuard _).toCourseGuard r
    (fun _ => oneDown_shaping _) (fun statuses hpoll => ?_)
    fun statuses l' hpoll hfresh hreach => ?_
  · rcases hpoll with rfl | ⟨-, rfl⟩
    · exact h.steady
    · unfold shouldTriggerFailover
      simp [show (∅ : Statuses).pairs = [] from rfl]
  · have hnames : expectedNames w.cluster = expectedNames l' := by
      unfold expectedNames
      rw [hfresh.spec, hfresh.name]
    have hstored : l' = (w.store l').cluster := rfl
    rcases h.state with hdone | hpolled
    · -- nothing is out of date, and what is created is not either
      have hmeet : PodsMeet (MadeFrom (r.computeSpecHash w.cluster)) (expectedNames w.cluster) []
          (w.store l') := ⟨fun _ hno => absurd hno List.not_mem_nil, hdone.template⟩
      refine safe_workload_podsMeet (oneDown_workGuard _) (fun _ _ _ hmade => hmade) hstored hnames
        hmeet (Or.inr ?_) (Or.inr rfl) ?_ _ statuses
      · intro cluster podName index labels restore hspec
        exact madeFrom_newDataPod hhash (hspec.trans hfresh.spec)
      · intro pending l₁ w₁ hpending hcarried hmeet₁
        have hnone : pending = [] := by
          refine List.eq_nil_iff_forall_not_mem.mpr fun name hname => ?_
          obtain ⟨hpersistent, pvc, hpvc, -, hwaits⟩ := hpending name hname
          rw [hfresh.spec] at hpersistent
          rcases hdone.claims with hephemeral | hnone
          · exact absurd (hpersistent.symm.trans hephemeral) Bool.false_ne_true
          · exact absurd ((hnone pvc hpvc).symm.trans hwaits) Bool.false_ne_true
        have hcurrent : r.computeSpecHash l₁ = r.computeSpecHash w.cluster :=
          hhash w.cluster l₁ (hcarried.spec.trans hfresh.spec)
        rw [hnone]
        unfold plannedMoves resizeRestart
        rw [if_pos rfl, safe_bind, safe_pure, if_neg Bool.false_ne_true, safe_bind, safe_get,
          safe_bind, safe_wrap, hcurrent]
        refine safe_mono (safe_rollingUpdate_done fun pod hpod => ?_) fun _ _ _ _ =>
          safe_reconcileSentinel_oneDown
        have hpod := List.mem_filter.mp hpod
        exact (hmeet₁.meet pod hpod.1 (Or.inl hpod.2)).getPodSpecHash
    · -- the check let the pass go on, so all pods are up
      have hstatuses : statuses = w.polled := hpoll.resolve_right fun hno => hpolled.lists hno.1
      subst hstatuses
      have hup := hpolled.allUp hreach
      have hfew := hpolled.length_dataPods
      rw [length_expectedNames] at hfew
      refine safe_workload_podsMeet (oneDown_workGuard _)
        (fun _ _ _ hready => hready) hstored hnames
        ⟨hup.present, hup.meet⟩ (Or.inl rfl) ?_ ?_ _ _
      · rw [hfresh.spec]
        by_cases hneg : w.cluster.spec.desiredDataInstances < 0
        · exact Or.inr (List.length_eq_zero_iff.mp (by rw [length_expectedNames]; omega))
        · exact Or.inl (by rw [World.store_dataPods]; omega)
      · exact fun pending _ _ _ _ hup => safe_plannedMoves_allUp hup pending

/-- A request of a run, with the expected pods of its pass: every pass starts in
    an orderly state, and between passes anything may happen. -/
inductive OrderlyRequest (faulty : Cmd → Prop) (r : ClusterReconciler) :
    World → List String → World → Cmd → Prop
  | now {w w' : World} {c : Cmd} (h : Orderly faulty r w)
      (hissues : Prog.Issues (Handles faulty) (reconcile r w.cluster) w w' c) :
      OrderlyRequest faulty r w (expectedNames w.cluster) w' c
  | later {w w₁ w₂ w' : World} {names : List String} {c : Cmd} (h : Orderly faulty r w)
      (hpass : PassLeads faulty r w w₁) (hrest : OrderlyRequest faulty r w₂ names w' c) :
      OrderlyRequest faulty r w names w' c

/-- All along such a run one pod is down at a time. -/
theorem orderly_run_one_down (hhash : HashReadsSpec r) {names : List String} {w' : World}
    {c : Cmd} (h : OrderlyRequest faulty r w names w' c) : OneDown names w' c := by
  induction h with
  | now h hissues => exact (Prog.wp_iff.mp (h.safe_reconcile hhash)).1 _ _ hissues
  | later _ _ _ ih => exact ih

/-- In a run of passes, whatever happens to pods in between, a pass that finds
    an orderly cluster takes a pod down for an update or a resize only while all
    other data pods of the cluster are there and ready. -/
theorem orderly_pass_one_down (faulty : Cmd → Prop) (r : ClusterReconciler) (w : World)
    (hhash : HashReadsSpec r) (h : Orderly faulty r w) :
    Safe faulty (OneDown (expectedNames w.cluster)) (reconcile r)
    (fun _ _ _ => True) w.cluster w :=
  h.safe_reconcile hhash

end

/-- A ready data pod made from the template of this hash. -/
def readyPod (name podIP hash : String) : Pod where
  name := name
  podIP := podIP
  labels := (∅ : GoMap String String).insert labelWorkload labelWorkloadData
  annotations := (∅ : GoMap String String).insert specHashAnnotation hash
  phase := .running
  conditions := [{ type := "Ready", isTrue := true }]

/-- Three pods that are up and answer, made from an older template. -/
def outdatedWorld : World where
  cluster :=
    { name := "c"
      spec := { instances := 3, storageType := .emptyDir }
      status := { currentPrimary := "c-0" } }
  pods := [readyPod "c-0" "10.0.0.1" "old", readyPod "c-1" "10.0.0.2" "old",
    readyPod "c-2" "10.0.0.3" "old"]
  answers := fun _ => some { connected := true }

/-- A controller whose template has changed. -/
def newTemplate : ClusterReconciler where
  objectNamespace := "default"
  computeSpecHash := fun _ => "new"

/-- Its first pass is orderly. -/
theorem outdatedWorld_first_pass :
    Orderly (fun _ => False) newTemplate outdatedWorld ∧
      Safe (fun _ => False) (OneDown (expectedNames outdatedWorld.cluster)) (reconcile newTemplate)
        (fun _ _ _ => True) outdatedWorld.cluster outdatedWorld := by
  have horderly : Orderly (fun _ => False) newTemplate outdatedWorld :=
    { steady := by decide +kernel
      state := Or.inr
        { lists := id
          names := by decide +kernel
          expected := by decide +kernel
          complete := by decide +kernel
          ready := by decide +kernel } }
  exact ⟨horderly, orderly_pass_one_down _ _ _ (fun _ _ _ => rfl) horderly⟩

/-- The request deletes a pod for an update while another one is not up. -/
def deletesEarly (names : List String) : World × Cmd → Bool
  | (w, .deletePod target .rollingUpdate) => !decide (OthersUp names target w)
  | _ => false

theorem not_oneDown_of_deletesEarly {names : List String} {p : World × Cmd}
    (h : deletesEarly names p = true) : ¬ OneDown names p.1 p.2 := by
  unfold deletesEarly at h
  split at h
  next w target => simpa [OneDown] using h
  · cases h

/-- The pass after it: `c-2` is gone, so two pods are polled, which the check
    takes for a cluster still growing; the pass makes `c-2` anew and deletes `c-1`. -/
theorem outdatedWorld_second_pass :
    AllUp (expectedNames outdatedWorld.cluster) outdatedWorld ∧
      ∃ w, PassLeads (fun _ => False) newTemplate outdatedWorld w ∧
        shouldTriggerFailover w.cluster w.polled = false ∧
        ¬ Safe (fun _ => False) (OneDown (expectedNames w.cluster)) (reconcile newTemplate)
          (fun _ _ _ => True) w.cluster w := by
  refine ⟨⟨by decide +kernel, by decide +kernel⟩, _, passLeads_answer _ _ _, by decide +kernel,
    not_safe_of_answer ?_⟩
  have hany : (Prog.trace World.answer (reconcile newTemplate
      (Act.run World.answer (reconcile newTemplate) outdatedWorld.cluster outdatedWorld).2.cluster)
      (Act.run World.answer (reconcile newTemplate) outdatedWorld.cluster outdatedWorld).2).any
        (deletesEarly ["c-0", "c-1", "c-2"]) = true := by decide +kernel
  obtain ⟨p, hmem, hearly⟩ := List.any_eq_true.mp hany
  exact ⟨p, hmem, not_oneDown_of_deletesEarly hearly⟩

end RedisOperator
