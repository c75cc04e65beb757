/-
  RedisOperator.Cluster.Conditions

  The conditions in the status of a RedisCluster, read by their types: what the
  status update takes over, with the times of the last transitions.
-/

import RedisOperator.Cluster.PassRoutine

namespace RedisOperator

open Lib

/-- A condition with the time of its last transition in `existing`. -/
def carriedTime (existing : List Condition) (condition : Condition) : Condition :=
  match findCondition existing condition.type with
  | none => condition
  | some old =>
    if old.status = condition.status then
      { condition with lastTransitionTime := old.lastTransitionTime }
    else condition

theorem carriedTime_type (existing : List Condition) (condition : Condition) :
    (carriedTime existing condition).type = condition.type := by
  unfold carriedTime
  split
  · rfl
  · split <;> rfl

theorem carriedTime_status (existing : List Condition) (condition : Condition) :
    (carriedTime existing condition).status = condition.status := by
  unfold carriedTime
  split
  · rfl
  · split <;> rfl

theorem findCondition_carryTransitionTimes (existing current : List Condition)
    (type : ConditionType) :
    findCondition (carryTransitionTimes existing current) type =
      (findCondition current type).map (carriedTime existing) := by
  unfold findCondition carryTransitionTimes
  rw [List.find?_map]
  have htypes : (fun c : Condition => c.type == type) ∘ carriedTime existing =
      fun c => c.type == type := funext fun c => by simp [carriedTime_type]
  exact congrArg (fun p => (current.find? p).map (carriedTime existing)) htypes

/-- What was computed anew stands; of the other types, those listed are taken over. -/
theorem findCondition_preserveConditions (existing current : List Condition)
    (types : List ConditionType) (type : ConditionType) :
    findCondition (preserveConditions existing current types) type =
      (findCondition current type).or
        (if type ∈ types then findCondition existing type else none) := by
  induction types generalizing current with
  | nil => simp [preserveConditions]
  | cons t types ih =>
    -- one round of the loop either leaves the list alone or appends the old condition
    have hround : preserveConditions existing current (t :: types) =
        preserveConditions existing
          (if current.any (fun c => c.type == t) then current
          else match findCondition existing t with
            | none => current
            | some condition => current ++ [condition]) types := rfl
    rw [hround, ih]
    by_cases hany : current.any (fun c => c.type == t) = true
    · rw [if_pos hany]
      by_cases htype : type = t
      · subst htype
        have hsome : (findCondition current type).isSome = true := by
          rw [findCondition, List.find?_isSome]
          simpa using hany
        obtain ⟨c, hc⟩ := Option.isSome_iff_exists.mp hsome
        simp [hc]
      · simp [htype]
    · rw [if_neg hany]
      have hnone : findCondition current t = none := by
        rw [findCondition, List.find?_eq_none]
        simpa using hany
      cases hold : findCondition existing t with
      | none =>
        by_cases htype : type = t
        · subst htype
          simp [hold]
        · simp [htype]
      | some condition =>
        have hct : condition.type = t := by simpa [findCondition] using List.find?_some hold
        have happend : findCondition (current ++ [condition]) type =
            (findCondition current type).or (if t = type then some condition else none) := by
          unfold findCondition
          rw [List.find?_append]
          by_cases htype : t = type <;> simp [hct, htype]
        rw [happend]
        by_cases htype : t = type
        · subst htype
          simp [hnone, hold]
        · have hne : type ≠ t := fun h => htype h.symm
          simp [htype, hne]

end RedisOperator
