import ApiSamples.Proofs.Sample.Names
import Mathlib.Order.Bounds.Basic

namespace ApiSamples.Sample

/-- A name that is taken is tried again with `Result` behind it; a name that is free ends the search. -/
inductive Search (arguments : List String) : String → String → Prop
  | ended {name : String} : isTaken arguments name = false → Search arguments name name
  | further {name found : String} : isTaken arguments name = true →
      Search arguments (name ++ "Result") found → Search arguments name found

/-- How often `Result` may stand behind a name so that nothing else has the name. -/
def freeExtensions (arguments : List String) (name : String) : Set Nat :=
  {n | extended name n ∉ reservedNames ∧ extended name n ∉ arguments}

inductive Begins (op : Operation) : String → Prop
  | body {type : String} : op.returns.body = some type → Begins op (Text.camel type)
  | headers {type : String} : op.returns.body = none → op.returns.headers = some type →
      Begins op (Text.camel type)
  | operation : op.returns.body = none → op.returns.headers = none → Begins op (op.name ++ "Result")

variable {arguments : List String} {name found other : String} {n : Nat}

theorem mem_freeExtensions_iff :
    n ∈ freeExtensions arguments name ↔ isTaken arguments (extended name n) = false := by
  simp [freeExtensions, isTaken]

theorem zero_mem_freeExtensions_iff :
    0 ∈ freeExtensions arguments name ↔ isTaken arguments name = false :=
  mem_freeExtensions_iff

theorem succ_mem_freeExtensions_iff :
    n + 1 ∈ freeExtensions arguments name ↔ n ∈ freeExtensions arguments (name ++ "Result") := by
  rw [mem_freeExtensions_iff, mem_freeExtensions_iff, extended_append]

/-- If a name is taken, the least extension of it is one more than that of the next name. -/
theorem isLeast_succ_iff (h : isTaken arguments name = true) :
    IsLeast (freeExtensions arguments name) (n + 1) ↔
      IsLeast (freeExtensions arguments (name ++ "Result")) n := by
  have hzero : 0 ∉ freeExtensions arguments name := by
    rw [zero_mem_freeExtensions_iff, h]
    exact Bool.noConfusion
  constructor
  · rintro ⟨hmem, hleast⟩
    refine ⟨succ_mem_freeExtensions_iff.mp hmem, fun i hi => ?_⟩
    exact Nat.le_of_succ_le_succ (hleast (succ_mem_freeExtensions_iff.mpr hi))
  · rintro ⟨hmem, hleast⟩
    refine ⟨succ_mem_freeExtensions_iff.mpr hmem, fun i hi => ?_⟩
    cases i with
    | zero => exact absurd hi hzero
    | succ i => exact Nat.succ_le_succ (hleast (succ_mem_freeExtensions_iff.mp hi))

theorem search_iff : Search arguments name found ↔
    ∃ n, found = extended name n ∧ IsLeast (freeExtensions arguments name) n := by
  constructor
  · intro h
    induction h with
    | ended hfree => exact ⟨0, rfl, zero_mem_freeExtensions_iff.mpr hfree, fun i _ => Nat.zero_le i⟩
    | further htaken _ ih =>
      obtain ⟨n, rfl, hleast⟩ := ih
      exact ⟨n + 1, extended_append _ n, (isLeast_succ_iff htaken).mpr hleast⟩
  · rintro ⟨n, rfl, hleast⟩
    induction n generalizing name with
    | zero => exact .ended (zero_mem_freeExtensions_iff.mp hleast.1)
    | succ n ih =>
      have hzero : 0 ∉ freeExtensions arguments name :=
        fun h => absurd (hleast.2 h) (Nat.not_succ_le_zero n)
      have htaken : isTaken arguments name = true := by
        rwa [zero_mem_freeExtensions_iff, Bool.not_eq_false] at hzero
      rw [← extended_append]
      exact .further htaken (ih ((isLeast_succ_iff htaken).mp hleast))

theorem Search.unique (h : Search arguments name found) (ho : Search arguments name other) :
    found = other := by
  obtain ⟨n, rfl, hn⟩ := search_iff.mp h
  obtain ⟨i, rfl, hi⟩ := search_iff.mp ho
  rw [hn.unique hi]

theorem begins_bindingBase (op : Operation) : Begins op (bindingBase op) := by
  unfold bindingBase
  cases hbody : op.returns.body with
  | some type => exact .body hbody
  | none =>
    cases hheaders : op.returns.headers with
    | some type => exact .headers hbody hheaders
    | none => exact .operation hbody hheaders

/-- The search for the name of a result ends, and in one way only: with the least number of suffixes that
makes the name free. That number is at most one more than there are arguments. -/
theorem resultBinding_least (op : Operation) (arguments : List String) :
    ∃ base k, Begins op base ∧
      (∀ found, Search arguments base found ↔ found = resultBinding op arguments) ∧
      resultBinding op arguments = extended base k ∧ IsLeast (freeExtensions arguments base) k ∧
      k ≤ arguments.length + 1 := by
  obtain ⟨k, hk, hname, hbefore, hfree⟩ := resultBinding_eq op arguments
  have hleast : IsLeast (freeExtensions arguments (bindingBase op)) k := by
    refine ⟨mem_freeExtensions_iff.mpr hfree, fun i hi => ?_⟩
    by_contra hlt
    have htaken := hbefore i (Nat.lt_of_not_le hlt)
    rw [mem_freeExtensions_iff.mp hi] at htaken
    cases htaken
  have hsearch : Search arguments (bindingBase op) (resultBinding op arguments) :=
    search_iff.mpr ⟨k, hname, hleast⟩
  refine ⟨bindingBase op, k, begins_bindingBase op, fun found => ⟨fun h => h.unique hsearch, ?_⟩,
    hname, hleast, hk⟩
  rintro rfl
  exact hsearch

/-- The bound is attained: both the client and the only argument are in the way. -/
example : resultBinding { name := "get", returns := { body := some "Client" } } ["clientResult"] =
    extended "client" 2 := by
  decide

end ApiSamples.Sample
