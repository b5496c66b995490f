import ApiSamples.Diagnostic.Sink
import Mathlib.Algebra.BigOperators.Group.Finset.Piecewise
import Mathlib.Algebra.Order.Group.Multiset
import Mathlib.Data.Fintype.Basic

namespace ApiSamples

variable {ι κ : Type}

structure Delivery (κ : Type) where
  diagnostic : Diagnostic
  target : Option κ

/-- What is left to do for a caller that records `ds` through a sink, one after the other. -/
def Sink.deliveries (sink : Sink κ) (ds : List Diagnostic) : List (Delivery κ) :=
  ds.flatMap fun d => sink.targets.map (Delivery.mk d)

theorem Sink.deliveries_cons (sink : Sink κ) (d : Diagnostic) (ds : List Diagnostic) :
    sink.deliveries (d :: ds) = sink.targets.map (Delivery.mk d) ++ sink.deliveries ds :=
  List.flatMap_cons

/-- What the sinks have received, and what each caller still has to deliver. -/
structure Callers (ι κ : Type) where
  received : Received κ
  ahead : ι → List (Delivery κ)

section

variable [DecidableEq κ]

def Received.accept (r : Received κ) (x : Delivery κ) : Received κ :=
  r.deliver x.diagnostic x.target

def arrivals (target : Option κ) (xs : List (Delivery κ)) : List Diagnostic :=
  (xs.filter fun x => x.target = target).map Delivery.diagnostic

/-- Deliveries that are not interrupted are what recording is. -/
theorem foldl_accept_deliveries (sink : Sink κ) (r : Received κ) (ds : List Diagnostic) :
    (sink.deliveries ds).foldl Received.accept r = ds.foldl sink.record r := by
  rw [Sink.deliveries, List.foldl_flatMap]
  congr 1
  funext r d
  rw [List.foldl_map]
  rfl

section

variable (target : Option κ) (xs ys : List (Delivery κ))

@[simp] theorem arrivals_nil : arrivals target [] = [] := rfl

theorem arrivals_cons (x : Delivery κ) : arrivals target (x :: xs) =
    if x.target = target then x.diagnostic :: arrivals target xs else arrivals target xs := by
  by_cases h : x.target = target <;> simp [arrivals, h]

@[simp] theorem arrivals_append :
    arrivals target (xs ++ ys) = arrivals target xs ++ arrivals target ys := by
  simp [arrivals]

theorem arrivals_map_mk (d : Diagnostic) (targets : List (Option κ)) :
    arrivals target (targets.map (Delivery.mk d)) = List.replicate (targets.count target) d := by
  induction targets with
  | nil => rfl
  | cons first rest ih =>
    rw [List.map_cons, arrivals_cons, ih, List.count_cons]
    by_cases h : first = target <;> simp [h, List.replicate_succ]

end

theorem arrivals_deliveries {sink : Sink κ} {target : Option κ} (h : sink.targets.count target = 1)
    (ds : List Diagnostic) : arrivals target (sink.deliveries ds) = ds := by
  induction ds with
  | nil => rfl
  | cons d ds ih =>
    rw [Sink.deliveries_cons, arrivals_append, arrivals_map_mk, h, ih]
    rfl

theorem collected_foldl_accept (r : Received κ) (k : κ) (xs : List (Delivery κ)) :
    (xs.foldl Received.accept r).collected k = r.collected k ++ arrivals (some k) xs := by
  induction xs generalizing r with
  | nil => simp
  | cons x xs ih =>
    obtain ⟨d, target⟩ := x
    rw [List.foldl_cons, ih, arrivals_cons]
    cases target with
    | none => rfl
    | some j =>
      by_cases hj : j = k
      · subst hj
        simp [Received.accept]
      · have hother : (r.accept ⟨d, some j⟩).collected k = r.collected k :=
          r.collected_deliver_of_ne d (Ne.symm hj)
        simp [hj, hother]

end

/-- Whoever is on the way through its calls has made some of them, and may stand inside one more. -/
theorem exists_begun_of_prefix {sink : Sink κ} {ds : List Diagnostic} {xs : List (Delivery κ)}
    (h : xs <+: sink.deliveries ds) :
    xs = sink.deliveries ds ∨ ∃ made d later begun, ds = made ++ d :: later ∧
      begun <+: sink.targets ∧ xs = sink.deliveries made ++ begun.map (Delivery.mk d) := by
  induction ds generalizing xs with
  | nil => exact .inl (List.prefix_nil.mp h)
  | cons d ds ih =>
    rw [Sink.deliveries_cons] at h ⊢
    obtain ⟨rest, hrest⟩ := h
    rcases List.append_eq_append_iff.mp hrest with ⟨_, hinside, -⟩ | ⟨beyond, rfl, hbeyond⟩
    · -- still inside the first call
      obtain ⟨begun, _, htargets, rfl, -⟩ := List.map_eq_append_iff.mp hinside
      exact .inr ⟨[], d, ds, begun, rfl, htargets ▸ List.prefix_append _ _, rfl⟩
    · rcases ih ⟨rest, hbeyond.symm⟩ with rfl | ⟨made, e, later, begun, rfl, hbegun, rfl⟩
      · exact .inl rfl
      · refine .inr ⟨d :: made, e, later, begun, rfl, hbegun, ?_⟩
        rw [Sink.deliveries_cons, List.append_assoc]

/-- Of the diagnostics `given` in turn, the ones that `second` has are the ones that `first` has, or
all of those but the last. -/
structure Trails (second first given : List Diagnostic) : Prop where
  behind : second <+: first
  close : first.length ≤ second.length + 1
  inTurn : first <+: given

theorem Trails.refl (ds : List Diagnostic) : Trails ds ds ds :=
  ⟨List.prefix_rfl, Nat.le_succ _, List.prefix_rfl⟩

theorem Trails.of_made {made later : List Diagnostic} {d : Diagnostic} {m n : ℕ} (hm : m ≤ n)
    (hn : n ≤ 1) : Trails (made ++ List.replicate m d) (made ++ List.replicate n d)
      (made ++ d :: later) := by
  have hfirst : List.replicate n d <+: d :: later := by
    obtain rfl | rfl : n = 0 ∨ n = 1 := by omega
    · exact List.nil_prefix
    · exact ⟨later, rfl⟩
  refine ⟨?_, ?_, ?_⟩
  · rw [List.prefix_append_right_inj]
    exact ⟨List.replicate (n - m) d, by rw [List.replicate_append_replicate, Nat.add_sub_cancel' hm]⟩
  · rw [List.length_append, List.length_append, List.length_replicate, List.length_replicate]
    omega
  · rwa [List.prefix_append_right_inj]

section

variable [DecidableEq κ]

theorem count_targets_first {a b : κ} (hab : a ≠ b) :
    (Sink.tee (.collector a) (.collector b)).targets.count (some a) = 1 := by
  simp [Sink.targets, hab.symm]

theorem count_targets_second {a b : κ} (hab : a ≠ b) :
    (Sink.tee (.collector a) (.collector b)).targets.count (some b) = 1 := by
  simp [Sink.targets, hab]

/-- The second collector of a pair is at most one delivery of a caller behind the first. -/
theorem trails_of_prefix {a b : κ} (hab : a ≠ b) {ds : List Diagnostic} {xs : List (Delivery κ)}
    (h : xs <+: (Sink.tee (.collector a) (.collector b)).deliveries ds) :
    Trails (arrivals (some b) xs) (arrivals (some a) xs) ds := by
  have ha := count_targets_first hab
  have hb := count_targets_second hab
  rcases exists_begun_of_prefix h with rfl | ⟨made, d, later, begun, rfl, hbegun, rfl⟩
  · rw [arrivals_deliveries ha, arrivals_deliveries hb]
    exact .refl ds
  · have hone : begun.count (some a) ≤ 1 := ha ▸ hbegun.sublist.count_le _
    -- a call comes to the first collector before it comes to the second
    have horder : begun.count (some b) ≤ begun.count (some a) := by
      match begun, hbegun with
      | [], _ => exact le_rfl
      | first :: rest, hbegun =>
        obtain ⟨rfl, hrest⟩ := List.cons_prefix_cons.mp hbegun
        have hcount := hrest.sublist.count_le (some b)
        rw [List.count_cons_of_ne (by simpa using hab), List.count_cons_self]
        exact hcount.trans (by simp [Sink.targets])
    rw [arrivals_append, arrivals_append, arrivals_deliveries ha, arrivals_deliveries hb,
      arrivals_map_mk, arrivals_map_mk]
    exact .of_made horder hone

end

section

variable [DecidableEq ι]

def ownSteps (i : ι) (trace : List (ι × Delivery κ)) : List (Delivery κ) :=
  (trace.filter fun e => e.1 = i).map Prod.snd

theorem ownSteps_append_singleton (i : ι) (trace : List (ι × Delivery κ)) (e : ι × Delivery κ) :
    ownSteps i (trace ++ [e]) = if e.1 = i then ownSteps i trace ++ [e.2] else ownSteps i trace := by
  by_cases h : e.1 = i <;> simp [ownSteps, h]

theorem ownSteps_cons (i : ι) (e : ι × Delivery κ) (trace : List (ι × Delivery κ)) :
    ownSteps i (e :: trace) = if e.1 = i then e.2 :: ownSteps i trace else ownSteps i trace := by
  by_cases h : e.1 = i <;> simp [ownSteps, h]

/-- What comes to a target is what each caller brings there, in some order. -/
theorem coe_arrivals_eq_sum [Fintype ι] [DecidableEq κ] (target : Option κ)
    (trace : List (ι × Delivery κ)) : (arrivals target (trace.map Prod.snd) : Multiset Diagnostic) =
      ∑ i, (arrivals target (ownSteps i trace) : Multiset Diagnostic) := by
  induction trace with
  | nil => simp [ownSteps]
  | cons e trace ih =>
    obtain ⟨j, x⟩ := e
    have hown : ∀ i, (arrivals target (ownSteps i ((j, x) :: trace)) : Multiset Diagnostic) =
        (if j = i then (arrivals target [x] : Multiset Diagnostic) else 0) +
          (arrivals target (ownSteps i trace) : Multiset Diagnostic) := by
      intro i
      rw [ownSteps_cons]
      by_cases hi : j = i
      · rw [if_pos hi, if_pos hi, Multiset.coe_add, ← arrivals_append, List.singleton_append]
      · rw [if_neg hi, if_neg hi, zero_add]
    rw [Finset.sum_congr rfl fun i _ => hown i, Finset.sum_add_distrib, ← ih,
      Finset.sum_ite_eq Finset.univ j, if_pos (Finset.mem_univ j), Multiset.coe_add,
      ← arrivals_append, List.map_cons, List.singleton_append]

namespace Callers

variable [DecidableEq κ] {sink : Sink κ} {calls : ι → List Diagnostic}
  {trace : List (ι × Delivery κ)} {s t : Callers ι κ}

def start (sink : Sink κ) (calls : ι → List Diagnostic) : Callers ι κ :=
  ⟨.empty, fun i => sink.deliveries (calls i)⟩

/-- The next delivery of any caller that is not done is a possible next step of all of them. -/
inductive Step (s : Callers ι κ) : ι × Delivery κ → Callers ι κ → Prop
  | deliver {i : ι} {x : Delivery κ} {rest : List (Delivery κ)} : s.ahead i = x :: rest →
    Step s (i, x) ⟨s.received.accept x, Function.update s.ahead i rest⟩

/-- Steps in some order of the callers, with the deliveries that were made on the way. -/
inductive Run (s : Callers ι κ) : List (ι × Delivery κ) → Callers ι κ → Prop
  | nil : Run s [] s
  | step {trace : List (ι × Delivery κ)} {t u : Callers ι κ} {e : ι × Delivery κ} :
    Run s trace t → Step t e u → Run s (trace ++ [e]) u

def Finished (s : Callers ι κ) : Prop := ∀ i, s.ahead i = []

theorem Step.received_eq {e : ι × Delivery κ} (h : Step s e t) : t.received = s.received.accept e.2 := by
  cases h with
  | deliver _ => rfl

/-- A step takes a delivery off what its own caller has ahead, and leaves the others alone. -/
theorem Step.ahead_eq {e : ι × Delivery κ} (h : Step s e t) (i : ι) :
    s.ahead i = (if e.1 = i then [e.2] else []) ++ t.ahead i := by
  cases h with
  | @deliver j x rest hahead =>
    by_cases hi : j = i
    · subst hi
      simp [hahead]
    · simp [hi, Function.update_of_ne (Ne.symm hi)]

theorem Run.received_eq (h : Run s trace t) :
    t.received = (trace.map Prod.snd).foldl Received.accept s.received := by
  induction h with
  | nil => rfl
  | step _ hstep ih => rw [hstep.received_eq, ih, List.map_append, List.foldl_append]; rfl

/-- What a caller has done and what it still has ahead are what it had ahead, in this order. -/
theorem Run.ownSteps_append_ahead (h : Run s trace t) (i : ι) :
    ownSteps i trace ++ t.ahead i = s.ahead i := by
  induction h with
  | nil => rfl
  | @step trace t u e _ hstep ih =>
    rw [hstep.ahead_eq i] at ih
    rw [ownSteps_append_singleton, ← ih]
    by_cases hi : e.1 = i <;> simp [hi]

theorem Run.ownSteps_prefix (h : Run (start sink calls) trace s) (i : ι) :
    ownSteps i trace <+: sink.deliveries (calls i) :=
  ⟨s.ahead i, h.ownSteps_append_ahead i⟩

theorem Run.collected_eq (h : Run (start sink calls) trace s) (k : κ) :
    s.received.collected k = arrivals (some k) (trace.map Prod.snd) := by
  rw [h.received_eq, collected_foldl_accept]
  rfl

theorem Run.ownSteps_of_finished (h : Run (start sink calls) trace s) (hdone : s.Finished) (i : ι) :
    ownSteps i trace = sink.deliveries (calls i) := by
  rw [← List.append_nil (ownSteps i trace), ← hdone i]
  exact h.ownSteps_append_ahead i

theorem Run.received_of_alone [Subsingleton ι] (h : Run (start sink calls) trace s)
    (hdone : s.Finished) (i : ι) : s.received = (calls i).foldl sink.record .empty := by
  have hown : trace.map Prod.snd = ownSteps i trace := by
    rw [ownSteps, List.filter_eq_self.mpr fun e _ => decide_eq_true (Subsingleton.elim e.1 i)]
  rw [h.received_eq, hown, h.ownSteps_of_finished hdone i, foldl_accept_deliveries]
  rfl

theorem Run.arrivals_of_finished (h : Run (start sink calls) trace s) (hdone : s.Finished)
    {target : Option κ} (hcount : sink.targets.count target = 1) (i : ι) :
    arrivals target (ownSteps i trace) = calls i := by
  rw [h.ownSteps_of_finished hdone i, arrivals_deliveries hcount]

def left [Fintype ι] (s : Callers ι κ) : ℕ := ∑ i, (s.ahead i).length

theorem Step.left_eq [Fintype ι] {e : ι × Delivery κ} (h : Step s e t) : s.left = t.left + 1 := by
  have hahead : ∀ i, (s.ahead i).length = (if e.1 = i then 1 else 0) + (t.ahead i).length := by
    intro i
    rw [h.ahead_eq i, List.length_append]
    by_cases hi : e.1 = i <;> simp [hi]
  rw [left, Finset.sum_congr rfl fun i _ => hahead i, Finset.sum_add_distrib,
    Finset.sum_ite_eq Finset.univ e.1, if_pos (Finset.mem_univ _), add_comm, left]

/-- No caller ever waits for another one. -/
theorem exists_step_of_not_finished (h : ¬s.Finished) : ∃ e t, Step s e t := by
  obtain ⟨i, hi⟩ := not_forall.mp h
  obtain ⟨x, rest, hahead⟩ := List.exists_cons_of_ne_nil hi
  exact ⟨(i, x), _, .deliver hahead⟩

/-- Whatever has been delivered so far, all calls can return, and they do after as many steps as
there are deliveries left. -/
theorem Run.exists_finished [Fintype ι] (h : Run s trace t) :
    ∃ more u, Run s (trace ++ more) u ∧ u.Finished ∧ more.length = t.left := by
  induction hleft : t.left generalizing trace t with
  | zero =>
    rw [left, Finset.sum_eq_zero_iff] at hleft
    have hdone : t.Finished := fun i => List.length_eq_zero_iff.mp (hleft i (Finset.mem_univ i))
    exact ⟨[], t, by rwa [List.append_nil], hdone, rfl⟩
  | succ n ih =>
    have hunfinished : ¬t.Finished := fun hdone => by simp [left, hdone _] at hleft
    obtain ⟨e, u, hstep⟩ := exists_step_of_not_finished hunfinished
    have hone := hstep.left_eq
    obtain ⟨more, v, hrun, hdone, hlength⟩ := ih (h.step hstep) (by omega)
    rw [List.append_assoc, List.singleton_append] at hrun
    exact ⟨e :: more, v, hrun, hdone, congrArg (· + 1) hlength⟩

/-- Two collectors behind one pair lose nothing of what any number of callers record through it at the
same time. At every moment both have what has been brought to them, and what a caller has brought to
the second is what it has brought to the first, or all but the last of it. When all calls have
returned both have what was recorded, each caller's diagnostics in the caller's order. -/
theorem Run.pair_keeps_all [Fintype ι] {a b : κ} (hab : a ≠ b)
    (h : Run (start (.tee (.collector a) (.collector b)) calls) trace s) :
    (∀ k, s.received.collected k = arrivals (some k) (trace.map Prod.snd)) ∧
    (∀ i, Trails (arrivals (some b) (ownSteps i trace)) (arrivals (some a) (ownSteps i trace))
      (calls i)) ∧
    (s.Finished → ∀ k, k = a ∨ k = b →
      (s.received.collected k : Multiset Diagnostic) = ∑ i, (calls i : Multiset Diagnostic) ∧
      ∀ i, arrivals (some k) (ownSteps i trace) = calls i) := by
  refine ⟨h.collected_eq, fun i => trails_of_prefix hab (h.ownSteps_prefix i), fun hdone k hk => ?_⟩
  have hcount : (Sink.tee (.collector a) (.collector b)).targets.count (some k) = 1 := by
    rcases hk with rfl | rfl
    · exact count_targets_first hab
    · exact count_targets_second hab
  have hown : ∀ i, arrivals (some k) (ownSteps i trace) = calls i :=
    h.arrivals_of_finished hdone hcount
  refine ⟨?_, hown⟩
  rw [h.collected_eq, coe_arrivals_eq_sum]
  exact Finset.sum_congr rfl fun i _ => congrArg _ (hown i)

/-- A caller that is overtaken by another one inside its call: the collectors have different orders. -/
theorem Run.pair_keeps_all_overtaken :
    ∃ (trace : List (Bool × Delivery Bool)) (s : Callers Bool Bool),
      Run (start (.tee (.collector false) (.collector true)) fun i =>
        [Diagnostic.missingField "Widget" (cond i "name" "size")]) trace s ∧ s.Finished ∧
      s.received.collected false =
        [Diagnostic.missingField "Widget" "size", Diagnostic.missingField "Widget" "name"] ∧
      s.received.collected true =
        [Diagnostic.missingField "Widget" "name", Diagnostic.missingField "Widget" "size"] ∧
      (∀ i, Trails (arrivals (some true) (ownSteps i trace)) (arrivals (some false) (ownSteps i trace))
        [Diagnostic.missingField "Widget" (cond i "name" "size")]) ∧
      (∀ k, k = false ∨ k = true → (s.received.collected k : Multiset Diagnostic) =
          ∑ i, ([Diagnostic.missingField "Widget" (cond i "name" "size")] : Multiset Diagnostic) ∧
        ∀ i, arrivals (some k) (ownSteps i trace) =
          [Diagnostic.missingField "Widget" (cond i "name" "size")]) := by
  have hrun := ((((Run.nil (s := start (.tee (.collector false) (.collector true)) fun i : Bool =>
      [Diagnostic.missingField "Widget" (cond i "name" "size")])).step
    (.deliver (i := false) rfl)).step (.deliver (i := true) rfl)).step
    (.deliver (i := true) rfl)).step (.deliver (i := false) rfl)
  obtain ⟨-, htrails, hall⟩ := hrun.pair_keeps_all (by decide)
  refine ⟨_, _, hrun, ?returned, rfl, rfl, htrails, hall ?returned⟩
  intro i
  cases i <;> rfl

end Callers

end

end ApiSamples
