import ApiSamples.Diagnostic.Event

namespace ApiSamples

inductive Sink (κ : Type) where
  | collector (k : κ)
  | log
  | tee (first second : Sink κ)
  deriving Repr

/-- What sinks have received: a list for each collector, and the log. -/
structure Received (κ : Type) where
  collected : κ → List Diagnostic
  log : List Event

namespace Received

variable {κ : Type} [DecidableEq κ]

def empty : Received κ := ⟨fun _ => [], []⟩

def deliver (r : Received κ) (d : Diagnostic) : Option κ → Received κ
  | some k => { r with
      collected := fun j => if j = k then r.collected j ++ [d] else r.collected j }
  | none => { r with log := r.log ++ [d.event] }

@[simp] theorem collected_deliver_self (r : Received κ) (d : Diagnostic) (k : κ) :
    (r.deliver d (some k)).collected k = r.collected k ++ [d] := by
  simp [deliver]

theorem collected_deliver_of_ne (r : Received κ) (d : Diagnostic) {j k : κ} (h : j ≠ k) :
    (r.deliver d (some k)).collected j = r.collected j := by
  simp [deliver, h]

end Received

namespace Sink

variable {κ : Type} [DecidableEq κ]

def targets : Sink κ → List (Option κ)
  | collector k => [some k]
  | log => [none]
  | tee first second => first.targets ++ second.targets

def record (s : Sink κ) (r : Received κ) (d : Diagnostic) : Received κ :=
  s.targets.foldl (fun r target => r.deliver d target) r

end Sink

def errorCount (ds : List Diagnostic) : Nat := ds.countP Diagnostic.isError

end ApiSamples
