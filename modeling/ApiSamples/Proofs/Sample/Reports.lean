import ApiSamples.Proofs.Literal.Visits
import ApiSamples.Proofs.Sample.Batching
import Mathlib.Algebra.Order.Ring.Nat

namespace ApiSamples

def Defect.isMissingParameter : Defect → Bool
  | missingParameter _ _ => true
  | missingField _ _ => false

def missingParameters (ds : List Diagnostic) : Nat := ds.countP fun d => d.defect.isMissingParameter

theorem missingParameters_append (ds es : List Diagnostic) :
    missingParameters (ds ++ es) = missingParameters ds + missingParameters es :=
  List.countP_append

theorem missingParameters_flatMap {α : Type} (f : α → List Note) (xs : List α) :
    missingParameters (diagnosticsOf (xs.flatMap f)) =
      (xs.map fun x => missingParameters (diagnosticsOf (f x))).sum := by
  induction xs with
  | nil => rfl
  | cons x xs ih =>
    rw [List.flatMap_cons, diagnosticsOf_append, missingParameters_append, ih, List.map_cons, List.sum_cons]

/-- Literals report missing fields and nothing else. -/
theorem Scope.missingParameters_synthesize (scope : Scope) (type : TypeExpr) (value : Json) :
    missingParameters (scope.synthesize type value).diagnostics = 0 := by
  rw [diagnostics_synthesize]
  refine List.countP_eq_zero.mpr fun d hd => ?_
  obtain ⟨visit, -, hmissing⟩ := List.mem_filterMap.mp hd
  obtain ⟨-, hd⟩ := Option.ite_none_right_eq_some.mp hmissing
  obtain rfl := Option.some.inj hd
  exact Bool.false_ne_true

namespace Assembler

def reports (a : Assembler) (c : Call) : List Note := (a.core c.operation c.group c.recorded).notes

theorem notes_declaration (a : Assembler) (arg : Argument) :
    (a.declaration arg).notes = (a.scope.synthesize arg.parameter.type arg.resolved.value).notes := by
  simp [declaration]

theorem missingParameters_reports (a : Assembler) (c : Call) :
    missingParameters (diagnosticsOf (a.reports c)) = if a.survives c then 0 else 1 := by
  rw [reports, survives, coreOf, core]
  cases c.operation.arguments c.recorded with
  | error missing => rfl
  | ok args =>
    have hquiet : ∀ arg ∈ args,
        missingParameters (diagnosticsOf (a.declaration arg).notes) = 0 := by
      intro arg _
      rw [notes_declaration]
      exact a.scope.missingParameters_synthesize arg.parameter.type arg.resolved.value
    simp only [Noted.notes_bind, Noted.notes_mapM, Noted.notes_pure, List.append_nil,
      missingParameters_flatMap, List.map_congr_left hquiet]
    simp

theorem notes_assemble (a : Assembler) (mode : Mode) (op : Operation) (g : Group) (e : Example) :
    (a.assemble mode op g e).notes = a.reports ⟨op, g, e⟩ := by
  simp [assemble, reports]

theorem notes_fragments (a : Assembler) (op : Operation) (g : Group) :
    (a.fragments op g).notes = (op.calls g).flatMap a.reports := by
  simp [fragments, notes_assemble, Operation.calls, List.flatMap_map]

end Assembler

namespace Program

open Assembler

theorem notes_push (p : Program) (a : Assembler) (op : Operation) (g : Group) (e : Example) :
    (p.push a op g e).notes = a.reports ⟨op, g, e⟩ := by
  simp only [push, Noted.notes_bind, notes_assemble]
  split <;> simp

theorem notes_pushAll (p : Program) (a : Assembler) (op : Operation) (g : Group) (es : List Example) :
    (p.pushAll a op g es).notes = es.flatMap fun e => a.reports ⟨op, g, e⟩ := by
  induction es generalizing p with
  | nil => rfl
  | cons e es ih =>
    simp only [pushAll, Noted.notes_bind, Noted.notes_pure, List.append_nil, notes_push, ih,
      List.flatMap_cons]

end Program

end ApiSamples
