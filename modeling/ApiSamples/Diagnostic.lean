namespace ApiSamples

inductive Severity where
  | warning | error
  deriving DecidableEq, Repr

inductive Defect where
  | missingField (className property : String)
  | missingParameter (operation parameter : String)
  deriving DecidableEq, Repr

structure Diagnostic where
  severity : Severity
  defect : Defect
  deriving DecidableEq, Repr

namespace Severity

def label : Severity → String
  | warning => "warning"
  | error => "error"

end Severity

namespace Defect

def owner : Defect → String
  | missingField className _ => className
  | missingParameter operation _ => operation

def member : Defect → String
  | missingField _ property => property
  | missingParameter _ parameter => parameter

def message : Defect → String
  | missingField className property =>
    "Required property '" ++ property ++ "' of type '" ++ className ++ "' not found."
  | missingParameter operation parameter =>
    "Required parameter '" ++ parameter ++ "' of operation '" ++ operation ++ "' not found."

def label : Defect → String
  | missingField _ _ => "missing_required_field"
  | missingParameter _ _ => "missing_required_parameter"

end Defect

namespace Diagnostic

def missingField (className property : String) : Diagnostic :=
  ⟨.error, .missingField className property⟩

def missingParameter (operation parameter : String) : Diagnostic :=
  ⟨.error, .missingParameter operation parameter⟩

def message (d : Diagnostic) : String := d.defect.message

def text (d : Diagnostic) : String := d.severity.label ++ ": " ++ d.message

def isError (d : Diagnostic) : Bool := d.severity == .error

end Diagnostic

/-- Conditions that are logged and not counted. -/
inductive Warning where
  /-- The value as compact JSON. -/
  | undeclaredEnumValue (className value : String)
  | suppressed (operation exampleName : String)
  | looseFlattening (operation flattened holder : String)
  deriving DecidableEq, Repr

inductive Note where
  | diagnostic (d : Diagnostic)
  | warning (w : Warning)
  deriving DecidableEq, Repr

namespace Note

def diagnostic? : Note → Option Diagnostic
  | diagnostic d => some d
  | warning _ => none

end Note

def diagnosticsOf (notes : List Note) : List Diagnostic := notes.filterMap Note.diagnostic?

@[simp] theorem diagnosticsOf_append (xs ys : List Note) :
    diagnosticsOf (xs ++ ys) = diagnosticsOf xs ++ diagnosticsOf ys :=
  List.filterMap_append

structure Noted (α : Type) where
  value : α
  notes : List Note

namespace Noted

instance : Monad Noted where
  pure a := ⟨a, []⟩
  bind x f := ⟨(f x.value).value, x.notes ++ (f x.value).notes⟩

def note (n : Note) : Noted Unit := ⟨(), [n]⟩

def report (d : Diagnostic) : Noted Unit := note (.diagnostic d)

def warn (w : Warning) : Noted Unit := note (.warning w)

def diagnostics {α : Type} (x : Noted α) : List Diagnostic := diagnosticsOf x.notes

section

variable {α β : Type}

@[simp] theorem value_pure (a : α) : (pure a : Noted α).value = a := rfl

@[simp] theorem notes_pure (a : α) : (pure a : Noted α).notes = [] := rfl

@[simp] theorem value_bind (x : Noted α) (f : α → Noted β) : (x >>= f).value = (f x.value).value :=
  rfl

@[simp] theorem value_map (f : α → β) (x : Noted α) : (f <$> x).value = f x.value := rfl

@[simp] theorem notes_map (f : α → β) (x : Noted α) : (f <$> x).notes = x.notes := List.append_nil _

@[simp] theorem notes_bind (x : Noted α) (f : α → Noted β) :
    (x >>= f).notes = x.notes ++ (f x.value).notes := rfl

@[simp] theorem notes_report (d : Diagnostic) : (report d).notes = [.diagnostic d] := rfl

@[simp] theorem notes_warn (w : Warning) : (warn w).notes = [.warning w] := rfl

end

instance : LawfulMonad Noted := LawfulMonad.mk' Noted
  (fun x => by simp [Functor.map])
  (fun a f => by simp [bind, pure])
  (fun x f g => by simp [bind])

@[simp] theorem value_mapM {α β : Type} (f : α → Noted β) (xs : List α) :
    (xs.mapM f).value = xs.map fun x => (f x).value := by
  induction xs with
  | nil => rfl
  | cons x xs ih => simp [List.mapM_cons, ih]

@[simp] theorem notes_mapM {α β : Type} (f : α → Noted β) (xs : List α) :
    (xs.mapM f).notes = xs.flatMap fun x => (f x).notes := by
  induction xs with
  | nil => rfl
  | cons x xs ih => simp [List.mapM_cons, ih]

theorem mapM_congr {α β : Type} {f g : α → Noted β} {xs : List α} (h : ∀ x ∈ xs, f x = g x) :
    xs.mapM f = xs.mapM g := by
  induction xs with
  | nil => rfl
  | cons x xs ih =>
    rw [List.forall_mem_cons] at h
    rw [List.mapM_cons, List.mapM_cons, h.1, ih h.2]

end Noted

end ApiSamples
