import ApiSamples.Model.Validation
import Mathlib.Data.List.Basic

namespace ApiSamples

namespace TypeExpr

inductive RefersTo : TypeExpr → Reference → Prop
  | enum (name : String) : RefersTo (.enum name) (.enum name)
  | composite (name : String) : RefersTo (.composite name) (.composite name)
  | sequence {element : TypeExpr} {r : Reference} : RefersTo element r → RefersTo (.sequence element) r
  | dictionary {value : TypeExpr} {r : Reference} : RefersTo value r → RefersTo (.dictionary value) r

theorem mem_references_iff {type : TypeExpr} {r : Reference} : r ∈ type.references ↔ type.RefersTo r := by
  constructor
  · intro h
    induction type with
    | primitive kind => cases h
    | enum name => exact List.mem_singleton.mp h ▸ .enum name
    | composite name => exact List.mem_singleton.mp h ▸ .composite name
    | sequence element ih => exact .sequence (ih h)
    | dictionary value ih => exact .dictionary (ih h)
  · intro h
    induction h with
    | enum name => exact List.mem_singleton_self _
    | composite name => exact List.mem_singleton_self _
    | sequence _ ih => exact ih
    | dictionary _ ih => exact ih

end TypeExpr

/-- What is found in a list whose items are looked at in order, each together with those before it. -/
def findings {α β : Type} (look : List α → α → List β) (before : List α) : List α → List β
  | [] => []
  | x :: xs => look before x ++ findings look (before ++ [x]) xs

/-- Nothing is found if no item disagrees with one before it or is bad by itself. -/
theorem findings_eq_nil_iff {α β : Type} {look : List α → α → List β} {R : α → α → Prop} {P : α → Prop}
    (h : ∀ before x, look before x = [] ↔ (∀ y ∈ before, R y x) ∧ P x) (before xs : List α) :
    findings look before xs = [] ↔
      (∀ y ∈ before, ∀ x ∈ xs, R y x) ∧ xs.Pairwise R ∧ ∀ x ∈ xs, P x := by
  induction xs generalizing before with
  | nil => simp [findings]
  | cons x xs ih =>
    rw [findings, List.append_eq_nil_iff, h, ih, List.pairwise_cons]
    have hsnoc : (∀ y ∈ before ++ [x], ∀ z ∈ xs, R y z) ↔
        (∀ y ∈ before, ∀ z ∈ xs, R y z) ∧ ∀ z ∈ xs, R x z := by
      simp only [List.forall_mem_append, List.forall_mem_singleton]
    simp only [hsnoc, List.forall_mem_cons]
    constructor
    · rintro ⟨⟨hx, hp⟩, ⟨hbefore, hnext⟩, hpairs, hall⟩
      exact ⟨fun y hy => ⟨hx y hy, hbefore y hy⟩, ⟨hnext, hpairs⟩, hp, hall⟩
    · rintro ⟨hbefore, ⟨hnext, hpairs⟩, hp, hall⟩
      exact ⟨⟨fun y hy => (hbefore y hy).1, hp⟩, ⟨fun y hy => (hbefore y hy).2, hnext⟩, hpairs, hall⟩

def failFirst (defects : List RunError) : Except RunError Unit := defects.head?.elim (.ok ()) .error

section

variable {ds es : List RunError} {e : RunError}

theorem failFirst_eq_ok_iff : failFirst ds = .ok () ↔ ds = [] := by
  cases ds <;> simp [failFirst]

theorem failFirst_eq_error_iff : failFirst ds = .error e ↔ ds.head? = some e := by
  cases ds <;> simp [failFirst]

theorem failFirst_append (ds es : List RunError) :
    failFirst (ds ++ es) = (failFirst ds >>= fun _ => failFirst es) := by
  cases ds <;> rfl

theorem forM_eq_failFirst {α : Type} {check : α → Except RunError Unit} {defects : α → List RunError}
    (h : ∀ x, check x = failFirst (defects x)) (xs : List α) :
    xs.forM check = failFirst (xs.flatMap defects) := by
  induction xs with
  | nil => rfl
  | cons x xs ih =>
    rw [List.flatMap_cons, failFirst_append, ← h, ← ih]
    rfl

end

namespace CodeModel

def Declares (m : CodeModel) : Reference → Prop
  | .enum name => ∃ e ∈ m.enumerations, e.className = name
  | .composite name => ∃ c ∈ m.composites, c.className = name

theorem defines_iff {m : CodeModel} {r : Reference} : m.defines r = true ↔ m.Declares r := by
  cases r <;> simp [defines, Declares, enumeration?, composite?]

structure Sound (m : CodeModel) : Prop where
  family : m.family = .typeScript
  properties_distinct : ∀ c ∈ m.composites, (c.properties.map Field.name).Nodup
  property_types : ∀ c ∈ m.composites, ∀ p ∈ c.properties, ∀ r, p.type.RefersTo r → m.Declares r
  parameter_types : ∀ entry ∈ m.operations, ∀ p ∈ entry.2.parameters, ∀ r, p.type.RefersTo r → m.Declares r
  paths_distinct : m.operations.Pairwise fun first second =>
    (samplePath first.1 first.2).components ≠ (samplePath second.1 second.2).components

def familyDefects (m : CodeModel) : List RunError :=
  if m.family = .typeScript then [] else [.wrongFamily .typeScript m.family]

def typeDefects (m : CodeModel) (owner : String) (type : TypeExpr) : List RunError :=
  (type.references.filter fun r => !m.defines r).map fun r => .unresolvedType owner r.name

/-- The defects of a property, a repeated name before unresolved types. -/
def propertyDefects (m : CodeModel) (c : Composite) (before : List Field) (p : Field) : List RunError :=
  (if p.name ∈ before.map Field.name then [.duplicateProperty c.className p.name] else []) ++
    m.typeDefects c.className p.type

def compositeDefects (m : CodeModel) (c : Composite) : List RunError :=
  findings (m.propertyDefects c) [] c.properties

/-- The earliest operation that has the path already is named together with the one that repeats it. -/
def pathDefects (before : List (Group × Operation)) (entry : Group × Operation) : List RunError :=
  let path := samplePath entry.1 entry.2
  ((before.find? fun first => (samplePath first.1 first.2).components = path.components).map
    fun first => .duplicatePath path (qualifiedName first.1 first.2) (qualifiedName entry.1 entry.2)).toList

def operationDefects (m : CodeModel) (before : List (Group × Operation)) (entry : Group × Operation) :
    List RunError :=
  pathDefects before entry ++ entry.2.parameters.flatMap fun p => m.typeDefects entry.2.name p.type

def defects (m : CodeModel) : List RunError :=
  m.familyDefects ++ m.composites.flatMap m.compositeDefects ++ findings m.operationDefects [] m.operations

variable {m : CodeModel}

theorem checkFamily_eq (m : CodeModel) : m.checkFamily = failFirst m.familyDefects := by
  unfold checkFamily familyDefects expectedFamily
  split <;> rfl

theorem checkType_eq (m : CodeModel) (owner : String) (type : TypeExpr) :
    m.checkType owner type = failFirst (m.typeDefects owner type) := by
  rw [checkType, undefined?, ← List.head?_filter, failFirst, typeDefects, List.head?_map]
  cases (type.references.filter fun r => !m.defines r).head? <;> rfl

theorem checkProperties_eq (m : CodeModel) (c : Composite) {seen : List String} {before : List Field}
    (hseen : ∀ name, name ∈ seen ↔ name ∈ before.map Field.name) (ps : List Field) :
    m.checkProperties c.className seen ps = failFirst (findings (m.propertyDefects c) before ps) := by
  induction ps generalizing seen before with
  | nil => rfl
  | cons p ps ih =>
    have hnext : ∀ name, name ∈ p.name :: seen ↔ name ∈ (before ++ [p]).map Field.name := by
      intro name
      simp [hseen, or_comm]
    rw [findings, failFirst_append, propertyDefects, failFirst_append, ← checkType_eq, ← ih hnext,
      checkProperties]
    by_cases hname : p.name ∈ before.map Field.name
    · rw [if_pos hname, if_pos (by simpa [hseen] using hname)]
      rfl
    · rw [if_neg hname, if_neg (by simpa [hseen] using hname)]
      rfl

theorem checkComposites_eq (m : CodeModel) :
    m.checkComposites = failFirst (m.composites.flatMap m.compositeDefects) := by
  have hcomposite : ∀ c, m.checkProperties c.className [] c.properties =
      failFirst (findings (m.propertyDefects c) [] c.properties) :=
    fun c => m.checkProperties_eq c (by simp) c.properties
  exact forM_eq_failFirst hcomposite m.composites

theorem checkOperation_eq (m : CodeModel) (before : List (Group × Operation)) (g : Group) (op : Operation) :
    m.checkOperation before g op = failFirst (m.operationDefects before (g, op)) := by
  have htypes : (op.parameters.forM fun p => m.checkType op.name p.type) =
      failFirst (op.parameters.flatMap fun p => m.typeDefects op.name p.type) :=
    forM_eq_failFirst (fun p => m.checkType_eq op.name p.type) op.parameters
  have hsame : (fun first => (samplePath first.1 first.2).same (samplePath g op)) =
      fun first : Group × Operation =>
        decide ((samplePath first.1 first.2).components = (samplePath g op).components) := by
    funext first
    rw [Bool.eq_iff_iff, FilePath.same_iff, decide_eq_true_iff]
  have hclash : clash? before (samplePath g op) =
      before.find? fun first => (samplePath first.1 first.2).same (samplePath g op) := rfl
  rw [hsame] at hclash
  rw [operationDefects, failFirst_append, ← htypes, checkOperation, hclash, pathDefects]
  cases before.find? fun first =>
    (samplePath first.1 first.2).components = (samplePath g op).components <;> rfl

theorem checkOperations_eq (m : CodeModel) (before ops : List (Group × Operation)) :
    (m.checkOperations before ops).value = failFirst (findings m.operationDefects before ops) := by
  induction ops generalizing before with
  | nil => rfl
  | cons entry ops ih =>
    obtain ⟨g, op⟩ := entry
    rw [findings, failFirst_append, ← checkOperation_eq, ← ih, checkOperations]
    cases m.checkOperation before g op <;> rfl

theorem validate_eq (m : CodeModel) : m.validate.value = failFirst m.defects := by
  have hfront : (m.checkFamily *> m.checkComposites) =
      failFirst (m.familyDefects ++ m.composites.flatMap m.compositeDefects) := by
    rw [failFirst_append, ← checkFamily_eq, ← checkComposites_eq]
    cases m.checkFamily <;> rfl
  rw [defects, failFirst_append, ← hfront, ← checkOperations_eq, validate]
  cases m.checkFamily *> m.checkComposites <;> rfl

theorem typeDefects_eq_nil_iff {owner : String} {type : TypeExpr} :
    m.typeDefects owner type = [] ↔ ∀ r, type.RefersTo r → m.Declares r := by
  simp [typeDefects, TypeExpr.mem_references_iff, defines_iff]

theorem compositeDefects_eq_nil_iff {c : Composite} :
    m.compositeDefects c = [] ↔ (c.properties.map Field.name).Nodup ∧
      ∀ p ∈ c.properties, ∀ r, p.type.RefersTo r → m.Declares r := by
  have hlook : ∀ before p, m.propertyDefects c before p = [] ↔
      (∀ q ∈ before, q.name ≠ p.name) ∧ ∀ r, p.type.RefersTo r → m.Declares r := by
    intro before p
    rw [propertyDefects, List.append_eq_nil_iff, typeDefects_eq_nil_iff]
    simp
  rw [compositeDefects, findings_eq_nil_iff hlook, List.Nodup, List.pairwise_map]
  simp

theorem pathDefects_eq_nil_iff {before : List (Group × Operation)} {entry : Group × Operation} :
    pathDefects before entry = [] ↔ ∀ first ∈ before,
      (samplePath first.1 first.2).components ≠ (samplePath entry.1 entry.2).components := by
  simp [pathDefects]

theorem operationsDefects_eq_nil_iff {ops : List (Group × Operation)} :
    findings m.operationDefects [] ops = [] ↔
      (ops.Pairwise fun first second =>
        (samplePath first.1 first.2).components ≠ (samplePath second.1 second.2).components) ∧
      ∀ entry ∈ ops, ∀ p ∈ entry.2.parameters, ∀ r, p.type.RefersTo r → m.Declares r := by
  have hlook : ∀ before entry, m.operationDefects before entry = [] ↔
      (∀ first ∈ before,
        (samplePath first.1 first.2).components ≠ (samplePath entry.1 entry.2).components) ∧
      ∀ p ∈ entry.2.parameters, ∀ r, p.type.RefersTo r → m.Declares r := by
    intro before entry
    rw [operationDefects, List.append_eq_nil_iff, pathDefects_eq_nil_iff, List.flatMap_eq_nil_iff]
    simp only [typeDefects_eq_nil_iff]
  rw [findings_eq_nil_iff hlook]
  simp

theorem defects_eq_nil_iff : m.defects = [] ↔ m.Sound := by
  have hfamily : m.familyDefects = [] ↔ m.family = .typeScript := by
    simp [familyDefects]
  rw [defects, List.append_eq_nil_iff, List.append_eq_nil_iff, hfamily, List.flatMap_eq_nil_iff,
    operationsDefects_eq_nil_iff]
  simp only [compositeDefects_eq_nil_iff]
  constructor
  · rintro ⟨⟨hfamily, hcomposites⟩, hpaths, hparameters⟩
    exact ⟨hfamily, fun c hc => (hcomposites c hc).1, fun c hc => (hcomposites c hc).2, hparameters, hpaths⟩
  · rintro ⟨hfamily, hnames, hproperties, hparameters, hpaths⟩
    exact ⟨⟨hfamily, fun c hc => ⟨hnames c hc, hproperties c hc⟩⟩, hpaths, hparameters⟩

theorem sound_iff_validate : m.validate.value = .ok () ↔ m.Sound := by
  rw [validate_eq, failFirst_eq_ok_iff, defects_eq_nil_iff]

theorem diagnosticsOf_looseFlattenings (op : Operation) : diagnosticsOf (looseFlattenings op) = [] := by
  simp [diagnosticsOf, looseFlattenings, Note.diagnostic?]

theorem diagnostics_checkOperations (m : CodeModel) (before ops : List (Group × Operation)) :
    (m.checkOperations before ops).diagnostics = [] := by
  induction ops generalizing before with
  | nil => rfl
  | cons entry ops ih =>
    obtain ⟨g, op⟩ := entry
    unfold checkOperations
    cases m.checkOperation before g op with
    | error e => rfl
    | ok =>
      have hrest := ih (before ++ [(g, op)])
      rw [Noted.diagnostics] at hrest
      simp [Noted.diagnostics, diagnosticsOf_looseFlattenings, hrest]

/-- The checks of a model are about the model, and no diagnostic of recorded data comes from them. -/
theorem diagnostics_validate (m : CodeModel) : m.validate.diagnostics = [] := by
  unfold validate
  cases m.checkFamily *> m.checkComposites with
  | error e => rfl
  | ok => exact m.diagnostics_checkOperations [] m.operations

end CodeModel

end ApiSamples
