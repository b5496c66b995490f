import ApiSamples.Proofs.Text.Lines
import ApiSamples.Sample.Assembly

namespace ApiSamples

structure Variable where
  name : String
  annotation : String
  literal : String

structure Script where
  declared : List Variable
  binding : String
  callee : String
  /-- In the order of the call. -/
  arguments : List String

namespace Variable

def declaration (v : Variable) : String :=
  "const " ++ v.name ++ v.annotation ++ " = " ++ v.literal ++ ";"

end Variable

namespace Script

def call (s : Script) : String :=
  "const " ++ s.binding ++ " = await " ++ s.callee ++ "(" ++ ", ".intercalate s.arguments ++ ");"

def log (s : Script) : String := "console.log(" ++ s.binding ++ ");"

/-- An empty line stands between declarations and call. -/
def lines (s : Script) : List String :=
  s.declared.map Variable.declaration ++ (if s.declared.isEmpty then [] else [""]) ++ [s.call, s.log]

def text (s : Script) : String := Text.unlines s.lines

def identifiers (s : Script) : List String := s.declared.map Variable.name ++ [s.binding]

end Script

namespace Operation

def argument? (op : Operation) (e : Example) (p : Field) : Option Argument :=
  (op.resolve? e p).map fun r => ⟨p, r⟩

def lacks (op : Operation) (e : Example) (p : Field) : Bool :=
  p.required && (op.resolve? e p).isNone

/-- The first required parameter without a value decides; otherwise all that have values are taken. -/
theorem argumentsFor_eq (op : Operation) (e : Example) (ps : List Field) :
    op.argumentsFor e ps =
      match ps.find? (op.lacks e) with
      | some p => .error p.wireName
      | none => .ok (ps.filterMap (op.argument? e)) := by
  induction ps with
  | nil => rfl
  | cons p ps ih =>
    rw [argumentsFor, ih]
    cases hvalue : op.resolve? e p with
    | some r =>
      have hlacks : op.lacks e p = false := by simp [lacks, hvalue]
      have hargument : op.argument? e p = some ⟨p, r⟩ := by simp [argument?, hvalue]
      rw [List.find?_cons_of_neg (by simp [hlacks]), List.filterMap_cons_some hargument]
      cases ps.find? (op.lacks e) <;> rfl
    | none =>
      have hargument : op.argument? e p = none := by simp [argument?, hvalue]
      rw [List.filterMap_cons_none hargument]
      cases hrequired : p.required with
      | true =>
        have hlacks : op.lacks e p = true := by simp [lacks, hvalue, hrequired]
        rw [List.find?_cons_of_pos hlacks]
        rfl
      | false =>
        have hlacks : op.lacks e p = false := by simp [lacks, hrequired]
        rw [List.find?_cons_of_neg (by simp [hlacks])]
        rfl

theorem toOption_arguments (op : Operation) (e : Example) :
    (op.arguments e).toOption =
      if op.parameters.any (op.lacks e) then none
      else some (op.parameters.filterMap (op.argument? e)) := by
  rw [arguments, argumentsFor_eq]
  cases hfind : op.parameters.find? (op.lacks e) with
  | some p =>
    have hany : op.parameters.any (op.lacks e) = true :=
      List.any_eq_true.mpr ⟨p, List.mem_of_find?_eq_some hfind, List.find?_some hfind⟩
    rw [if_pos hany]
    rfl
  | none =>
    have hnone : ¬ op.parameters.any (op.lacks e) = true := by simpa using hfind
    rw [if_neg hnone]
    rfl

theorem parameter_mem_of_arguments {op : Operation} {e : Example} {args : List Argument}
    (h : (op.arguments e).toOption = some args) : ∀ arg ∈ args, arg.parameter ∈ op.parameters := by
  rw [toOption_arguments] at h
  obtain ⟨-, hargs⟩ := Option.ite_none_left_eq_some.mp h
  obtain rfl := Option.some.inj hargs
  intro arg harg
  obtain ⟨p, hp, hargument⟩ := List.mem_filterMap.mp harg
  obtain ⟨r, -, rfl⟩ := Option.map_eq_some_iff.mp hargument
  exact hp

end Operation

namespace Assembler

def variableOf (a : Assembler) (arg : Argument) : Variable :=
  { name := Sample.argumentVariable arg.parameter.name
    annotation := a.annotation arg.parameter.type
    literal := (a.scope.synthesize arg.parameter.type arg.resolved.value).value.text 0 }

def variableFor? (a : Assembler) (op : Operation) (e : Example) (p : Field) : Option Variable :=
  (op.argument? e p).map a.variableOf

def callee (op : Operation) (g : Group) : String := receiver g ++ "." ++ op.name

def script (a : Assembler) (op : Operation) (g : Group) (args : List Argument) : Script :=
  { declared := args.map a.variableOf
    binding := binding op args
    callee := callee op g
    arguments := argumentNames args }

/-- Nothing if a required parameter has no value. -/
def script? (a : Assembler) (op : Operation) (g : Group) (e : Example) : Option Script :=
  (op.arguments e).toOption.map (a.script op g)

theorem statements_eq (a : Assembler) (op : Operation) (g : Group) (args : List Argument) :
    statements op g args (args.map fun arg => (a.declaration arg).value) = (a.script op g args).text := by
  have hdeclarations : (args.map fun arg => (a.declaration arg).value) =
      (a.script op g args).declared.map Variable.declaration := by
    rw [script, List.map_map]
    rfl
  have hcall : callStatement op g args = (a.script op g args).call := by
    simp only [callStatement, Script.call, script, callee, String.append_assoc]
  have hlog : logStatement op args = (a.script op g args).log := rfl
  rw [statements, hdeclarations, hcall, hlog, Script.text, Script.lines]
  generalize hwritten : ({} : Text.Writer).lines
    ((a.script op g args).declared.map Variable.declaration) = written
  have hlevel : written.level = 0 := by
    rw [← hwritten, Text.Writer.level_lines]
  have htext :
      written.text = Text.unlines ((a.script op g args).declared.map Variable.declaration) := by
    rw [← hwritten, Text.Writer.text_lines_of_level_zero rfl, String.empty_append]
  rw [Text.unlines_append, Text.unlines_append, ← htext]
  cases args with
  | nil =>
    rw [List.isEmpty_nil, if_pos rfl, Text.Writer.text_lines_of_level_zero hlevel]
    simp [script]
  | cons arg args =>
    have hblank : written.blank.text = written.text ++ "\n" := rfl
    rw [List.isEmpty_cons, if_neg Bool.false_ne_true,
      Text.Writer.text_lines_of_level_zero (w := written.blank) hlevel, hblank]
    simp [script]

theorem core_eq_script (a : Assembler) (op : Operation) (g : Group) (e : Example) :
    (a.core op g e).value = (a.script? op g e).map Script.text := by
  unfold core script?
  cases op.arguments e with
  | error missing => rfl
  | ok args =>
    simp only [Noted.value_bind, Noted.value_pure, Noted.value_mapM, statements_eq]
    rfl

theorem script?_eq (a : Assembler) (op : Operation) (g : Group) (e : Example) :
    a.script? op g e =
      if op.parameters.any (op.lacks e) then none
      else some (a.script op g (op.parameters.filterMap (op.argument? e))) := by
  rw [script?, Operation.toOption_arguments]
  split <;> rfl

theorem script?_of_complete {op : Operation} {e : Example}
    (h : op.parameters.any (op.lacks e) = false) (a : Assembler) (g : Group) :
    a.script? op g e = some (a.script op g (op.parameters.filterMap (op.argument? e))) := by
  rw [script?_eq, h, if_neg Bool.false_ne_true]

end Assembler

end ApiSamples
