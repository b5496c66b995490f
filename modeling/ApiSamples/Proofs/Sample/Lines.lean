import ApiSamples.Proofs.Literal.Lines
import ApiSamples.Proofs.Sample.Names
import ApiSamples.Proofs.Sample.Script
import ApiSamples.Proofs.Text.Casing

namespace ApiSamples

open Text

/-- No name that the statements of the operation take over has a line feed in it. -/
structure Unbroken (a : Assembler) (op : Operation) : Prop where
  operation : '\n' ∉ op.name.toList
  parameters : ∀ p ∈ op.parameters, '\n' ∉ p.name.toList
  types : ∀ p ∈ op.parameters, ∀ name, p.type = .composite name → '\n' ∉ name.toList
  enumerations : ∀ e ∈ a.scope.model.enumerations, '\n' ∉ e.className.toList
  modelsNamespace : '\n' ∉ a.scope.modelsNamespace.toList

namespace Sample

theorem feed_not_mem_argumentVariable {name : String} (h : '\n' ∉ name.toList) :
    '\n' ∉ (argumentVariable name).toList := by
  unfold argumentVariable
  split
  · simp [h]
  · exact h

theorem feed_not_mem_camelChars (cs : List Char) : '\n' ∉ camelChars cs := by
  intro h
  have hpart := isNamePart_of_mem_camelChars h
  revert hpart
  decide

theorem feed_not_mem_extended {name : String} (h : '\n' ∉ name.toList) (n : Nat) :
    '\n' ∉ (extended name n).toList := by
  induction n with
  | zero => exact h
  | succ n ih => simp [extended, ih]

theorem feed_not_mem_resultBinding {op : Operation} (h : '\n' ∉ op.name.toList)
    (arguments : List String) : '\n' ∉ (resultBinding op arguments).toList := by
  obtain ⟨n, -, hname, -⟩ := resultBinding_eq op arguments
  rw [hname]
  apply feed_not_mem_extended
  unfold bindingBase
  split
  · rw [toList_camel]
    exact feed_not_mem_camelChars _
  · simp [h]

end Sample

namespace Assembler

variable {a : Assembler} {op : Operation}

theorem feed_not_mem_annotation (hn : Unbroken a op) {p : Field} (hp : p ∈ op.parameters)
    {text : String} (h : a.annotation p.type = text) : '\n' ∉ text.toList := by
  subst h
  have hnamespace : ∀ name, '\n' ∉ (a.typeNamespace name).toList := by
    intro name
    unfold typeNamespace
    split
    · decide
    · exact hn.modelsNamespace
  have htypes := hn.types p hp
  cases htype : p.type with
  | composite name => simp [hnamespace name, htypes name htype, annotation]
  | _ => simp [ annotation]

theorem tidy_declaration (hn : Unbroken a op) {arg : Argument} (harg : arg.parameter ∈ op.parameters) :
    Tidy (a.variableOf arg).declaration.toList := by
  have hname := Sample.feed_not_mem_argumentVariable (hn.parameters _ harg)
  have hannotation := feed_not_mem_annotation hn harg rfl
  have hlead : Tidy ("const " ++ Sample.argumentVariable arg.parameter.name ++
      a.annotation arg.parameter.type ++ " = ").toList := by
    have hequals : " = ".toList = [' ', '=', ' '] := rfl
    refine tidy_of_feed_not_mem ?_ ?_
    · simp [hname, hannotation]
    · rw [String.toList_append, hequals, List.getLast?_append_of_ne_nil _ (by simp)]
      decide
  have hliteral := Scope.tidy_synthesize hn.modelsNamespace hn.enumerations arg.parameter.type
    arg.resolved.value 0
  have hend : Printed ";".toList := by decide
  rw [Variable.declaration, String.toList_append, String.toList_append]
  exact (hlead.append hliteral).append hend.tidy

theorem getLast?_statement (s : String) : (s ++ ");").toList.getLast? = some ';' := by
  have hend : ");".toList = [')', ';'] := rfl
  rw [String.toList_append, hend, List.getLast?_append_of_ne_nil _ (by simp)]
  rfl

theorem tidy_statement {s : String} (h : '\n' ∉ (s ++ ");").toList) : Tidy (s ++ ");").toList := by
  apply tidy_of_feed_not_mem h
  rw [getLast?_statement]
  decide

theorem lines_eq_concat (s : Script) : ∃ front, s.lines = front ++ [s.log] := by
  refine ⟨s.declared.map Variable.declaration ++ (if s.declared.isEmpty then [] else [""]) ++ [s.call], ?_⟩
  rw [Script.lines, List.append_assoc _ [s.call]]
  rfl

theorem splitLines_script (s : Script) : splitLines (trimEnd s.text) = closedLines s.text := by
  obtain ⟨front, hfront⟩ := lines_eq_concat s
  rw [Script.text, hfront]
  exact splitLines_trimEnd (getLast?_statement _) (by decide)

section

variable (hn : Unbroken a op) (g : Group) {args : List Argument}
  (hargs : ∀ arg ∈ args, arg.parameter ∈ op.parameters)

include hn

theorem feed_not_mem_log : '\n' ∉ (a.script op g args).log.toList := by
  have hbinding := Sample.feed_not_mem_resultBinding hn.operation (argumentNames args)
  simp [Script.log, script, binding, hbinding]

include hargs

theorem feed_not_mem_call : '\n' ∉ (a.script op g args).call.toList := by
  have hbinding := Sample.feed_not_mem_resultBinding hn.operation (argumentNames args)
  have hcallee : '\n' ∉ (callee op g).toList := by
    have hcamel := Sample.feed_not_mem_camelChars g.name.toList
    unfold callee receiver
    split
    · simp [Sample.clientInstance, hn.operation]
    · simp [Sample.clientInstance, hcamel, hn.operation]
  have hnames : ∀ name ∈ (argumentNames args).map String.toList, '\n' ∉ name := by
    intro name hname
    obtain ⟨_, hmem, rfl⟩ := List.mem_map.mp hname
    obtain ⟨arg, harg, rfl⟩ := List.mem_map.mp hmem
    exact Sample.feed_not_mem_argumentVariable (hn.parameters _ (hargs arg harg))
  have hlist : '\n' ∉ [',', ' '].intercalate ((argumentNames args).map String.toList) :=
    not_mem_intercalate (by decide) hnames
  simp [Script.call, script, binding, hbinding, hcallee, hlist]

theorem tidy_of_mem_lines {statement : String} (h : statement ∈ (a.script op g args).lines) :
    statement = "" ∨ Tidy statement.toList ∧ ∃ cs, statement.toList = 'c' :: cs := by
  simp only [Script.lines, List.mem_append, List.mem_cons, List.not_mem_nil, or_false] at h
  rcases h with (hdeclared | hblank) | rfl | rfl
  · obtain ⟨v, hv, rfl⟩ := List.mem_map.mp hdeclared
    obtain ⟨arg, harg, rfl⟩ := List.mem_map.mp hv
    refine .inr ⟨tidy_declaration hn (hargs arg harg), ?_⟩
    simp only [Variable.declaration, String.toList_append]
    exact ⟨_, rfl⟩
  · split at hblank
    · cases hblank
    · exact .inl (List.mem_singleton.mp hblank)
  · refine .inr ⟨tidy_statement (feed_not_mem_call hn g hargs), ?_⟩
    simp only [Script.call, String.toList_append]
    exact ⟨_, rfl⟩
  · refine .inr ⟨tidy_statement (feed_not_mem_log hn g), ?_⟩
    simp only [Script.log, String.toList_append]
    exact ⟨_, rfl⟩

theorem line_of_mem_closedLines {line : String} (h : line ∈ closedLines (a.script op g args).text) :
    (∀ c, line.toList.head? = some c → c ∈ lineStarts) ∧ line.toList.getLast? ≠ some '\r' := by
  rw [Script.text, closedLines_unlines] at h
  obtain ⟨statement, hmem, hline⟩ := List.mem_flatMap.mp h
  rcases tidy_of_mem_lines hn g hargs hmem with rfl | ⟨htidy, cs, hcs⟩
  · obtain rfl := List.mem_singleton.mp hline
    simp
  · exact htidy.line hcs (by decide) hline

theorem lines_script :
    Text.lines (trimEnd (a.script op g args).text) = closedLines (a.script op g args).text := by
  have hsplit := splitLines_script (a.script op g args)
  rw [← hsplit]
  apply lines_eq_splitLines
  · obtain ⟨front, hfront⟩ := lines_eq_concat (a.script op g args)
    rw [hsplit, Script.text, hfront, getLast?_closedLines (feed_not_mem_log hn g)]
    intro hempty
    have hlast := getLast?_statement ("console.log(" ++ (a.script op g args).binding)
    rw [← Script.log, Option.some.inj hempty] at hlast
    cases hlast
  · intro line hline
    rw [hsplit] at hline
    exact (line_of_mem_closedLines hn g hargs hline).2

end

end Assembler

end ApiSamples
