import ApiSamples.Proofs.Literal.Traversal
import ApiSamples.Proofs.Sample.Script

namespace ApiSamples.Assembler

def declarationBy (a : Assembler) (write : TypeExpr → Json → Noted Literal) (arg : Argument) :
    Noted String := do
  let literal ← write arg.parameter.type arg.resolved.value
  return Variable.declaration
    ⟨Sample.argumentVariable arg.parameter.name, a.annotation arg.parameter.type, literal.text 0⟩

/-- The statements of a sample whose literals are written by `write`. -/
def coreBy (a : Assembler) (write : TypeExpr → Json → Noted Literal) (op : Operation) (g : Group)
    (e : Example) : Noted (Option String) :=
  match op.arguments e with
  | .error missing => do
    Noted.report (.missingParameter op.name missing)
    Noted.warn (.suppressed op.name e.name)
    return none
  | .ok args => do
    return some (statements op g args (← args.mapM (a.declarationBy write)))

variable {a : Assembler} {op : Operation} {g : Group} {e : Example}

theorem coreBy_synthesize (a : Assembler) (op : Operation) (g : Group) (e : Example) :
    a.coreBy a.scope.synthesize op g e = a.core op g e := rfl

theorem coreBy_congr {write other : TypeExpr → Json → Noted Literal}
    (h : ∀ args, op.arguments e = .ok args → ∀ arg ∈ args,
      write arg.parameter.type arg.resolved.value = other arg.parameter.type arg.resolved.value) :
    a.coreBy write op g e = a.coreBy other op g e := by
  unfold coreBy
  cases hargs : op.arguments e with
  | error missing => rfl
  | ok args =>
    have hdeclarations : ∀ arg ∈ args, a.declarationBy write arg = a.declarationBy other arg := by
      intro arg harg
      rw [declarationBy, declarationBy, h args hargs arg harg]
    dsimp only
    rw [Noted.mapM_congr hdeclarations]

theorem resolves_of_arguments {m : CodeModel} (hm : m.Sound) (hop : (g, op) ∈ m.operations)
    {args : List Argument} (hargs : op.arguments e = .ok args) :
    ∀ arg ∈ args, m.Resolves arg.parameter.type := by
  intro arg harg
  have hsome : (op.arguments e).toOption = some args := by
    rw [hargs]
    rfl
  exact hm.parameter_types (g, op) hop _ (Operation.parameter_mem_of_arguments hsome arg harg)

/-- Every composite and every enumeration that the literals of a sample come to, at whatever depth, is in
the accepted model. So the statements are the same whatever would stand for values of unknown types. -/
theorem core_meets_declared (m : CodeModel) (s : Settings) (hm : m.validate.value = .ok ()) (g : Group)
    (op : Operation) (hop : (g, op) ∈ m.operations) (e : Example) :
    (∀ args, op.arguments e = .ok args → ∀ arg ∈ args, ∀ type value,
      (ofModel m s).scope.Reaches (arg.parameter.type, arg.resolved.value) (type, value) →
      (∀ name, type = .composite name → (m.composite? name).isSome = true) ∧
      (∀ name, type = .enum name → (m.enumeration? name).isSome = true)) ∧
    ∀ unknown : TypeExpr → Json → Noted Literal,
      (ofModel m s).coreBy ((ofModel m s).scope.synthesizeWith unknown) op g e =
        (ofModel m s).core op g e := by
  have hsound : (ofModel m s).scope.model.Sound := CodeModel.sound_iff_validate.mp hm
  constructor
  · intro args hargs arg harg type value hreach
    have hresolves : m.Resolves type :=
      Scope.resolves_of_reaches hsound hreach (resolves_of_arguments hsound hop hargs arg harg)
    constructor
    · rintro name rfl
      exact hresolves.isSome_composite?
    · rintro name rfl
      exact hresolves.isSome_enumeration?
  · intro unknown
    rw [← coreBy_synthesize]
    refine coreBy_congr fun args hargs arg harg => ?_
    exact Scope.synthesizeWith_of_sound hsound unknown (resolves_of_arguments hsound hop hargs arg harg) _

def putNode : Operation := { name := "put", parameters := [.plain "node" (.composite "Node") true] }

def nodes : CodeModel :=
  { name := "C"
    family := .typeScript
    composites := [{
      className := "Node"
      properties := [.plain "children" (.sequence (.composite "Node")) false] }]
    groups := [{ operations := [putNode] }] }

def parent : Json := .object [("children", .array [.object []])]

theorem nodes_meet_declared :
    nodes.validate.value = .ok () ∧ ({ operations := [putNode] }, putNode) ∈ nodes.operations ∧
    (ofModel nodes {}).scope.Reaches (.composite "Node", parent) (.composite "Node", .object []) ∧
    (nodes.composite? "Node").isSome = true ∧
    ∀ unknown : TypeExpr → Json → Noted Literal,
      (ofModel nodes {}).coreBy ((ofModel nodes {}).scope.synthesizeWith unknown) putNode
          { operations := [putNode] } { name := "e", parameters := [("node", parent)] } =
        (ofModel nodes {}).core putNode { operations := [putNode] }
          { name := "e", parameters := [("node", parent)] } := by
  have hvalid : nodes.validate.value = .ok () := by decide +kernel
  have hmem : ({ operations := [putNode] }, putNode) ∈ nodes.operations := List.mem_singleton.mpr rfl
  have hargs : putNode.arguments { name := "e", parameters := [("node", parent)] } =
      .ok [⟨.plain "node" (.composite "Node") true, ⟨parent, .direct⟩⟩] := rfl
  have hchildren : (ofModel nodes {}).scope.Leads (.composite "Node", parent)
      (.sequence (.composite "Node"), .array [.object []]) :=
    .property (p := .plain "children" (.sequence (.composite "Node")) false) rfl rfl
      (List.mem_singleton.mpr rfl) rfl
  have hchild : (ofModel nodes {}).scope.Leads (.sequence (.composite "Node"), .array [.object []])
      (.composite "Node", .object []) := .item (List.mem_singleton.mpr rfl)
  have hreach := Relation.ReflTransGen.head hchildren (.single hchild)
  obtain ⟨hmet, hopen⟩ := core_meets_declared nodes {} hvalid { operations := [putNode] } putNode hmem
    { name := "e", parameters := [("node", parent)] }
  have hnode := (hmet _ hargs _ (List.mem_singleton.mpr rfl) _ _ hreach).1 "Node" rfl
  exact ⟨hvalid, hmem, hreach, hnode, hopen⟩

end ApiSamples.Assembler
