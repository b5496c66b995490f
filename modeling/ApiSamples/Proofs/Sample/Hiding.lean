import ApiSamples.Proofs.Sample.Variables

namespace ApiSamples

namespace Sample

variable {op : Operation} {arguments : List String} {name : String}

theorem resultBinding_eq_iff (hreserved : name ∉ reservedNames)
    (hsuffix : ¬ "Result".toList <:+ name.toList) :
    resultBinding op arguments = name ↔ bindingBase op = name ∧ name ∉ arguments := by
  obtain ⟨n, -, hname, hbefore, hfree⟩ := resultBinding_eq op arguments
  have hnot : ∀ base i, extended base (i + 1) ≠ name := by
    intro base i h
    exact hsuffix (h ▸ suffix_toList_append _ _)
  have htaken : isTaken arguments name = true ↔ name ∈ arguments := by
    simp [isTaken, hreserved]
  rw [hname]
  cases n with
  | zero =>
    change bindingBase op = name ↔ _
    constructor
    · intro h
      refine ⟨h, fun hmem => ?_⟩
      rw [extended, h, htaken.mpr hmem] at hfree
      cases hfree
    · exact And.left
  | succ n =>
    constructor
    · intro h
      exact absurd h (hnot _ n)
    · rintro ⟨hbase, hmem⟩
      have hfirst := hbefore 0 (Nat.succ_pos n)
      rw [extended, hbase, htaken] at hfirst
      exact absurd hfirst hmem

theorem bindingBase_eq_iff (hsuffix : ¬ "Result".toList <:+ name.toList) :
    bindingBase op = name ↔
      ∃ type, op.returns.body.or op.returns.headers = some type ∧ Text.camel type = name := by
  unfold bindingBase
  cases op.returns.body.or op.returns.headers with
  | some type => simp
  | none =>
    have hne : op.name ++ "Result" ≠ name := by
      rintro rfl
      exact hsuffix (suffix_toList_append _ _)
    simp [hne]

theorem mem_map_argumentVariable_iff {names : List String} (hreserved : name ∉ reservedNames)
    (hrenamed : ∀ r ∈ reservedNames, name ≠ r ++ "Arg") :
    name ∈ names.map argumentVariable ↔ name ∈ names := by
  constructor
  · intro h
    obtain ⟨other, ho, hsame⟩ := List.mem_map.mp h
    rw [← argumentVariable_of_not_mem hreserved, argumentVariable_eq_iff] at hsame
    obtain heq | ⟨hr, heq⟩ | ⟨hr, -⟩ := hsame
    · exact heq ▸ ho
    · exact absurd heq (hrenamed other hr)
    · exact absurd hr hreserved
  · intro h
    exact List.mem_map.mpr ⟨name, h, argumentVariable_of_not_mem hreserved⟩

end Sample

namespace Script

def freeNames : List String := [Sample.clientInstance, "console"]

/-- No declaration of the sample hides what its own statements refer to. -/
def HidesNothing (s : Script) : Prop := ∀ name ∈ freeNames, name ∉ s.identifiers

end Script

namespace Assembler

variable {a : Assembler} {op : Operation} {g : Group} {e : Example} {s : Script}

theorem callee_through_client (h : a.script? op g e = some s) :
    ∃ path, s.callee = Sample.clientInstance ++ "." ++ path := by
  obtain ⟨args, -, rfl⟩ := Option.map_eq_some_iff.mp h
  change ∃ path, receiver g ++ "." ++ op.name = _
  unfold receiver
  split
  · exact ⟨op.name, rfl⟩
  · refine ⟨Text.camel g.name ++ "." ++ op.name, ?_⟩
    simp only [String.append_assoc]

theorem console_mem_identifiers_iff (h : a.script? op g e = some s) :
    "console" ∈ s.identifiers ↔ "console" ∈ op.resolvedNames e ∨
      ∃ type, op.returns.body.or op.returns.headers = some type ∧ Text.camel type = "console" := by
  have hreserved : "console" ∉ Sample.reservedNames := by decide
  have hsuffix : ¬ "Result".toList <:+ "console".toList := by decide
  have hrenamed : ∀ r ∈ Sample.reservedNames, "console" ≠ r ++ "Arg" := by decide
  rw [identifiers_of_script? h, List.mem_append, List.mem_singleton, eq_comm, binding_of_script? h,
    Sample.resultBinding_eq_iff hreserved hsuffix, Sample.bindingBase_eq_iff hsuffix,
    arguments_eq_resolvedNames h, Sample.mem_map_argumentVariable_iff hreserved hrenamed]
  by_cases hmem : "console" ∈ op.resolvedNames e
  · simp [hmem]
  · simp [hmem]

/-- Every call goes through the client, and no variable hides it. The console is hidden exactly if a parameter
with a value is called `console` or the type that the operation returns is `console` in camel case. -/
theorem hides_nothing_iff (a : Assembler) (op : Operation) (g : Group) (e : Example) (text : String)
    (h : (a.core op g e).value = some text) :
    ∃ s, a.script? op g e = some s ∧ text = s.text ∧
      (∃ path, s.callee = Sample.clientInstance ++ "." ++ path) ∧
      Sample.clientInstance ∉ s.identifiers ∧
      (s.HidesNothing ↔ "console" ∉ op.resolvedNames e ∧
        ∀ type, op.returns.body.or op.returns.headers = some type → Text.camel type ≠ "console") := by
  rw [core_eq_script] at h
  obtain ⟨s, hs, rfl⟩ := Option.map_eq_some_iff.mp h
  have hclient : Sample.clientInstance ∉ s.identifiers :=
    fun hmem => identifiers_not_reserved hs _ hmem (by decide)
  refine ⟨s, hs, rfl, callee_through_client hs, hclient, ?_⟩
  have hconsole := console_mem_identifiers_iff hs
  simp only [Script.HidesNothing, Script.freeNames, List.forall_mem_cons, hclient, hconsole]
  simp

example : Sample.resultBinding { name := "get", returns := { body := some "Console" } } [] = "console" := by
  decide

theorem client_hides_nothing :
    ∃ s, plain.script? (requiring ["client"]) {} (giving ["client"]) = some s ∧
      (plain.core (requiring ["client"]) {} (giving ["client"])).value = some s.text ∧
      s.identifiers = ["clientArg", "getResult"] ∧ s.HidesNothing := by
  have hcore := core_eq_script plain (requiring ["client"]) {} (giving ["client"])
  rw [script?_of_complete rfl] at hcore
  obtain ⟨s, hs, htext, -, -, hhides⟩ :=
    hides_nothing_iff plain (requiring ["client"]) {} (giving ["client"]) _ hcore
  have hidentifiers : s.identifiers = ["clientArg", "getResult"] := by
    rw [script?_of_complete rfl] at hs
    obtain rfl := Option.some.inj hs
    rfl
  refine ⟨s, hs, htext ▸ hcore, hidentifiers, hhides.mpr ⟨by decide, fun type htype => ?_⟩⟩
  cases htype

/-- A parameter called `console` keeps its name, and the log goes through its value. -/
theorem not_hidesNothing_console :
    ∃ s, plain.script? (requiring ["console"]) {} (giving ["console"]) = some s ∧
      s.identifiers = ["console", "getResult"] ∧ s.log = "console.log(getResult);" ∧ ¬ s.HidesNothing := by
  refine ⟨_, script?_of_complete rfl plain {}, rfl, rfl, fun hhides => ?_⟩
  exact hhides "console" (by decide) (by decide)

end Assembler

end ApiSamples
