import ApiSamples.Sample.Assembly

namespace ApiSamples

structure Call where
  operation : Operation
  group : Group
  recorded : Example

def Operation.calls (op : Operation) (g : Group) : List Call := op.examples.map fun e => ⟨op, g, e⟩

namespace Assembler

def coreOf (a : Assembler) (c : Call) : Option String :=
  (a.core c.operation c.group c.recorded).value

def survives (a : Assembler) (c : Call) : Bool := (a.coreOf c).isSome

def assembled (a : Assembler) (mode : Mode) (c : Call) : Option String :=
  (a.assemble mode c.operation c.group c.recorded).value

/-- Statements in braces one level deep, with nothing around them. -/
def braced (core : String) : String :=
  "  \x7b\n" ++ Text.indentLines "    " (Text.trimEnd core) ++ "  \x7d\n"

def closing : String := "\x7d\n"

def programText (a : Assembler) (cores : List String) : String :=
  a.prelude ++ String.join (cores.map braced) ++ closing

theorem block_eq (a : Assembler) (core : String) (first last : Bool) :
    a.block core first last =
      (if first then a.prelude else "") ++ braced core ++ (if last then closing else "") := by
  have opening : Text.indentLines "  " "\x7b" = "  \x7b\n" := by decide
  have inner : Text.indentLines "  " "\x7d" = "  \x7d\n" := by decide
  have outer : Text.indentLines "" "\x7d" = closing := by decide
  cases first <;> cases last <;>
    simp [block, braced, Text.Writer.line, Text.Writer.indent, Text.Writer.outdent,
      Text.Writer.raw, Text.repeated, opening, inner, outer, String.append_assoc]

theorem assemble_value (a : Assembler) (mode : Mode) (op : Operation) (g : Group) (e : Example) :
    (a.assemble mode op g e).value =
      (a.core op g e).value.map fun core => a.surround op g e core mode := rfl

theorem assembled_eq (a : Assembler) (mode : Mode) (c : Call) :
    a.assembled mode c =
      (a.coreOf c).map fun core => a.surround c.operation c.group c.recorded core mode := rfl

theorem assembled_block (a : Assembler) (first last : Bool) (c : Call) :
    a.assembled (.block first last) c = (a.coreOf c).map fun core =>
      (if first then a.prelude else "") ++ braced core ++ (if last then closing else "") := by
  simp only [assembled_eq, surround, block_eq]

/-- Only the last of the blocks closes. -/
theorem join_braced (cores : List String) :
    String.join (cores.mapIdx fun i core =>
      braced core ++ if i + 1 = cores.length then closing else "") =
      String.join (cores.map braced) ++ if cores = [] then "" else closing := by
  induction cores with
  | nil => simp
  | cons core cores ih =>
    simp only [List.mapIdx_cons, String.join_cons, List.length_cons, Nat.add_right_cancel_iff,
      List.map_cons, ih]
    cases cores <;> simp [String.append_assoc]

theorem join_blocks (a : Assembler) (cores : List String) (h : cores ≠ []) :
    String.join (cores.mapIdx fun i core => a.block core (i == 0) (i + 1 == cores.length)) =
      a.programText cores := by
  cases cores with
  | nil => exact absurd rfl h
  | cons core cores =>
    have hrest := join_braced cores
    simp only [List.mapIdx_cons, String.join_cons, List.length_cons, block_eq, beq_iff_eq,
      Nat.add_right_cancel_iff, Nat.succ_ne_zero, if_false, String.empty_append, hrest]
    cases cores <;> simp [programText, String.append_assoc]

theorem map_coreOf_filter (a : Assembler) (calls : List Call) :
    (calls.filter a.survives).map a.coreOf = (calls.filterMap a.coreOf).map some := by
  induction calls with
  | nil => rfl
  | cons c calls ih =>
    cases h : a.coreOf c with
    | none => simp [survives, h, ih]
    | some core => simp [survives, h, ih]

end Assembler

open Assembler

namespace Program

def ofCores (a : Assembler) (cores : List String) : Program :=
  { text := if cores.isEmpty then "" else a.prelude ++ String.join (cores.map braced)
    blocks := cores.length }

def pushEach (p : Program) (a : Assembler) : List Call → Noted (Program × List Bool)
  | [] => return (p, [])
  | c :: calls => do
    let (p, pushed) ← p.push a c.operation c.group c.recorded
    let (p, answers) ← p.pushEach a calls
    return (p, pushed :: answers)

def batch (a : Assembler) (calls : List Call) : Program := (({} : Program).pushEach a calls).value.1

def answers (a : Assembler) (calls : List Call) : List Bool :=
  (({} : Program).pushEach a calls).value.2

theorem push_eq (p : Program) (a : Assembler) (c : Call) :
    (p.push a c.operation c.group c.recorded).value =
      match a.assembled (.block (p.blocks == 0) false) c with
      | some block => ({ text := p.text ++ block, blocks := p.blocks + 1 }, true)
      | none => (p, false) := by
  simp only [push, Noted.value_bind, assembled]
  cases (a.assemble (.block (p.blocks == 0) false) c.operation c.group c.recorded).value <;> rfl

theorem push_ofCores (a : Assembler) (cores : List String) (c : Call) :
    ((ofCores a cores).push a c.operation c.group c.recorded).value =
      (ofCores a (cores ++ (a.coreOf c).toList), a.survives c) := by
  rw [push_eq, assembled_block]
  cases h : a.coreOf c with
  | none => simp [survives, h]
  | some core => cases cores <;> simp [survives, h, ofCores, String.append_assoc]

/-- The invariant of a batch: the program is the one of the samples so far. -/
theorem pushEach_ofCores (a : Assembler) (cores : List String) (calls : List Call) :
    ((ofCores a cores).pushEach a calls).value =
      (ofCores a (cores ++ calls.filterMap a.coreOf), calls.map a.survives) := by
  induction calls generalizing cores with
  | nil => simp [pushEach]
  | cons c calls ih =>
    simp only [pushEach, Noted.value_bind, Noted.value_pure, push_ofCores, ih]
    cases h : a.coreOf c <;> simp [h]

theorem batch_eq (a : Assembler) (calls : List Call) :
    batch a calls = ofCores a (calls.filterMap a.coreOf) := by
  have h := pushEach_ofCores a [] calls
  exact congrArg Prod.fst h

theorem answers_eq (a : Assembler) (calls : List Call) : answers a calls = calls.map a.survives := by
  have h := pushEach_ofCores a [] calls
  exact congrArg Prod.snd h

theorem count_answers (a : Assembler) (calls : List Call) :
    (answers a calls).count false = calls.countP fun c => !a.survives c := by
  rw [answers_eq, List.count_eq_countP, List.countP_map]
  refine List.countP_congr fun c _ => ?_
  cases h : a.survives c <;> simp [h]

theorem blocks_batch (a : Assembler) (calls : List Call) :
    (batch a calls).blocks = calls.countP a.survives := by
  rw [batch_eq, List.countP_eq_length_filter]
  have hlength := congrArg List.length (a.map_coreOf_filter calls)
  simpa only [List.length_map, ofCores] using hlength.symm

theorem pushAll_eq_pushEach (p : Program) (a : Assembler) (op : Operation) (g : Group)
    (examples : List Example) :
    (p.pushAll a op g examples).value =
      (((p.pushEach a (examples.map fun e => ⟨op, g, e⟩)).value.1,
        (p.pushEach a (examples.map fun e => ⟨op, g, e⟩)).value.2.count false)) := by
  induction examples generalizing p with
  | nil => rfl
  | cons e examples ih =>
    simp only [pushAll, List.map_cons, pushEach, Noted.value_bind, Noted.value_pure, ih]
    cases (p.push a op g e).value.2 <;> simp

theorem finish_ofCores (a : Assembler) (cores : List String) :
    (ofCores a cores).finish = if cores = [] then none else some (a.programText cores) := by
  cases cores <;> simp [finish, ofCores, programText, closing]

theorem finish_batch (a : Assembler) (calls : List Call) :
    (batch a calls).finish = if calls.filterMap a.coreOf = [] then none
      else some (a.programText (calls.filterMap a.coreOf)) := by
  rw [batch_eq, finish_ofCores]

theorem finish_batch_insert (a : Assembler) (before inserted after : List Call)
    (h : ∀ c ∈ inserted, a.coreOf c = none) :
    (batch a (before ++ inserted ++ after)).finish = (batch a (before ++ after)).finish := by
  have hi : inserted.filterMap a.coreOf = [] := List.filterMap_eq_nil_iff.mpr h
  simp only [finish_batch, List.filterMap_append, hi, List.append_nil]

theorem finish_batch_standalone (a : Assembler) (calls : List Call) (c : Call)
    (h : calls.filter a.survives = [c]) : (batch a calls).finish = a.assembled .standalone c := by
  have hm := a.map_coreOf_filter calls
  rw [h, List.map_singleton] at hm
  obtain ⟨core, hc, hcore⟩ := List.map_eq_singleton_iff.mp hm.symm
  rw [finish_batch, hc, assembled_eq, ← hcore]
  simp [surround, block_eq, programText]

/-- Survivors that are assembled one by one, the first with the prelude and the last with the closing
line, give the blocks of the program. -/
theorem mapIdx_assembled (a : Assembler) (calls : List Call) (n : Nat) :
    (calls.filter a.survives).mapIdx (fun i c => a.assembled (.block (i == 0) (i + 1 == n)) c) =
      ((calls.filterMap a.coreOf).mapIdx fun i core => a.block core (i == 0) (i + 1 == n)).map
        some := by
  have h := a.map_coreOf_filter calls
  apply List.ext_getElem?
  intro i
  have hi := congrArg (fun l => l[i]?) h
  simp only [List.getElem?_map] at hi
  simp only [List.getElem?_mapIdx, List.getElem?_map]
  cases hc : (calls.filter a.survives)[i]? <;> cases hf : (calls.filterMap a.coreOf)[i]? <;>
    simp_all [assembled_eq, surround]

/-- Pushing is told by the statements of the calls alone. The text is the prelude, a block for each
call that gives a sample and one closing line; it is also what the same samples give when they are
assembled one by one, and calls without a sample change nothing in it, wherever they stand. -/
theorem batch_survivors (a : Assembler) (calls : List Call) :
    answers a calls = calls.map (fun c => (a.coreOf c).isSome) ∧
    (batch a calls).blocks = (calls.filter a.survives).length ∧
    ((batch a calls).finish = none ↔ ∀ c ∈ calls, a.coreOf c = none) ∧
    (∀ c, a.assembled (.block false false) c = (a.coreOf c).map braced) ∧
    ((∃ c ∈ calls, a.coreOf c ≠ none) → (batch a calls).finish = some
      (a.prelude ++ String.join ((calls.filterMap a.coreOf).map braced) ++ "\x7d\n")) ∧
    ((∃ c ∈ calls, a.coreOf c ≠ none) → ∃ blocks : List String,
      (calls.filter a.survives).mapIdx (fun i c => a.assembled
        (.block (i == 0) (i + 1 == (calls.filter a.survives).length)) c) = blocks.map some ∧
      (batch a calls).finish = some (String.join blocks)) ∧
    (∀ c, calls.filter a.survives = [c] →
      (batch a calls).finish = a.assembled .standalone c) ∧
    (∀ before inserted after : List Call, calls = before ++ inserted ++ after →
      (∀ c ∈ inserted, a.coreOf c = none) →
      (batch a calls).finish = (batch a (before ++ after)).finish) := by
  have hlen : (calls.filter a.survives).length = (calls.filterMap a.coreOf).length := by
    simpa only [List.length_map] using congrArg List.length (a.map_coreOf_filter calls)
  have hfinish : (∃ c ∈ calls, a.coreOf c ≠ none) → calls.filterMap a.coreOf ≠ [] := by
    rintro ⟨c, hc, hs⟩ h
    exact hs (List.filterMap_eq_nil_iff.mp h c hc)
  refine ⟨answers_eq a calls, ?_, ?_, ?_, ?_, ?_, finish_batch_standalone a calls, ?_⟩
  · rw [batch_eq, hlen]
    rfl
  · rw [finish_batch, ← List.filterMap_eq_nil_iff]
    split <;> simp_all
  · intro c
    simp [assembled_block]
  · intro h
    rw [finish_batch, if_neg (hfinish h)]
    rfl
  · intro h
    refine ⟨_, mapIdx_assembled a calls _, ?_⟩
    rw [finish_batch, if_neg (hfinish h), hlen, join_blocks a _ (hfinish h)]
  · rintro before inserted after rfl h
    exact finish_batch_insert a before inserted after h

end Program

end ApiSamples
