import ApiSamples.Output.Generation
import ApiSamples.Proofs.Files.Path
import ApiSamples.Proofs.Sample.Batching
import Mathlib.Data.List.ReduceOption

namespace ApiSamples

open Assembler

namespace Text.Writer

theorem prefix_line (w : Writer) (text : String) : w.text.toList <+: (w.line text).text.toList := by
  simp [line, raw]

theorem prefix_lines (w : Writer) (texts : List String) :
    w.text.toList <+: (w.lines texts).text.toList := by
  induction texts generalizing w with
  | nil => exact List.prefix_refl _
  | cons text texts ih => exact (w.prefix_line text).trans (ih (w.line text))

theorem prefix_blank (w : Writer) : w.text.toList <+: w.blank.text.toList := by
  simp [blank, raw]

theorem line_opens {text : String} (h : "//".toList <+: text.toList) :
    "//".toList <+: (({} : Writer).line text).text.toList := by
  have hslashes : "//".toList = ['/', '/'] := rfl
  obtain ⟨rest, hr⟩ := h
  obtain ⟨piece, more, hp⟩ := List.exists_cons_of_ne_nil (pieces_ne_nil (· == '\n') rest)
  have hsplit : splitLines text = String.ofList ('/' :: '/' :: piece) :: more.map String.ofList := by
    simp [splitLines, splitChars, ← hr, hslashes, pieces, hp]
  simp [line, raw, repeated, indentLines, hsplit, String.join_cons, indentLine, hslashes]

theorem lines_blank_lines_opens {first : String} (h : "//".toList <+: first.toList)
    (top entry setup : List String) :
    "//".toList <+:
      (((({} : Writer).lines (first :: top)).blank.lines entry).indent.lines setup).text.toList := by
  have hfirst := line_opens h
  have htop := hfirst.trans (prefix_lines (({} : Writer).line first) top)
  have hblank := htop.trans (prefix_blank ((({} : Writer).line first).lines top))
  have hentry := hblank.trans (prefix_lines ((({} : Writer).line first).lines top).blank entry)
  exact hentry.trans
    (prefix_lines (((({} : Writer).line first).lines top).blank.lines entry).indent setup)

end Text.Writer

namespace Assembler

theorem prelude_opens (a : Assembler) : "//".toList <+: a.prelude.toList := by
  have hlead : "// npm install ".toList = "//".toList ++ " npm install ".toList := rfl
  have hinstall : "//".toList <+: ("// npm install " ++ a.settings.packageName ++ "@" ++
      a.settings.packageVersion ++ " ms-rest-js ms-rest-nodeauth").toList := by
    simp only [String.toList_append, hlead, List.append_assoc]
    exact List.prefix_append _ _
  exact Text.Writer.lines_blank_lines_opens hinstall _ _ _

theorem program_eq (a : Assembler) (op : Operation) (g : Group) :
    (a.program op g).value = (Program.batch a (op.calls g)).finish := by
  simp only [program, Noted.value_bind, Noted.value_pure, Program.pushAll_eq_pushEach, Program.batch,
    Operation.calls]

theorem program_opens {a : Assembler} {op : Operation} {g : Group} {text : String}
    (h : (a.program op g).value = some text) : "//".toList <+: text.toList := by
  rw [program_eq, Program.finish_batch] at h
  split at h
  · cases h
  · obtain rfl := Option.some.inj h
    rw [programText, String.toList_append, String.toList_append, List.append_assoc]
    exact a.prelude_opens.trans (List.prefix_append _ _)

theorem joined_opens {texts : List String} {opening : List Char} {text : String}
    (h : joined texts = some text) (hall : ∀ t ∈ texts, opening <+: t.toList) :
    opening <+: text.toList := by
  cases texts with
  | nil => cases h
  | cons t texts =>
    have ht := hall t (by simp)
    obtain rfl : "\n".intercalate (t :: texts) = text := Option.some.inj h
    cases texts with
    | nil => simpa using ht
    | cons u texts =>
      rw [String.toList_intercalate, List.map_cons, List.map_cons,
        List.intercalate_cons_cons, List.append_assoc]
      exact ht.trans (List.prefix_append _ _)

theorem assembled_inline_opens {a : Assembler} {c : Call} {text : String}
    (h : a.assembled .inline c = some text) : "/*".toList <+: text.toList := by
  rw [assembled_eq] at h
  obtain ⟨core, -, rfl⟩ := Option.map_eq_some_iff.mp h
  have hlead : "/**\n".toList = "/*".toList ++ "*\n".toList := rfl
  simp [surround, fragment, hlead]

theorem fragments_opens {a : Assembler} {op : Operation} {g : Group} {text : String}
    (h : (a.fragments op g).value = some text) : "/*".toList <+: text.toList := by
  simp only [fragments, Noted.value_bind, Noted.value_pure, Noted.value_mapM] at h
  refine joined_opens h fun t ht => ?_
  rw [List.reduceOption_mem_iff] at ht
  obtain ⟨e, -, he⟩ := List.mem_map.mp ht
  exact assembled_inline_opens (c := ⟨op, g, e⟩) he

def programs (a : Assembler) (ops : List (Group × Operation)) : List (FilePath × String) :=
  ops.filterMap fun (g, op) => (a.program op g).value.map fun content => (samplePath g op, content)

def file? (a : Assembler) (entry : Group × Operation) : Option SampleFile :=
  (a.program entry.2 entry.1).value.map fun content =>
    ⟨samplePath entry.1 entry.2, content, (entry.2.calls entry.1).countP a.survives⟩

def callsOf (ops : List (Group × Operation)) : List Call := ops.flatMap fun entry => entry.2.calls entry.1

theorem renderOperation_value (a : Assembler) (g : Group) (op : Operation) :
    (a.renderOperation g op).value =
      (a.file? (g, op), (op.calls g).countP fun c => !a.survives c) := by
  simp only [renderOperation, Noted.value_bind, Noted.value_pure, Program.pushAll_eq_pushEach, file?,
    program_eq, ← Program.count_answers, ← Program.blocks_batch]
  rfl

theorem renderOperations_value (a : Assembler) (ops : List (Group × Operation)) :
    (a.renderOperations ops).value =
      ⟨ops.filterMap a.file?, (callsOf ops).countP fun c => !a.survives c⟩ := by
  induction ops with
  | nil => rfl
  | cons entry ops ih =>
    obtain ⟨g, op⟩ := entry
    simp only [renderOperations, Noted.value_bind, Noted.value_pure, renderOperation_value, ih, callsOf,
      List.flatMap_cons, List.countP_append]
    cases h : a.file? (g, op) <;> simp [h]

theorem renderOperations_eq (a : Assembler) (ops : List (Group × Operation)) :
    (a.renderOperations ops).value.files.map (fun f => (f.path, f.content)) = a.programs ops := by
  rw [renderOperations_value, List.map_filterMap, programs]
  refine List.filterMap_congr fun entry _ => ?_
  rw [file?, Option.map_map]
  rfl

end Assembler

theorem isScript_samplePath (g : Group) (op : Operation) : (samplePath g op).IsScript :=
  (FilePath.isScript_mk op.name).join _

theorem isScript_fragmentsPath : fragmentsPath.IsScript := FilePath.isScript_mk "fragments"

namespace CodeModel

def programs (m : CodeModel) (s : Settings) : List (FilePath × String) :=
  (ofModel m s).programs m.operations

def fragmentsText (m : CodeModel) (s : Settings) : Option String :=
  joined (m.operations.map fun (g, op) => ((ofModel m s).fragments op g).value).reduceOption

/-- A model of operations without parameters, each of them called once and in a group of its own. -/
def ofCalls (calls : List (String × String)) : CodeModel :=
  { name := "C"
    family := .typeScript
    groups := calls.map fun (group, name) =>
      { name := group, operations := [{ name, examples := [{ name := "e" }] }] } }

def outputs (m : CodeModel) (s : Settings) : List (FilePath × String) :=
  m.programs s ++ ((m.fragmentsText s).map fun content => (fragmentsPath, content)).toList

variable {m : CodeModel} {s : Settings}

theorem isScript_of_mem_programs {e : FilePath × String} (he : e ∈ m.programs s) : e.1.IsScript := by
  obtain ⟨⟨g, op⟩, -, h⟩ := List.mem_filterMap.mp he
  obtain ⟨content, -, rfl⟩ := Option.map_eq_some_iff.mp h
  exact isScript_samplePath g op

theorem isScript_of_mem_outputs {e : FilePath × String} (he : e ∈ m.outputs s) : e.1.IsScript := by
  rcases List.mem_append.mp he with he | he
  · exact isScript_of_mem_programs he
  · rw [Option.mem_toList] at he
    obtain ⟨content, -, rfl⟩ := Option.map_eq_some_iff.mp he
    exact isScript_fragmentsPath

theorem content_ne_fragmentsText {e : FilePath × String} {text : String} (he : e ∈ m.programs s)
    (ht : m.fragmentsText s = some text) : e.2 ≠ text := by
  obtain ⟨⟨g, op⟩, -, h⟩ := List.mem_filterMap.mp he
  obtain ⟨content, hc, rfl⟩ := Option.map_eq_some_iff.mp h
  have hprogram := program_opens hc
  have hfragments : "/*".toList <+: text.toList := by
    refine joined_opens ht fun t htm => ?_
    rw [List.reduceOption_mem_iff] at htm
    obtain ⟨⟨h, other⟩, -, ho⟩ := List.mem_map.mp htm
    exact fragments_opens ho
  rintro rfl
  have hsame := List.prefix_of_prefix_length_le hprogram hfragments (by decide)
  revert hsame
  decide

theorem renderSamples_value (hm : m.validate.value = .ok ()) (hs : s.check = .ok ()) :
    (m.renderSamples s).value = .ok ((ofModel m s).renderOperations m.operations).value := by
  simp only [renderSamples, hs, validated, Noted.value_bind, hm]
  rfl

theorem renderSamples_of_accepted (hm : m.validate.value = .ok ()) (hs : s.check = .ok ()) :
    ∃ rendered, (m.renderSamples s).value = .ok rendered ∧
      rendered.files.map (fun f => (f.path, f.content)) = m.programs s :=
  ⟨_, renderSamples_value hm hs, renderOperations_eq _ _⟩

theorem renderFragments_of_accepted (hm : m.validate.value = .ok ()) :
    (m.renderFragments s).value = .ok (m.fragmentsText s) := by
  simp only [renderFragments, validated, Noted.value_bind, hm]
  simp only [Noted.value_pure, Noted.value_mapM]
  rfl

end CodeModel

end ApiSamples
