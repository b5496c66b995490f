import ApiSamples.Proofs.Sample.Arguments
import ApiSamples.Proofs.Sample.Batching
import ApiSamples.Proofs.Sample.Guard
import ApiSamples.Proofs.Sample.Lines

namespace ApiSamples.Assembler

open Text

theorem prelude_eq_unlines (a : Assembler) : ∃ ls, a.prelude = unlines ls :=
  ((Writer.wholeLines_empty.lines _).blank.lines _).indent.lines _

theorem braced_eq_unlines (core : String) :
    braced core =
      unlines ("  \x7b" :: (splitLines (trimEnd core)).map (indentLine "    ") ++ ["  \x7d"]) := by
  have hopen : "  \x7b\n" = "  \x7b" ++ "\n" := rfl
  have hclose : "  \x7d\n" = "  \x7d" ++ "\n" := rfl
  rw [braced, indentLines_eq, List.cons_append, unlines_cons, unlines_append, hopen, hclose]
  simp [String.append_assoc]

theorem block_eq_unlines (a : Assembler) (core : String) (first last : Bool) :
    ∃ front, a.block core first last = unlines (front ++
      ("  \x7b" :: (splitLines (trimEnd core)).map (indentLine "    ") ++
        "  \x7d" :: (if last then ["\x7d"] else []))) := by
  obtain ⟨ls, hls⟩ := a.prelude_eq_unlines
  refine ⟨if first then ls else [], ?_⟩
  have hfirst : (if first then a.prelude else "") = unlines (if first then ls else []) := by
    cases first
    · rfl
    · exact hls
  have hlast : (if last then closing else "") = unlines (if last then ["\x7d"] else []) := by
    cases last <;> rfl
  rw [block_eq, hfirst, braced_eq_unlines, hlast, ← unlines_append, ← unlines_append]
  simp

theorem indentLine_ne_brace (line : String) :
    indentLine "    " line ≠ "  \x7b" ∧ indentLine "    " line ≠ "  \x7d" := by
  unfold indentLine
  split
  · decide
  · constructor
    · intro h
      have hlist := congrArg String.toList h
      simp at hlist
    · intro h
      have hlist := congrArg String.toList h
      simp at hlist

theorem between?_block (a : Assembler) (core : String) (first last : Bool) :
    between? "  \x7b" "  \x7d" (closedLines (a.block core first last)) =
      some ((splitLines (trimEnd core)).map (indentLine "    ")) := by
  have hmargin : '\n' ∉ "    ".toList := by decide
  have hafter : ∀ line ∈ (if last then ["\x7d"] else []), line = "\x7d" := by
    cases last <;> simp
  obtain ⟨front, hfront⟩ := a.block_eq_unlines core first last
  rw [hfront]
  apply between?_unlines
  · intro line hline
    simp only [List.mem_append, List.mem_cons] at hline
    rcases hline with (rfl | hbody) | rfl | hlast
    · decide
    · obtain ⟨inner, hinner, rfl⟩ := List.mem_map.mp hbody
      exact feed_not_mem_indentLine hmargin (not_mem_of_mem_splitLines hinner)
    · decide
    · rw [hafter line hlast]
      decide
  · intro hopen
    simp only [List.mem_append, List.mem_cons] at hopen
    rcases hopen with hbody | hclose | hlast
    · obtain ⟨inner, -, hinner⟩ := List.mem_map.mp hbody
      exact (indentLine_ne_brace inner).1 hinner
    · revert hclose
      decide
    · have hbrace := hafter _ hlast
      revert hbrace
      decide
  · intro hclose
    obtain ⟨inner, -, hinner⟩ := List.mem_map.mp hclose
    exact (indentLine_ne_brace inner).2 hinner

theorem feed_not_mem_guardComment {cs : List Char} (h : '\n' ∉ cs) : '\n' ∉ guardComment cs := by
  fun_induction guardComment cs with
  | case1 cs ih => simp_all
  | case2 c cs hpair ih => simp_all
  | case3 => exact h

theorem feed_not_mem_commented {line : String} (h : '\n' ∉ line.toList) :
    '\n' ∉ (commented line).toList := by
  unfold commented
  split
  · decide
  · simp [feed_not_mem_guardComment h]

/-- A statement's line in a comment is no code fence. -/
theorem commented_ne_fence {line : String} (h : ∀ c, line.toList.head? = some c → c ∈ lineStarts) :
    ∀ cs, (commented line).toList ≠ ' ' :: '*' :: ' ' :: '\x60' :: cs := by
  intro cs heq
  have hlead : " * ".toList = [' ', '*', ' '] := rfl
  unfold commented at heq
  split at heq
  · cases heq
  · rw [String.toList_append, hlead, String.toList_ofList] at heq
    have hguarded : guardComment line.toList = '\x60' :: cs := by simpa using heq
    have hhead : line.toList.head? = some '\x60' := by
      rw [← head?_guardComment, hguarded]
      rfl
    have hstart := h _ hhead
    revert hstart
    decide

theorem fragment_eq_unlines (core : String) (op : Operation) (g : Group) (e : Example) :
    ∃ front, fragment core op g e = unlines (front ++
      (" * ```typescript" :: (Text.lines (trimEnd core)).map commented ++
        " * ```" :: [" */", reservation op g])) := by
  have hopen : commented "```typescript" = " * ```typescript" := by decide
  have hclose : commented "```" = " * ```" := by decide
  refine ⟨"/**" :: (titleLines e ++ descriptionLines e ++ ["@example"]).map commented, ?_⟩
  rw [fragment_eq, opening, fragmentLines]
  simp [hopen, hclose]

theorem between?_fragment (core : String) (op : Operation) (g : Group) (e : Example)
    (hfeed : ∀ line ∈ Text.lines (trimEnd core), '\n' ∉ line.toList)
    (hstart : ∀ line ∈ Text.lines (trimEnd core), ∀ c, line.toList.head? = some c → c ∈ lineStarts) :
    between? " * ```typescript" " * ```" (closedLines (fragment core op g e)) =
      some ((Text.lines (trimEnd core)).map commented) := by
  have hreservation : ∀ cs, (reservation op g).toList ≠ ' ' :: cs := by
    intro cs h
    simp only [reservation, String.toList_append] at h
    exact absurd (List.cons.inj h).1 (by decide)
  have hnoFence : ∀ cs, ∀ line ∈ (Text.lines (trimEnd core)).map commented,
      line.toList ≠ ' ' :: '*' :: ' ' :: '\x60' :: cs := by
    intro cs line hline
    obtain ⟨inner, hinner, rfl⟩ := List.mem_map.mp hline
    exact commented_ne_fence (hstart inner hinner) cs
  obtain ⟨front, hfront⟩ := fragment_eq_unlines core op g e
  rw [hfront]
  apply between?_unlines
  · intro line hline
    simp only [List.mem_append, List.mem_cons, List.not_mem_nil, or_false] at hline
    rcases hline with (rfl | hbody) | rfl | rfl | rfl
    · decide
    · obtain ⟨inner, hinner, rfl⟩ := List.mem_map.mp hbody
      exact feed_not_mem_commented (hfeed inner hinner)
    · decide
    · decide
    · exact feed_not_mem_reservation op g
  · intro hopen
    simp only [List.mem_append, List.mem_cons, List.not_mem_nil, or_false] at hopen
    rcases hopen with hbody | hfence | hend | hlast
    · exact hnoFence _ _ hbody rfl
    · revert hfence
      decide
    · revert hend
      decide
    · exact hreservation _ (congrArg String.toList hlast).symm
  · intro hclose
    exact hnoFence _ _ hclose rfl

theorem statements_in_block (a : Assembler) (s : Script) (first last : Bool) :
    between? "  \x7b" "  \x7d" (closedLines (a.block s.text first last)) =
      some ((closedLines s.text).map fun line => if line = "" then "" else "    " ++ line) := by
  rw [between?_block, splitLines_script, indentLine_eq]

theorem statements_in_fragment {a : Assembler} {op : Operation} (hn : Unbroken a op) (g : Group)
    (e : Example) {args : List Argument} (hargs : ∀ arg ∈ args, arg.parameter ∈ op.parameters) :
    between? " * ```typescript" " * ```" (closedLines (fragment (a.script op g args).text op g e)) =
      some ((closedLines (a.script op g args).text).map fun line =>
        if line = "" then " *" else " * " ++ guarded line) := by
  have hfragment := between?_fragment (a.script op g args).text op g e
  rw [lines_script hn g hargs] at hfragment
  rw [← commented_eq]
  apply hfragment
  · intro line hline
    rw [← splitLines_script] at hline
    exact not_mem_of_mem_splitLines hline
  · intro line hline
    exact (line_of_mem_closedLines hn g hargs hline).1

/-- The modes give samples together. If no name breaks a line, then every block holds the lines of the
statements behind four spaces and every fragment behind a star, with each end of a comment taken apart,
and nothing else between the lines that enclose them. A quoted text is the same JSON string when that
is done to it. -/
theorem modes_share_statements (a : Assembler) (op : Operation) (g : Group) (e : Example) :
    (∀ mode, (a.assemble mode op g e).value.isSome = (a.core op g e).value.isSome) ∧
    (Unbroken a op → ∀ core, (a.core op g e).value = some core →
      (∀ mode text, mode ≠ .inline → (a.assemble mode op g e).value = some text →
        between? "  \x7b" "  \x7d" (closedLines text) =
          some ((closedLines core).map fun line => if line = "" then "" else "    " ++ line)) ∧
      (∀ text, (a.assemble .inline op g e).value = some text →
        between? " * ```typescript" " * ```" (closedLines text) =
          some ((closedLines core).map fun line =>
            if line = "" then " *" else " * " ++ guarded line))) ∧
    (∀ s, Reader.json.parse (guarded (Quoted.quote s)) = .ok (.string s)) := by
  refine ⟨fun mode => ?_, fun hn core hcore => ?_, parse_guarded_quote⟩
  · rw [assemble_value, Option.isSome_map]
  · simp only [assemble_value, hcore, Option.map_some, Option.some.injEq]
    rw [core_eq_script] at hcore
    obtain ⟨s, hs, rfl⟩ := Option.map_eq_some_iff.mp hcore
    obtain ⟨args, hargs, rfl⟩ := Option.map_eq_some_iff.mp hs
    have hmem := Operation.parameter_mem_of_arguments hargs
    constructor
    · rintro mode text hmode rfl
      cases mode with
      | inline => exact absurd rfl hmode
      | standalone => exact statements_in_block a _ true true
      | block first last => exact statements_in_block a _ first last
    · rintro text rfl
      exact statements_in_fragment hn g e hmem

def globbing : Operation :=
  { name := "find", parameters := [.plain "globs" (.sequence (.primitive .string)) true] }

def globs : Example :=
  { name := "e", description := some "```typescript\n*/"
    parameters := [("globs", .array [.string "*/", .string "\n"])] }

theorem synthesize_globs : (plain.scope.synthesize (.sequence (.primitive .string))
    (.array [.string "*/", .string "\n"])).value.text 0 = "[\n  \"*/\",\n  \"\\n\"\n]" := by
  have hitem : ∀ s, (plain.scope.synthesize (.primitive .string) (.string s)).value =
      .scalar (Quoted.quote s) := by
    intro s
    rw [Scope.synthesize]
    rfl
  rw [Scope.synthesize_array]
  simp only [List.map_cons, List.map_nil, hitem]
  decide

def globsLines : List String :=
  ["const globs = [", "  \"*/\",", "  \"\\n\"", "];", "",
    "const findResult = await client.find(globs);", "console.log(findResult);"]

theorem core_globs : (plain.core globbing {} globs).value = some (unlines globsLines) := by
  have hcomplete : globbing.parameters.any (globbing.lacks globs) = false := by decide
  have harguments : globbing.parameters.filterMap (globbing.argument? globs) =
      [⟨.plain "globs" (.sequence (.primitive .string)) true,
        .array [.string "*/", .string "\n"], .direct⟩] := by
    rfl
  have hvariable : plain.variableOf ⟨.plain "globs" (.sequence (.primitive .string)) true,
      .array [.string "*/", .string "\n"], .direct⟩ = ⟨"globs", "", "[\n  \"*/\",\n  \"\\n\"\n]"⟩ := by
    rw [variableOf, ← synthesize_globs]
    rfl
  rw [core_eq_script, script?_of_complete hcomplete, harguments, script, List.map_singleton, hvariable]
  decide

/-- A fence in the description and an end of a comment in a value. -/
theorem modes_share_statements_globs :
    Unbroken plain globbing ∧ (plain.core globbing {} globs).value = some (unlines globsLines) ∧
    (∃ text, (plain.assemble .standalone globbing {} globs).value = some text ∧
      between? "  \x7b" "  \x7d" (closedLines text) =
        some (globsLines.map fun line => if line = "" then "" else "    " ++ line)) ∧
    (∃ text, (plain.assemble .inline globbing {} globs).value = some text ∧
      between? " * ```typescript" " * ```" (closedLines text) =
        some [" * const globs = [", " *   \"*\\/\",", " *   \"\\n\"", " * ];", " *",
          " * const findResult = await client.find(globs);", " * console.log(findResult);"]) := by
  have hn : Unbroken plain globbing := by
    refine ⟨by decide, by decide, ?_, by decide, by decide⟩
    intro p hp name htype
    rw [List.mem_singleton.mp hp] at htype
    cases htype
  have hlines : closedLines (unlines globsLines) = globsLines := by
    rw [closedLines_unlines, flatMap_splitLines (by decide)]
  have hassembled : ∀ mode, (plain.assemble mode globbing {} globs).value =
      some (plain.surround globbing {} globs (unlines globsLines) mode) := by
    intro mode
    rw [assemble_value, core_globs, Option.map_some]
  obtain ⟨-, hshare, -⟩ := modes_share_statements plain globbing {} globs
  obtain ⟨hblock, hfragment⟩ := hshare hn _ core_globs
  refine ⟨hn, core_globs, ⟨_, hassembled .standalone, ?_⟩, ⟨_, hassembled .inline, ?_⟩⟩
  · rw [hblock .standalone _ (by decide) (hassembled .standalone), hlines]
  · rw [hfragment _ (hassembled .inline), hlines]
    decide

end ApiSamples.Assembler
