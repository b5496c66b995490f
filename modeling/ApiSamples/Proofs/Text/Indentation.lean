import ApiSamples.Proofs.Text.Lines

namespace ApiSamples.Text

/-- The text without the line feed at its end, if there is one. -/
def dropFeed (s : String) : String :=
  if s.toList.getLast? = some '\n' then String.ofList s.toList.dropLast else s

@[simp] theorem dropFeed_append_feed (s : String) : dropFeed (s ++ "\n") = s := by
  have hfeed : "\n".toList = ['\n'] := rfl
  simp [dropFeed, hfeed]

theorem splitLines_dropFeed_unlines {ls : List String} (hne : ls ≠ []) (h : ∀ l ∈ ls, '\n' ∉ l.toList) :
    splitLines (dropFeed (unlines ls)) = ls := by
  obtain ⟨front, last, rfl⟩ := (List.eq_nil_or_concat ls).resolve_left hne
  rw [List.concat_eq_append] at h ⊢
  obtain ⟨hfront, hlast⟩ := List.forall_mem_append.mp h
  rw [unlines_concat, dropFeed_append_feed, splitLines_unlines_append, flatMap_splitLines hfront,
    splitLines_of_not_mem (hlast last (List.mem_singleton_self last))]

theorem flatMap_splitLines_ne_nil {texts : List String} (h : texts ≠ []) :
    texts.flatMap splitLines ≠ [] := by
  obtain ⟨text, rest, rfl⟩ := List.exists_cons_of_ne_nil h
  rw [List.flatMap_cons]
  exact List.append_ne_nil_of_left_ne_nil (splitLines_ne_nil text) _

/-- Both leads stand before the line, the outer one first, or none of them if it is empty. -/
theorem indentLine_indentLine (outer inner line : String) :
    indentLine outer (indentLine inner line) = indentLine (outer ++ inner) line := by
  by_cases h : line = ""
  · simp [indentLine_eq, h]
  · simp [indentLine_eq, h, String.append_assoc]

namespace Writer

def deeper (w : Writer) : Nat → Writer
  | 0 => w
  | n + 1 => (w.deeper n).indent

def fresh (unit : String) (n : Nat) : Writer := ({ unit := unit } : Writer).deeper n

section

variable (w : Writer) (unit : String) (m n : Nat)

@[simp] theorem text_deeper : (w.deeper n).text = w.text := by
  induction n with
  | zero => rfl
  | succ n ih => exact ih

@[simp] theorem unit_deeper : (w.deeper n).unit = w.unit := by
  induction n with
  | zero => rfl
  | succ n ih => exact ih

@[simp] theorem level_deeper : (w.deeper n).level = w.level + n := by
  induction n with
  | zero => rfl
  | succ n ih => exact congrArg (· + 1) ih

theorem deeper_deeper : (w.deeper m).deeper n = w.deeper (m + n) := by
  induction n with
  | zero => rfl
  | succ n ih => exact congrArg indent ih

@[simp] theorem text_fresh : (fresh unit n).text = "" := text_deeper _ n

@[simp] theorem unit_fresh : (fresh unit n).unit = unit := unit_deeper _ n

@[simp] theorem level_fresh : (fresh unit n).level = n := by
  rw [fresh, level_deeper, Nat.zero_add]

theorem deeper_fresh : (fresh unit m).deeper n = fresh unit (m + n) := deeper_deeper _ m n

end

theorem text_lines_fresh (unit : String) (n : Nat) (texts : List String) :
    ((fresh unit n).lines texts).text =
      unlines ((texts.flatMap splitLines).map (indentLine (repeated unit n))) := by
  rw [text_lines, ← List.map_flatMap, text_fresh, unit_fresh, level_fresh, String.empty_append]

theorem splitLines_block {unit : String} (hunit : '\n' ∉ unit.toList) (n : Nat) {texts : List String}
    (hne : texts ≠ []) :
    splitLines (dropFeed ((fresh unit n).lines texts).text) =
      (texts.flatMap splitLines).map (indentLine (repeated unit n)) := by
  have hlines : (texts.flatMap splitLines).map (indentLine (repeated unit n)) ≠ [] := by
    rw [Ne, List.map_eq_nil_iff]
    exact flatMap_splitLines_ne_nil hne
  rw [text_lines_fresh, splitLines_dropFeed_unlines hlines]
  exact feed_not_mem_indented (feed_not_mem_repeated hunit n) texts

/-- A writer that writes a block goes on as if it had written the texts of the block itself, so many levels
further in. -/
theorem text_line_block {w : Writer} (hunit : '\n' ∉ w.unit.toList) (n : Nat) {texts : List String}
    (hne : texts ≠ []) :
    (w.line (dropFeed ((fresh w.unit n).lines texts).text)).text = ((w.deeper n).lines texts).text := by
  -- the block is cut where the texts were cut before, so the two margins meet line by line
  have htwice : indentLine (repeated w.unit w.level) ∘ indentLine (repeated w.unit n) =
      indentLine (repeated w.unit (w.level + n)) := by
    funext line
    rw [Function.comp_apply, indentLine_indentLine, ← repeated_add]
  calc (w.line (dropFeed ((fresh w.unit n).lines texts).text)).text
    _ = w.text ++ unlines (((texts.flatMap splitLines).map (indentLine (repeated w.unit n))).map
          (indentLine (repeated w.unit w.level))) := by
      rw [line, raw, indentLines_eq, splitLines_block hunit n hne]
    _ = w.text ++ unlines ((texts.flatMap splitLines).map
          (indentLine (repeated w.unit (w.level + n)))) := by
      rw [List.map_map, htwice]
    _ = ((w.deeper n).lines texts).text := by
      rw [text_lines, ← List.map_flatMap, text_deeper, unit_deeper, level_deeper]

/-- If the unit breaks no line, a text that is written at one level and then, without the line feed at its end,
at another is what is written at the sum of the levels at once. At every level the text ends in a line feed and
has as many lines as before, the empty ones empty and every other behind one unit for each level. -/
theorem indentation_composes {unit : String} (hunit : '\n' ∉ unit.toList) (text : String) :
    (∀ a b, ((fresh unit b).line (dropFeed ((fresh unit a).line text).text)).text =
      ((fresh unit (a + b)).line text).text) ∧
    ∀ n, ((fresh unit n).line text).text = dropFeed ((fresh unit n).line text).text ++ "\n" ∧
      (splitLines (dropFeed ((fresh unit n).line text).text)).length = (splitLines text).length ∧
      splitLines (dropFeed ((fresh unit n).line text).text) =
        (splitLines text).map fun line => if line = "" then "" else repeated unit n ++ line := by
  have hone : ∀ w : Writer, w.line text = w.lines [text] := fun _ => rfl
  have hne : [text] ≠ [] := List.cons_ne_nil text []
  refine ⟨fun a b => ?_, fun n => ?_⟩
  · -- a text is a block of its own
    have hblock := text_line_block (w := fresh unit b) (by rwa [unit_fresh]) a hne
    rw [unit_fresh, deeper_fresh, Nat.add_comm] at hblock
    exact hblock
  · have hlines := splitLines_block hunit n hne
    rw [← hone, List.flatMap_singleton, indentLine_eq] at hlines
    refine ⟨?_, ?_, hlines⟩
    · rw [← unlines_splitLines, hlines, ← indentLine_eq, hone, text_lines_fresh, List.flatMap_singleton]
    · rw [hlines, List.length_map]

theorem indentation_composes_tabs :
    '\n' ∉ "\t".toList ∧
    ((fresh "\t" 2).line (dropFeed ((fresh "\t" 1).line "[\n\n  a\n").text)).text =
      "\t\t\t[\n\n\t\t\t  a\n\n" ∧
    splitLines (dropFeed ((fresh "\t" 3).line "[\n\n  a\n").text) =
      ["\t\t\t[", "", "\t\t\t  a", ""] := by
  have hunit : '\n' ∉ "\t".toList := by decide
  obtain ⟨hsum, hlines⟩ := indentation_composes hunit "[\n\n  a\n"
  have hdeep : ((fresh "\t" 3).line "[\n\n  a\n").text = "\t\t\t[\n\n\t\t\t  a\n\n" := by decide
  refine ⟨hunit, (hsum 1 2).trans hdeep, ?_⟩
  rw [(hlines 3).2.2]
  decide

/-- A unit that breaks lines is itself moved with the line that it begins. -/
example : ((fresh "\n " 1).line (dropFeed ((fresh "\n " 1).line "a").text)).text = "\n\n  a\n" ∧
    ((fresh "\n " 2).line "a").text = "\n \n a\n" := by
  decide

end Writer

end ApiSamples.Text
