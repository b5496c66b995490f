import ApiSamples.Proofs.Text.Basic
import ApiSamples.Text.Indented

namespace ApiSamples.Text

/-- Each line with a line feed after it. -/
def unlines (ls : List String) : String := String.join (ls.map (· ++ "\n"))

/-- The lines that line feeds end. What stands behind the last line feed is none of them. -/
def closedLines (s : String) : List String := (splitLines s).dropLast

/-- The lines behind the last `opening`, up to the first `closing` behind it, if there are both. -/
def between? (opening closing : String) (ls : List String) : Option (List String) :=
  let inside := (ls.reverse.takeWhile (· != opening)).reverse
  if opening ∈ ls ∧ closing ∈ inside then some (inside.takeWhile (· != closing)) else none

@[simp] theorem unlines_nil : unlines [] = "" := rfl

@[simp] theorem unlines_cons (l : String) (ls : List String) :
    unlines (l :: ls) = l ++ "\n" ++ unlines ls := by
  simp [unlines]

theorem unlines_append (xs ys : List String) : unlines (xs ++ ys) = unlines xs ++ unlines ys := by
  simp [unlines]

theorem unlines_concat (ls : List String) (l : String) :
    unlines (ls ++ [l]) = unlines ls ++ l ++ "\n" := by
  simp [unlines_append, String.append_assoc]

theorem splitLines_ne_nil (s : String) : splitLines s ≠ [] := by
  simp [splitLines, splitChars, pieces_ne_nil]

theorem splitLines_append_feed (s t : String) :
    splitLines (s ++ "\n" ++ t) = splitLines s ++ splitLines t := by
  have hfeed : "\n".toList = ['\n'] := rfl
  simp only [splitLines, splitChars, String.toList_append, hfeed, List.append_assoc,
    List.singleton_append, pieces_append_cons, List.map_append]

theorem splitLines_of_not_mem {s : String} (h : '\n' ∉ s.toList) : splitLines s = [s] := by
  rw [splitLines, splitChars, pieces_of_not_mem h, List.map_singleton, String.ofList_toList]

theorem splitChars_cons_of_ne {c : Char} (hc : c ≠ '\n') (cs : List Char) :
    splitChars (c :: cs) = (splitChars cs).modifyHead (c :: ·) := by
  obtain ⟨p, ps, hp⟩ := List.exists_cons_of_ne_nil (pieces_ne_nil (· == '\n') cs)
  simp [splitChars, pieces, hc, hp]

def feeds (s : String) : Nat := s.toList.count '\n'

theorem feeds_append (s t : String) : feeds (s ++ t) = feeds s + feeds t := by
  simp [feeds]

theorem feeds_eq_zero_iff {s : String} : feeds s = 0 ↔ '\n' ∉ s.toList :=
  List.count_eq_zero

theorem length_splitChars (cs : List Char) : (splitChars cs).length = cs.count '\n' + 1 := by
  induction cs with
  | nil => rfl
  | cons c cs ih =>
    by_cases hc : c = '\n'
    · subst hc
      change (splitChars cs).length + 1 = _
      rw [ih, List.count_cons_self]
    · rw [splitChars_cons_of_ne hc, List.length_modifyHead, ih, List.count_cons_of_ne hc]

theorem length_splitLines (s : String) : (splitLines s).length = feeds s + 1 := by
  rw [splitLines, List.length_map, length_splitChars, feeds]

theorem not_mem_of_mem_splitLines {s l : String} (h : l ∈ splitLines s) : '\n' ∉ l.toList := by
  obtain ⟨piece, hpiece, rfl⟩ := List.mem_map.mp h
  rw [String.toList_ofList]
  exact not_mem_of_mem_pieces hpiece

theorem splitLines_unlines_append (ls : List String) (s : String) :
    splitLines (unlines ls ++ s) = ls.flatMap splitLines ++ splitLines s := by
  induction ls with
  | nil => simp
  | cons l ls ih =>
    rw [unlines_cons, String.append_assoc, splitLines_append_feed, ih, List.flatMap_cons,
      List.append_assoc]

theorem splitLines_unlines (ls : List String) :
    splitLines (unlines ls) = ls.flatMap splitLines ++ [""] := by
  have hnone : splitLines "" = [""] := rfl
  rw [← hnone, ← splitLines_unlines_append, String.append_empty]

theorem closedLines_unlines (ls : List String) : closedLines (unlines ls) = ls.flatMap splitLines := by
  rw [closedLines, splitLines_unlines, List.dropLast_concat]

theorem getLast?_closedLines {front : List String} {last : String} (h : '\n' ∉ last.toList) :
    (closedLines (unlines (front ++ [last]))).getLast? = some last := by
  rw [closedLines_unlines, List.flatMap_append, List.flatMap_singleton, splitLines_of_not_mem h,
    List.getLast?_concat]

theorem flatMap_splitLines {ls : List String} (h : ∀ l ∈ ls, '\n' ∉ l.toList) :
    ls.flatMap splitLines = ls := by
  induction ls with
  | nil => rfl
  | cons l ls ih =>
    obtain ⟨hl, hls⟩ := List.forall_mem_cons.mp h
    rw [List.flatMap_cons, splitLines_of_not_mem hl, ih hls, List.singleton_append]

theorem toList_unlines {ps : List (List Char)} (h : ps ≠ []) :
    (unlines (ps.map String.ofList)).toList = ['\n'].intercalate ps ++ ['\n'] := by
  have hfeed : "\n".toList = ['\n'] := rfl
  induction ps with
  | nil => exact absurd rfl h
  | cons p ps ih =>
    cases ps with
    | nil => simp [hfeed]
    | cons q ps =>
      have hrest := ih (List.cons_ne_nil q ps)
      rw [List.map_cons, unlines_cons, String.toList_append, hrest, List.intercalate_cons_cons]
      simp [hfeed]

theorem unlines_splitLines (s : String) : unlines (splitLines s) = s ++ "\n" := by
  have hpieces : splitChars s.toList ≠ [] := pieces_ne_nil _ _
  apply String.toList_inj.mp
  rw [splitLines, toList_unlines hpieces, splitChars, intercalate_pieces, String.toList_append]
  rfl

/-- A line stands between line feeds, if one is put before the text and one behind it. -/
theorem infix_of_mem_splitLines {s l : String} (h : l ∈ splitLines s) :
    '\n' :: l.toList ++ ['\n'] <:+: '\n' :: s.toList ++ ['\n'] := by
  have hfeed : "\n".toList = ['\n'] := rfl
  obtain ⟨before, after, hsplit⟩ := List.append_of_mem h
  have htext := congrArg String.toList (unlines_splitLines s)
  rw [hsplit, unlines_append, unlines_cons] at htext
  simp only [String.toList_append, hfeed] at htext
  have houter : '\n' :: s.toList ++ ['\n'] = '\n' :: (s.toList ++ ['\n']) := rfl
  rw [houter, ← htext]
  -- the line feed before the line is the one put before the text, or the last one of the lines before
  rcases List.eq_nil_or_concat before with rfl | ⟨front, last, rfl⟩
  · exact ⟨[], (unlines after).toList, by simp⟩
  · refine ⟨'\n' :: (unlines front ++ last).toList, (unlines after).toList, ?_⟩
    rw [List.concat_eq_append, unlines_concat]
    simp [hfeed]

theorem endedLines_eq {ps : List (List Char)} (hlast : ps.getLast? ≠ some [])
    (h : ∀ p ∈ ps, p.getLast? ≠ some '\r') : endedLines ps = ps := by
  fun_induction endedLines ps with
  | case1 => rfl
  | case2 last hempty => simp_all
  | case3 last hempty => rfl
  | case4 piece pieces hmore ih =>
    obtain ⟨hpiece, hpieces⟩ := List.forall_mem_cons.mp h
    have hkept : dropReturn piece = piece := if_neg hpiece
    rw [hkept, ih ?_ hpieces]
    cases pieces with
    | nil => exact absurd rfl hmore
    | cons other pieces => rwa [List.getLast?_cons_cons] at hlast

theorem feed_not_mem_dropReturn {cs : List Char} (h : '\n' ∉ cs) : '\n' ∉ dropReturn cs := by
  unfold dropReturn
  split
  · exact fun hmem => h ((List.dropLast_sublist cs).mem hmem)
  · exact h

theorem feed_not_mem_endedLines {ps : List (List Char)} (h : ∀ p ∈ ps, '\n' ∉ p) :
    ∀ l ∈ endedLines ps, '\n' ∉ l := by
  fun_induction endedLines ps with
  | case1 => simp
  | case2 last hempty => simp
  | case3 last hempty => exact h
  | case4 piece pieces hmore ih =>
    obtain ⟨hpiece, hpieces⟩ := List.forall_mem_cons.mp h
    exact List.forall_mem_cons.mpr ⟨feed_not_mem_dropReturn hpiece, ih hpieces⟩

theorem feed_not_mem_of_mem_lines {s l : String} (h : l ∈ lines s) : '\n' ∉ l.toList := by
  obtain ⟨cs, hcs, rfl⟩ := List.mem_map.mp h
  rw [String.toList_ofList]
  exact feed_not_mem_endedLines (fun p hp => not_mem_of_mem_pieces hp) cs hcs

/-- The two ways to cut a text agree, if it goes on behind its last line feed and no carriage return
stands before one. -/
theorem lines_eq_splitLines {s : String} (hlast : (splitLines s).getLast? ≠ some "")
    (h : ∀ l ∈ splitLines s, l.toList.getLast? ≠ some '\r') : lines s = splitLines s := by
  rw [lines, endedLines_eq]
  · rfl
  · intro hempty
    rw [splitLines, List.getLast?_map, hempty] at hlast
    exact hlast rfl
  · intro p hp
    have hline := h _ (List.mem_map_of_mem hp)
    rwa [String.toList_ofList] at hline

theorem between?_eq {opening closing : String} (before : List String) {body after : List String}
    (hopen : opening ∉ body ++ closing :: after) (hclose : closing ∉ body) :
    between? opening closing (before ++ opening :: body ++ closing :: after) = some body := by
  have hother : ∀ l ∈ (body ++ closing :: after).reverse, (l != opening) = true := by
    intro l hl
    rw [bne_iff_ne]
    rintro rfl
    exact hopen (List.mem_reverse.mp hl)
  have hbody : ∀ l ∈ body, (l != closing) = true := by
    intro l hl
    rw [bne_iff_ne]
    rintro rfl
    exact hclose hl
  have hreverse : (before ++ opening :: body ++ closing :: after).reverse =
      (body ++ closing :: after).reverse ++ opening :: before.reverse := by
    simp
  have hinside : ((before ++ opening :: body ++ closing :: after).reverse.takeWhile
      (· != opening)).reverse = body ++ closing :: after := by
    rw [hreverse, List.takeWhile_append_of_pos hother, List.takeWhile_cons_of_neg (by simp),
      List.append_nil, List.reverse_reverse]
  rw [between?, hinside, if_pos (by simp), List.takeWhile_append_of_pos hbody,
    List.takeWhile_cons_of_neg (by simp), List.append_nil]

theorem between?_unlines {opening closing : String} (front : List String) {body after : List String}
    (hfeed : ∀ l ∈ opening :: body ++ closing :: after, '\n' ∉ l.toList)
    (hopen : opening ∉ body ++ closing :: after) (hclose : closing ∉ body) :
    between? opening closing
      (closedLines (unlines (front ++ (opening :: body ++ closing :: after)))) = some body := by
  rw [closedLines_unlines, List.flatMap_append, flatMap_splitLines hfeed, ← List.append_assoc]
  exact between?_eq _ hopen hclose

theorem trimEnd_append_feed {s : String} {c : Char} (hlast : s.toList.getLast? = some c)
    (hc : isBlank c = false) : trimEnd (s ++ "\n") = s := by
  have hfeed : "\n".toList = ['\n'] := rfl
  have hblank : isBlank '\n' = true := by decide
  obtain ⟨cs, hcs⟩ := List.getLast?_eq_some_iff.mp hlast
  apply String.toList_inj.mp
  rw [toList_trimEnd, String.toList_append, hfeed, hcs, trimEndChars]
  simp [hblank, hc]

theorem splitLines_trimEnd {front : List String} {last : String} {c : Char}
    (hlast : last.toList.getLast? = some c) (hc : isBlank c = false) :
    splitLines (trimEnd (unlines (front ++ [last]))) = closedLines (unlines (front ++ [last])) := by
  have hend : (unlines front ++ last).toList.getLast? = some c := by
    rw [String.toList_append, List.getLast?_append, hlast]
    rfl
  have htrim : trimEnd (unlines (front ++ [last])) = unlines front ++ last := by
    rw [unlines_concat, trimEnd_append_feed hend hc]
  rw [htrim, splitLines_unlines_append, closedLines_unlines, List.flatMap_append, List.flatMap_singleton]

theorem not_mem_intercalate {c : Char} {separator : List Char} (hc : c ∉ separator)
    {ps : List (List Char)} (h : ∀ p ∈ ps, c ∉ p) : c ∉ separator.intercalate ps := by
  induction ps with
  | nil => simp
  | cons p ps ih =>
    obtain ⟨hp, hps⟩ := List.forall_mem_cons.mp h
    cases ps with
    | nil => simpa using hp
    | cons q ps =>
      rw [List.intercalate_cons_cons]
      simp [hc, hp, ih hps]

theorem repeated_add (unit : String) (m n : Nat) :
    repeated unit (m + n) = repeated unit m ++ repeated unit n := by
  induction m with
  | zero => rw [Nat.zero_add, repeated, String.empty_append]
  | succ m ih => rw [Nat.succ_add, repeated, ih, repeated, String.append_assoc]

theorem feed_not_mem_repeated {unit : String} (h : '\n' ∉ unit.toList) (n : Nat) :
    '\n' ∉ (repeated unit n).toList := by
  induction n with
  | zero => simp [repeated]
  | succ n ih => simp [repeated, h, ih]

theorem indentLines_eq (lead text : String) :
    indentLines lead text = unlines ((splitLines text).map (indentLine lead)) := by
  rw [indentLines, unlines, List.map_map]
  rfl

theorem indentLine_eq (lead : String) :
    indentLine lead = fun line => if line = "" then "" else lead ++ line := by
  funext line
  simp [indentLine]

theorem feed_not_mem_indentLine {lead line : String} (hlead : '\n' ∉ lead.toList)
    (hline : '\n' ∉ line.toList) : '\n' ∉ (indentLine lead line).toList := by
  unfold indentLine
  split
  · simp
  · simp [hlead, hline]

theorem feed_not_mem_indented {lead : String} (hlead : '\n' ∉ lead.toList) (texts : List String) :
    ∀ line ∈ (texts.flatMap splitLines).map (indentLine lead), '\n' ∉ line.toList := by
  intro line hline
  obtain ⟨inner, hinner, rfl⟩ := List.mem_map.mp hline
  obtain ⟨text, -, hinner⟩ := List.mem_flatMap.mp hinner
  exact feed_not_mem_indentLine hlead (not_mem_of_mem_splitLines hinner)

@[simp] theorem indentLine_empty (line : String) : indentLine "" line = line := by
  unfold indentLine
  split <;> simp_all

@[simp] theorem indentLines_empty (text : String) : indentLines "" text = text ++ "\n" := by
  have hlines : indentLine "" = id := by
    funext line
    exact indentLine_empty line
  rw [indentLines_eq, hlines, List.map_id, unlines_splitLines]

namespace Writer

/-- What a writer adds for each text: its lines behind the margin of the level. -/
theorem text_lines (w : Writer) (texts : List String) :
    (w.lines texts).text =
      w.text ++ unlines (texts.flatMap fun text =>
        (splitLines text).map (indentLine (repeated w.unit w.level))) := by
  induction texts generalizing w with
  | nil => simp [lines]
  | cons text texts ih =>
    have hrest : (w.lines (text :: texts)).text = ((w.line text).lines texts).text := rfl
    rw [hrest, ih, line, raw, List.flatMap_cons, unlines_append, ← indentLines_eq, String.append_assoc]

theorem level_lines (w : Writer) (texts : List String) : (w.lines texts).level = w.level := by
  induction texts generalizing w with
  | nil => rfl
  | cons text texts ih => exact ih (w.line text)

theorem unit_lines (w : Writer) (texts : List String) : (w.lines texts).unit = w.unit := by
  induction texts generalizing w with
  | nil => rfl
  | cons text texts ih => exact ih (w.line text)

theorem text_lines_of_level_zero {w : Writer} (h : w.level = 0) (texts : List String) :
    (w.lines texts).text = w.text ++ unlines texts := by
  induction texts generalizing w with
  | nil => simp [lines]
  | cons text texts ih =>
    have hrest : (w.lines (text :: texts)).text = ((w.line text).lines texts).text := rfl
    rw [hrest, ih (w := w.line text) h, line, raw, h, repeated, indentLines_empty, unlines_cons,
      String.append_assoc]

/-- What has been written are lines with nothing behind the last line feed. -/
def WholeLines (w : Writer) : Prop := ∃ ls, w.text = unlines ls

theorem wholeLines_empty : ({} : Writer).WholeLines := ⟨[], rfl⟩

theorem WholeLines.lines {w : Writer} (h : w.WholeLines) (texts : List String) :
    (w.lines texts).WholeLines := by
  obtain ⟨ls, hls⟩ := h
  refine ⟨ls ++ texts.flatMap fun text =>
    (splitLines text).map (indentLine (repeated w.unit w.level)), ?_⟩
  rw [text_lines, hls, unlines_append]

theorem WholeLines.blank {w : Writer} (h : w.WholeLines) : w.blank.WholeLines := by
  obtain ⟨ls, hls⟩ := h
  refine ⟨ls ++ [""], ?_⟩
  rw [unlines_concat, String.append_empty, ← hls]
  rfl

theorem WholeLines.indent {w : Writer} (h : w.WholeLines) : w.indent.WholeLines := h

end Writer

end ApiSamples.Text
