import ApiSamples.Proofs.Sample.Modes
import ApiSamples.Proofs.Sample.Variables
import ApiSamples.Proofs.Text.Margins

namespace ApiSamples

namespace Assembler

open Text

/-- A line behind a star, or the star of an empty line. -/
def Starred (line : String) : Prop := line = " *" ∨ ∃ rest, line = " * " ++ rest

/-- The lines of a fragment between the one that opens its comment and the first one that closes it. -/
def insideComment (text : String) : List String := (closedLines text).tail.takeWhile (· != " */")

def EveryLineStarred (text : String) : Prop := ∀ line ∈ insideComment text, Starred line

/-- The lines of a title behind its first. -/
def furtherTitle (e : Example) : List String := e.title.elim [] fun title => (splitLines title).tail

theorem starred_commented (line : String) : Starred (commented line) := by
  unfold commented
  split
  · exact .inl rfl
  · exact .inr ⟨_, rfl⟩

theorem head?_first_splitChars {cs p : List Char} {ps : List (List Char)} (h : splitChars cs = p :: ps)
    {c : Char} (hc : p.head? = some c) : cs.head? = some c := by
  cases cs with
  | nil =>
    obtain rfl := (List.cons.inj (show [[]] = p :: ps from h)).1
    cases hc
  | cons d cs =>
    by_cases hd : d = '\n'
    · subst hd
      obtain rfl := (List.cons.inj (show [] :: splitChars cs = p :: ps from h)).1
      cases hc
    · rw [splitChars_cons_of_ne hd] at h
      obtain ⟨q, qs, hq⟩ := List.exists_cons_of_ne_nil (pieces_ne_nil (· == '\n') cs)
      rw [splitChars, hq] at h
      obtain rfl := (List.cons.inj h).1
      exact hc

/-- No line feed stands in an end of a comment, so each line is guarded by itself. -/
theorem splitChars_guardComment (cs : List Char) :
    splitChars (guardComment cs) = (splitChars cs).map guardComment := by
  fun_induction guardComment cs with
  | case1 cs ih =>
    obtain ⟨p, ps, hp⟩ := List.exists_cons_of_ne_nil (pieces_ne_nil (· == '\n') cs)
    rw [splitChars_cons_of_ne (by decide), splitChars_cons_of_ne (by decide),
      splitChars_cons_of_ne (by decide), splitChars_cons_of_ne (by decide),
      splitChars_cons_of_ne (by decide), ih, splitChars, hp]
    rfl
  | case2 c cs hpair ih =>
    by_cases hc : c = '\n'
    · subst hc
      change [] :: splitChars (guardComment cs) = [] :: (splitChars cs).map guardComment
      rw [ih]
    · obtain ⟨p, ps, hp⟩ := List.exists_cons_of_ne_nil (pieces_ne_nil (· == '\n') cs)
      have happart : c = '*' → p.head? ≠ some '/' := by
        rintro rfl hhead
        have hslash := head?_first_splitChars hp hhead
        obtain ⟨rest, rfl⟩ := List.head?_eq_some_iff.mp hslash
        exact hpair rest rfl rfl
      rw [splitChars_cons_of_ne hc, splitChars_cons_of_ne hc, ih, splitChars, hp, List.map_cons,
        List.modifyHead_cons, List.modifyHead_cons, List.map_cons, guardComment_cons happart]
  | case3 => rfl

theorem splitLines_guarded (s : String) : splitLines (guarded s) = (splitLines s).map guarded := by
  rw [splitLines, guarded, String.toList_ofList, splitChars_guardComment, splitLines, List.map_map,
    List.map_map]
  refine List.map_congr_left fun cs _ => ?_
  simp [guarded]

theorem exists_of_guardComment_eq {cs ds : List Char} {c : Char} (h : guardComment cs = c :: ds)
    (hd : ds.head? ≠ some '\\') : ∃ rest, cs = c :: rest ∧ guardComment rest = ds := by
  revert h
  fun_cases guardComment cs with
  | case1 cs =>
    intro h
    obtain ⟨-, rfl⟩ := List.cons.inj h
    exact absurd rfl hd
  | case2 c cs =>
    intro h
    obtain ⟨rfl, rfl⟩ := List.cons.inj h
    exact ⟨cs, rfl, rfl⟩
  | case3 =>
    intro h
    cases h

theorem starred_iff_toList {line : String} :
    Starred line ↔ line.toList = [' ', '*'] ∨ ∃ cs, line.toList = ' ' :: '*' :: ' ' :: cs := by
  have hlead : " * ".toList = [' ', '*', ' '] := rfl
  have hempty : " *".toList = [' ', '*'] := rfl
  refine or_congr ?_ ⟨?_, ?_⟩
  · rw [← hempty, String.toList_inj]
  · rintro ⟨rest, rfl⟩
    exact ⟨rest.toList, by simp [hlead]⟩
  · rintro ⟨cs, hcs⟩
    refine ⟨String.ofList cs, String.toList_inj.mp ?_⟩
    simp [hcs, hlead]

/-- A guarded line has a star exactly if the line itself has one. -/
theorem starred_guarded_iff {line : String} : Starred (guarded line) ↔ Starred line := by
  rw [starred_iff_toList, starred_iff_toList, guarded, String.toList_ofList]
  generalize line.toList = cs
  constructor
  · rintro (h | ⟨ds, h⟩)
    · obtain ⟨tail, rfl, htail⟩ := exists_of_guardComment_eq h (by decide)
      obtain ⟨rest, rfl, hrest⟩ := exists_of_guardComment_eq htail (by decide)
      have hnil : rest.head? = none := by
        rw [← head?_guardComment, hrest]
        rfl
      rw [List.head?_eq_none_iff.mp hnil]
      exact .inl rfl
    · obtain ⟨tail, rfl, htail⟩ := exists_of_guardComment_eq h (by simp)
      obtain ⟨rest, rfl, hrest⟩ := exists_of_guardComment_eq htail (by simp)
      have hspace : rest.head? = some ' ' := by
        rw [← head?_guardComment, hrest]
        rfl
      obtain ⟨behind, rfl⟩ := List.head?_eq_some_iff.mp hspace
      exact .inr ⟨behind, rfl⟩
  · rintro (rfl | ⟨cs, rfl⟩)
    · exact .inl rfl
    · exact .inr ⟨guardComment cs, by simp [guardComment]⟩

theorem splitLines_commented {line : String} (h : '\n' ∉ line.toList) :
    splitLines (commented line) = [commented line] :=
  splitLines_of_not_mem (feed_not_mem_commented h)

theorem splitLines_commented_title (title : String) :
    ∃ first, splitLines (commented ("#### Title: " ++ title)) =
      (" * " ++ first) :: (splitLines title).tail.map guarded := by
  have hlead : guarded ("#### Title: " ++ title) = "#### Title: " ++ guarded title := by
    apply String.toList_inj.mp
    rw [guarded, String.toList_ofList, String.toList_append, guardComment_append (by decide)]
    simp [guarded]
  have hline : commented ("#### Title: " ++ title) = " * #### Title: " ++ guarded title := by
    have hfull : ("#### Title: " ++ title).isEmpty = false := by simp
    rw [commented, hfull, if_neg Bool.false_ne_true, ← guarded, hlead, ← String.append_assoc]
    rfl
  obtain ⟨first, rest, hfirst⟩ := List.exists_cons_of_ne_nil (splitLines_ne_nil title)
  have hguarded : splitLines (guarded title) = guarded first :: rest.map guarded := by
    rw [splitLines_guarded, hfirst, List.map_cons]
  have hopen : splitLines " * #### Title: " = [] ++ [" * #### Title: "] :=
    splitLines_of_not_mem (by decide)
  refine ⟨"#### Title: " ++ guarded first, ?_⟩
  rw [hline, splitLines_append hopen hguarded, hfirst, List.nil_append, List.tail_cons,
    ← String.append_assoc]
  rfl

/-- The lines of a comment, as they are once the pieces it is made of have been cut at their line feeds. -/
def commentBody (pieces : List String) : List String :=
  pieces.flatMap fun piece => splitLines (commented piece)

theorem commentBody_append (xs ys : List String) :
    commentBody (xs ++ ys) = commentBody xs ++ commentBody ys := by
  simp [commentBody]

theorem starred_of_mem_commentBody {pieces : List String} (h : ∀ piece ∈ pieces, '\n' ∉ piece.toList) :
    ∀ line ∈ commentBody pieces, Starred line := by
  intro line hline
  obtain ⟨piece, hpiece, hline⟩ := List.mem_flatMap.mp hline
  rw [splitLines_commented (h piece hpiece), List.mem_singleton] at hline
  subst hline
  exact starred_commented piece

theorem feed_not_mem_descriptionLines (e : Example) :
    ∀ piece ∈ descriptionLines e, '\n' ∉ piece.toList := by
  intro piece hpiece
  unfold descriptionLines at hpiece
  split at hpiece
  · simp only [List.cons_append, List.mem_cons, List.mem_append, List.not_mem_nil, or_false] at hpiece
    rcases hpiece with rfl | hline | rfl
    · decide
    · exact feed_not_mem_of_mem_lines hline
    · decide
  · cases hpiece

theorem titleLines_eq (e : Example) :
    (titleLines e = [] ∧ furtherTitle e = []) ∨
      ∃ title, titleLines e = ["#### Title: " ++ title, ""] ∧ furtherTitle e = (splitLines title).tail := by
  unfold titleLines furtherTitle nonempty
  cases htitle : e.title with
  | none => exact .inl ⟨rfl, rfl⟩
  | some title =>
    by_cases hempty : title = ""
    · subst hempty
      exact .inl ⟨rfl, rfl⟩
    · have hkept : (some title).filter (fun s => !s.isEmpty) = some title := by
        simp [Option.filter, hempty]
      rw [hkept]
      exact .inr ⟨title, rfl, rfl⟩

/-- All lines of a comment have a star but for the further lines of the title, which are guarded and else as
they are. -/
theorem mem_commentBody_fragmentLines (core : String) (e : Example) :
    (∀ line ∈ commentBody (fragmentLines core e), Starred line ∨ line ∈ (furtherTitle e).map guarded) ∧
      (furtherTitle e).map guarded ⊆ commentBody (fragmentLines core e) := by
  have hrest : ∀ piece ∈ descriptionLines e ++ ("@example" :: "```typescript" ::
      Text.lines (trimEnd core) ++ ["```"]), '\n' ∉ piece.toList := by
    intro piece hpiece
    simp only [List.mem_append, List.mem_cons, List.not_mem_nil, or_false] at hpiece
    rcases hpiece with hdescription | (rfl | rfl | hline) | rfl
    · exact feed_not_mem_descriptionLines e piece hdescription
    · decide
    · decide
    · exact feed_not_mem_of_mem_lines hline
    · decide
  have hstarred := starred_of_mem_commentBody hrest
  have hlines : fragmentLines core e = titleLines e ++ (descriptionLines e ++ ("@example" ::
      "```typescript" :: Text.lines (trimEnd core) ++ ["```"])) := by
    simp [fragmentLines]
  rw [hlines, commentBody_append]
  obtain ⟨hnone, hfurther⟩ | ⟨title, hsome, hfurther⟩ := titleLines_eq e
  · rw [hnone, hfurther]
    exact ⟨fun line hline => .inl (hstarred line hline), fun line hline => absurd hline List.not_mem_nil⟩
  · obtain ⟨first, hfirst⟩ := splitLines_commented_title title
    have htitle : commentBody (titleLines e) =
        (" * " ++ first) :: (furtherTitle e).map guarded ++ [" *"] := by
      rw [hsome, hfurther, commentBody, List.flatMap_cons, List.flatMap_singleton, hfirst]
      rfl
    rw [htitle]
    constructor
    · intro line hline
      rcases List.mem_append.mp hline with hline | hline
      · simp only [List.cons_append, List.mem_cons, List.mem_append, List.not_mem_nil, or_false] at hline
        rcases hline with rfl | hguarded | rfl
        · exact .inl (.inr ⟨first, rfl⟩)
        · exact .inr hguarded
        · exact .inl (.inl rfl)
      · exact .inl (hstarred line hline)
    · intro line hline
      simp [hline]

theorem closedLines_fragment (core : String) (op : Operation) (g : Group) (e : Example) :
    closedLines (fragment core op g e) =
      "/**" :: commentBody (fragmentLines core e) ++ [" */", reservation op g] := by
  have hopen : splitLines "/**" = ["/**"] := by decide
  have hclose : splitLines " */" = [" */"] := by decide
  rw [fragment_eq, closedLines_unlines, List.flatMap_append, opening, List.flatMap_cons, hopen,
    List.flatMap_map]
  simp [commentBody, hclose, splitLines_of_not_mem (feed_not_mem_reservation op g)]

theorem insideComment_fragment (core : String) (op : Operation) (g : Group) (e : Example) :
    insideComment (fragment core op g e) = commentBody (fragmentLines core e) := by
  have hinside : ∀ line ∈ commentBody (fragmentLines core e), (line != " */") = true := by
    intro line hline
    obtain ⟨piece, -, hline⟩ := List.mem_flatMap.mp hline
    have hends := commentEnds_of_mem_splitLines (commentEnds_commented piece) hline
    rw [bne_iff_ne]
    rintro rfl
    revert hends
    decide
  rw [insideComment, closedLines_fragment, List.cons_append, List.tail_cons,
    List.takeWhile_append_of_pos hinside, List.takeWhile_cons_of_neg (by simp), List.append_nil]

theorem everyLineStarred_fragment_iff (core : String) (op : Operation) (g : Group) (e : Example) :
    EveryLineStarred (fragment core op g e) ↔ ∀ line ∈ furtherTitle e, Starred line := by
  obtain ⟨hlines, hfurther⟩ := mem_commentBody_fragmentLines core e
  rw [EveryLineStarred, insideComment_fragment]
  constructor
  · intro hall line hline
    exact starred_guarded_iff.mp (hall _ (hfurther (List.mem_map_of_mem hline)))
  · intro hall line hline
    obtain hstarred | hguarded := hlines line hline
    · exact hstarred
    · obtain ⟨further, hmem, rfl⟩ := List.mem_map.mp hguarded
      exact starred_guarded_iff.mpr (hall further hmem)

/-- The lines between the first line of a comment and the one that closes it have a star, but for the further
lines of the title. So all of them have one exactly if the further lines of the title bring it along. -/
theorem stars_iff (a : Assembler) (op : Operation) (g : Group) (e : Example) (text : String)
    (h : (a.assemble .inline op g e).value = some text) :
    closedLines text = "/**" :: insideComment text ++ [" */", reservation op g] ∧
      (∀ line ∈ insideComment text, Starred line ∨ line ∈ (furtherTitle e).map guarded) ∧
      (EveryLineStarred text ↔ ∀ line ∈ furtherTitle e, Starred line) := by
  obtain ⟨core, -, rfl⟩ := Option.map_eq_some_iff.mp h
  refine ⟨?_, ?_, everyLineStarred_fragment_iff core op g e⟩
  · rw [surround, insideComment_fragment]
    exact closedLines_fragment core op g e
  · rw [surround, insideComment_fragment]
    exact (mem_commentBody_fragmentLines core e).1

def titled (title : String) : Example :=
  { name := "e", title := some title, description := some "/**\r\n\n*/ b\n" }

theorem assemble_titled (title : String) :
    ∃ core, (plain.assemble .inline (requiring []) {} (titled title)).value =
      some (fragment core (requiring []) {} (titled title)) := by
  rw [assemble_value, core_eq_script, script?_of_complete rfl]
  exact ⟨_, rfl⟩

theorem stars_second_line :
    ∃ text, (plain.assemble .inline (requiring []) {} (titled "a\n * b")).value = some text ∧
      furtherTitle (titled "a\n * b") = [" * b"] ∧ EveryLineStarred text := by
  obtain ⟨core, hassembled⟩ := assemble_titled "a\n * b"
  obtain ⟨-, -, hstars⟩ := stars_iff plain (requiring []) {} (titled "a\n * b") _ hassembled
  have hfurther : furtherTitle (titled "a\n * b") = [" * b"] := by decide
  refine ⟨_, hassembled, hfurther, hstars.mpr fun line hline => ?_⟩
  rw [hfurther, List.mem_singleton] at hline
  subst hline
  exact .inr ⟨"b", rfl⟩

theorem not_starred_second_line :
    ∃ text, (plain.assemble .inline (requiring []) {} (titled "a\nb")).value = some text ∧
      "b" ∈ insideComment text ∧ ¬ EveryLineStarred text := by
  obtain ⟨core, hassembled⟩ := assemble_titled "a\nb"
  have hfurther : furtherTitle (titled "a\nb") = ["b"] := by decide
  refine ⟨_, hassembled, ?_, fun hall => ?_⟩
  · rw [insideComment_fragment]
    apply (mem_commentBody_fragmentLines core (titled "a\nb")).2
    decide
  · have hstarred := (everyLineStarred_fragment_iff _ _ _ _).mp hall "b" (by simp [hfurther])
    rw [starred_iff_toList] at hstarred
    simp at hstarred

end Assembler

end ApiSamples
