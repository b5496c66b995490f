import ApiSamples.Proofs.Sample.Script
import ApiSamples.Proofs.Text.Casing
import Mathlib.Algebra.GroupWithZero.Nat
import Mathlib.Data.List.Infix

namespace ApiSamples

def terminators (cs : List Char) : Nat := cs.tails.countP fun tail => ['*', '/'].isPrefixOf tail

def commentEnds (text : String) : Nat := terminators text.toList

theorem isPrefixOf_terminator (c : Char) (cs : List Char) :
    ['*', '/'].isPrefixOf (c :: cs) = true ↔ c = '*' ∧ cs.head? = some '/' := by
  cases cs with
  | nil => simp [List.isPrefixOf]
  | cons d cs =>
    rw [List.isPrefixOf_iff_prefix, List.cons_prefix_cons, List.cons_prefix_cons, List.head?_cons,
      Option.some.injEq]
    constructor
    · rintro ⟨rfl, rfl, -⟩
      exact ⟨rfl, rfl⟩
    · rintro ⟨rfl, rfl⟩
      exact ⟨rfl, rfl, List.nil_prefix⟩

theorem terminators_cons (c : Char) (cs : List Char) :
    terminators (c :: cs) = terminators cs + if c = '*' ∧ cs.head? = some '/' then 1 else 0 := by
  rw [terminators, List.tails_cons, List.countP_cons, ← terminators]
  simp only [isPrefixOf_terminator]

theorem terminators_eq_zero {cs : List Char} (h : '/' ∉ cs) : terminators cs = 0 := by
  induction cs with
  | nil => rfl
  | cons c cs ih =>
    have hcs : '/' ∉ cs := fun hm => h (List.mem_cons_of_mem _ hm)
    have hhead : cs.head? ≠ some '/' := fun hm => hcs (List.mem_of_head? hm)
    simp [terminators_cons, ih hcs, hhead]

/-- A line feed stands in no end of a comment. -/
theorem terminators_append_feed (xs ys : List Char) :
    terminators (xs ++ '\n' :: ys) = terminators xs + terminators ys := by
  induction xs with
  | nil =>
    have hnone : terminators [] = 0 := rfl
    rw [List.nil_append, terminators_cons, hnone]
    simp
  | cons x xs ih =>
    have hhead : (xs ++ '\n' :: ys).head? = some '/' ↔ xs.head? = some '/' := by
      cases xs <;> simp
    rw [List.cons_append, terminators_cons, terminators_cons, ih]
    simp only [hhead]
    omega

namespace Assembler

theorem head?_guardComment (cs : List Char) : (guardComment cs).head? = cs.head? := by
  fun_cases guardComment cs <;> rfl

theorem terminators_guardComment (cs : List Char) : terminators (guardComment cs) = 0 := by
  fun_induction guardComment cs with
  | case1 cs ih => simp [terminators_cons, ih]
  | case2 c cs hpair ih =>
    rw [terminators_cons, ih, head?_guardComment]
    split
    · next h =>
      obtain ⟨rfl, hhead⟩ := h
      cases cs with
      | nil => cases hhead
      | cons d cs =>
        obtain rfl := Option.some.inj hhead
        exact absurd rfl (hpair cs rfl)
    · rfl
  | case3 => rfl

end Assembler

theorem commentEnds_append_feed (s t : String) :
    commentEnds (s ++ "\n" ++ t) = commentEnds s + commentEnds t := by
  have hfeed : "\n".toList = ['\n'] := rfl
  rw [commentEnds, String.toList_append, String.toList_append, hfeed, List.append_assoc,
    List.singleton_append, terminators_append_feed]
  rfl

theorem commentEnds_unlines (ls : List String) :
    commentEnds (Text.unlines ls) = (ls.map commentEnds).sum := by
  induction ls with
  | nil => rfl
  | cons l ls ih => rw [Text.unlines_cons, commentEnds_append_feed, ih, List.map_cons, List.sum_cons]

theorem commentEnds_eq_sum (s : String) :
    commentEnds s = ((Text.splitLines s).map commentEnds).sum := by
  have hempty : commentEnds "" = 0 := rfl
  have hlines := commentEnds_unlines (Text.splitLines s)
  rw [Text.unlines_splitLines, ← String.append_empty (s := s ++ "\n"), commentEnds_append_feed,
    hempty] at hlines
  exact hlines

theorem commentEnds_of_mem_splitLines {s l : String} (h : commentEnds s = 0)
    (hl : l ∈ Text.splitLines s) : commentEnds l = 0 := by
  rw [commentEnds_eq_sum, List.sum_eq_zero_iff_forall_eq_nat] at h
  exact h _ (List.mem_map_of_mem hl)

namespace Assembler

def commented (line : String) : String :=
  if line.isEmpty then " *" else " * " ++ String.ofList (guardComment line.toList)

theorem commentLine_eq (line : String) : commentLine line = commented line ++ "\n" := by
  unfold commentLine commented
  split <;> rfl

theorem commentEnds_commented (line : String) : commentEnds (commented line) = 0 := by
  have hlead : " * ".toList = [' ', '*', ' '] := rfl
  unfold commented
  split
  · decide
  · rw [commentEnds, String.toList_append, hlead, String.toList_ofList]
    simp [terminators_cons, terminators_guardComment]

def opening (core : String) (e : Example) : List String :=
  "/**" :: (fragmentLines core e).map commented

def reservation (op : Operation) (g : Group) : String := "var " ++ Sample.reservedFor op g ++ ";"

theorem fragment_eq (core : String) (op : Operation) (g : Group) (e : Example) :
    fragment core op g e = Text.unlines (opening core e ++ [" */", reservation op g]) := by
  have hbody : String.join ((fragmentLines core e).map commentLine) =
      Text.unlines ((fragmentLines core e).map commented) := by
    rw [Text.unlines, List.map_map]
    congr 1
    refine List.map_congr_left fun line _ => ?_
    rw [commentLine_eq]
    rfl
  have hclose : " */\n" = " */" ++ "\n" := rfl
  have hopen : "/**\n" = "/**" ++ "\n" := rfl
  have hend : ";\n" = ";" ++ "\n" := rfl
  rw [fragment, hbody, opening, Text.unlines_append, Text.unlines_cons, hclose, hopen, hend]
  simp only [reservation, Text.unlines_cons, Text.unlines_nil, String.append_empty, String.append_assoc]

theorem isNamePart_of_mem_reservedFor {op : Operation} {g : Group} {c : Char}
    (h : c ∈ (Sample.reservedFor op g).toList) : Text.isNamePart c = true := by
  have hsample : "Sample".toList.all Text.isNamePart = true := by decide
  simp only [Sample.reservedFor, String.toList_append, Text.toList_pascal, List.mem_append] at h
  rcases h with (h | h) | h
  · exact Text.isNamePart_of_mem_pascalChars h
  · exact Text.isNamePart_of_mem_pascalChars h
  · exact List.all_eq_true.mp hsample c h

theorem mem_reservation {op : Operation} {g : Group} {c : Char} (h : c ∈ (reservation op g).toList) :
    Text.isNamePart c = true ∨ c = ' ' ∨ c = ';' := by
  have hvar : "var ".toList.all (fun d => Text.isNamePart d || d == ' ') = true := by decide
  have hend : ";".toList = [';'] := rfl
  simp only [reservation, String.toList_append, hend, List.mem_append, List.mem_singleton] at h
  rcases h with (h | h) | h
  · have hlead := List.all_eq_true.mp hvar c h
    rw [Bool.or_eq_true, beq_iff_eq] at hlead
    exact hlead.imp_right Or.inl
  · exact .inl (isNamePart_of_mem_reservedFor h)
  · exact .inr (.inr h)

theorem commentEnds_reservation (op : Operation) (g : Group) : commentEnds (reservation op g) = 0 := by
  apply terminators_eq_zero
  intro h
  have hslash := mem_reservation h
  revert hslash
  decide

theorem feed_not_mem_reservation (op : Operation) (g : Group) : '\n' ∉ (reservation op g).toList := by
  intro h
  have hfeed := mem_reservation h
  revert hfeed
  decide

theorem commentEnds_opening (core : String) (e : Example) :
    ∀ line ∈ opening core e, commentEnds line = 0 := by
  intro line hline
  rcases List.mem_cons.mp hline with rfl | hline
  · decide
  · obtain ⟨inner, -, rfl⟩ := List.mem_map.mp hline
    exact commentEnds_commented inner

theorem commentEnds_fragment (core : String) (op : Operation) (g : Group) (e : Example) :
    commentEnds (fragment core op g e) = 1 := by
  have hopening : ((opening core e).map commentEnds).sum = 0 := by
    rw [List.sum_eq_zero_iff_forall_eq_nat]
    intro n hn
    obtain ⟨line, hline, rfl⟩ := List.mem_map.mp hn
    exact commentEnds_opening core e line hline
  have hclose : commentEnds " */" = 1 := by decide
  rw [fragment_eq, commentEnds_unlines, List.map_append, List.sum_append, hopening]
  simp [hclose, commentEnds_reservation]

/-- The lines of a fragment: no comment ends before the last two of them. -/
theorem splitLines_fragment (core : String) (op : Operation) (g : Group) (e : Example) :
    ∃ before, Text.splitLines (fragment core op g e) = before ++ [" */", reservation op g, ""] ∧
      ∀ line ∈ before, commentEnds line = 0 := by
  have hclose : Text.splitLines " */" = [" */"] := by decide
  refine ⟨(opening core e).flatMap Text.splitLines, ?_, fun line hline => ?_⟩
  · rw [fragment_eq, Text.splitLines_unlines, List.flatMap_append]
    simp [hclose, Text.splitLines_of_not_mem (feed_not_mem_reservation op g)]
  · obtain ⟨chunk, hchunk, hmem⟩ := List.mem_flatMap.mp hline
    exact commentEnds_of_mem_splitLines (commentEnds_opening core e chunk hchunk) hmem

end Assembler

end ApiSamples
