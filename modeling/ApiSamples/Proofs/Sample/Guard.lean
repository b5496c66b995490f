import ApiSamples.Json.Reader
import ApiSamples.Proofs.Json.Quoted
import ApiSamples.Proofs.Sample.Comment
import Mathlib.Tactic.SplitIfs

namespace ApiSamples

open Quoted

namespace Quoted

theorem hexDigit_ne_star {n : Nat} (h : n < 16) : hexDigit n ≠ '*' := by
  have hall : ∀ n < 16, hexDigit n ≠ '*' := by decide
  exact hall n h

theorem star_not_mem_escape {c : Char} (h : c ≠ '*') : '*' ∉ escape c := by
  have hhigh : c.toNat < 32 → '*' ≠ hexDigit (c.toNat / 16) :=
    fun _ => (hexDigit_ne_star (by omega)).symm
  have hlow : '*' ≠ hexDigit (c.toNat % 16) := (hexDigit_ne_star (by omega)).symm
  unfold escape
  split_ifs <;> simp_all [eq_comm]

theorem eq_slash_of_head?_escape {c : Char} {cs : List Char} (h : (escape c ++ cs).head? = some '/') :
    c = '/' := by
  unfold escape at h
  split_ifs at h <;> simp_all

theorem scan_slash (rest : List Char) : scan ('\\' :: '/' :: rest) =
    (scan rest).map fun (parts, rest) => (partOf '/' :: parts, rest) := by
  cases hs : scan rest <;> simp [scan, letter?, partOf, hs]

end Quoted

namespace Assembler

def guarded (s : String) : String := String.ofList (guardComment s.toList)

theorem commented_eq :
    commented = fun line => if line = "" then " *" else " * " ++ guarded line := by
  funext line
  simp [commented, guarded]

theorem guardComment_cons {c : Char} {cs : List Char} (h : c = '*' → cs.head? ≠ some '/') :
    guardComment (c :: cs) = c :: guardComment cs := by
  rw [guardComment.eq_2]
  rintro rest rfl rfl
  exact h rfl rfl

theorem guardComment_append {xs : List Char} (h : '*' ∉ xs) (ys : List Char) :
    guardComment (xs ++ ys) = xs ++ guardComment ys := by
  induction xs with
  | nil => rfl
  | cons x xs ih =>
    obtain ⟨hx, hxs⟩ := not_or.mp (mt List.mem_cons.mpr h)
    rw [List.cons_append, guardComment_cons (fun heq => absurd heq.symm hx), ih hxs, List.cons_append]

theorem guardComment_escape {c : Char} {cs : List Char} (h : c = '*' → cs.head? ≠ some '/') :
    guardComment (escape c ++ cs) = escape c ++ guardComment cs := by
  by_cases hc : c = '*'
  · subst hc
    have hstar : escape '*' = ['*'] := by decide
    rw [hstar, List.singleton_append, guardComment_cons h, List.singleton_append]
  · exact guardComment_append (star_not_mem_escape hc) cs

/-- The parts of a quoted text are read as before. -/
theorem scan_guardComment (cs : List Char) :
    scan (guardComment (cs.flatMap escape ++ ['"'])) = some (cs.map partOf, []) := by
  fun_induction guardComment cs with
  | case1 cs ih =>
    have hpair : ('*' :: '/' :: cs).flatMap escape = '*' :: '/' :: cs.flatMap escape := rfl
    rw [hpair, List.cons_append, List.cons_append, guardComment,
      scan_char (by decide) (by decide) (by decide)]
    rw [scan_slash, ih]
    rfl
  | case2 c cs hpair ih =>
    have hapart : c = '*' → (cs.flatMap escape ++ ['"']).head? ≠ some '/' := by
      rintro rfl hhead
      cases cs with
      | nil => cases hhead
      | cons d cs =>
        rw [List.flatMap_cons, List.append_assoc] at hhead
        obtain rfl := eq_slash_of_head?_escape hhead
        exact hpair cs rfl rfl
    rw [List.flatMap_cons, List.append_assoc, guardComment_escape hapart, scan_escape, ih]
    rfl
  | case3 => rfl

theorem parse_guarded_quote (s : String) :
    Reader.json.parse (guarded (quote s)) = .ok (.string s) := by
  have htext : (guarded (quote s)).toList = '"' :: guardComment (s.toList.flatMap escape ++ ['"']) := by
    rw [guarded, String.toList_ofList, quote, String.toList_ofList, encode, List.cons_append]
    exact guardComment_cons fun h => absurd h (by decide)
  have hdoc : Document.ofText (guarded (quote s)) = (.string s, true) := by
    rw [Document.ofText, htext]
    simp [Document.scanValue, Document.skipSpace, Document.isSpace, Document.scanString,
      scan_guardComment, join?_map_partOf]
  rw [Reader.parse, hdoc]
  rfl

end Assembler

end ApiSamples
