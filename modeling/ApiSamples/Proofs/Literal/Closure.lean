import ApiSamples.Proofs.Json.Printed
import ApiSamples.Proofs.Literal.Layout

namespace ApiSamples

/-- Characters that neither break a line nor begin a string literal. -/
def Bare (cs : List Char) : Prop := ∀ c ∈ cs, 32 ≤ c.toNat ∧ Scanner.isQuote c = false

instance (cs : List Char) : Decidable (Bare cs) := List.decidableBAll _ cs

theorem Bare.printed {cs : List Char} (h : Bare cs) : Printed cs := fun c hc => (h c hc).1

namespace Literal

/-- What stands behind a line feed in a literal. -/
def breakers : List Char := [' ', '\x7d', ']']

/-- Texts that go along with the layout: with joining, with line feeds in the places that it gives them, with
plain words and marks, and with quoted names. -/
structure LayoutClosed (Q : List Char → Prop) : Prop where
  append {xs ys : List Char} : Q xs → Q ys → Q (xs ++ ys)
  feed {c : Char} {cs : List Char} : c ∈ breakers → Q (c :: cs) → Q ('\n' :: c :: cs)
  bare {cs : List Char} : Bare cs → Q cs
  quote (s : String) : Q (Quoted.quote s).toList

theorem bare_margin (depth : Nat) : Bare (Text.margin depth).toList := by
  intro c hc
  rw [Text.eq_space_of_mem_margin hc]
  decide

theorem bare_of_isKeyChar {cs : List Char} (h : cs.all isKeyChar = true) : Bare cs := by
  intro c hc
  have hkey := List.all_eq_true.mp h c hc
  obtain ⟨hl, -⟩ := graphic_of_isKeyChar hkey
  have hplain : Scanner.isPlain c = true := Scanner.isPlain_of (by decide) hkey
  rw [Scanner.isPlain, Bool.and_assoc, Bool.and_assoc, Bool.and_eq_true, Bool.not_eq_true'] at hplain
  exact ⟨by omega, hplain.1⟩

namespace LayoutClosed

variable {Q : List Char → Prop} {cs : List Char}

theorem line (hQ : LayoutClosed Q) (depth : Nat) (h : Q cs) :
    Q ('\n' :: ((Text.margin (depth + 1)).toList ++ cs)) := by
  have hmargin : (Text.margin (depth + 1)).toList = ' ' :: ' ' :: (Text.margin depth).toList := by
    rw [Text.margin, Text.repeated, String.toList_append]
    rfl
  have hline := hQ.append (hQ.bare (bare_margin (depth + 1))) h
  rw [hmargin] at hline ⊢
  exact hQ.feed (by decide) hline

theorem closing (hQ : LayoutClosed Q) {b : Char} (depth : Nat) (h : Q [b]) (hb : b ∈ breakers) :
    Q ('\n' :: ((Text.margin depth).toList ++ [b])) := by
  cases depth with
  | zero => exact hQ.feed hb h
  | succ depth => exact hQ.line depth h

theorem lined (hQ : LayoutClosed Q) {b : Char} (hb : Q [b]) (hbreak : b ∈ breakers) (depth : Nat)
    {text : List Char} {texts : List (List Char)} (h : ∀ t ∈ text :: texts, Q t) :
    Q (Literal.lined (Text.margin (depth + 1)).toList (Text.margin depth).toList (text :: texts) ++ [b]) := by
  induction texts generalizing text with
  | nil =>
    have hline := hQ.line depth (h text (by simp))
    simpa [lined_singleton] using hQ.append hline (hQ.closing depth hb hbreak)
  | cons other texts ih =>
    have hline := hQ.line depth (h text (by simp))
    have hcomma : Q [','] := hQ.bare (by decide)
    have hrest := ih fun t ht => h t (List.mem_cons_of_mem _ ht)
    simpa [lined_cons_cons] using hQ.append (hQ.append hline hcomma) hrest

theorem bracketed (hQ : LayoutClosed Q) {opening closing : String} {a b : Char}
    (ho : opening.toList = [a]) (hc : closing.toList = [b]) (ha : Bare [a]) (hb : Bare [b])
    (hbreak : b ∈ breakers) (depth : Nat) {texts : List String} (h : ∀ t ∈ texts, Q t.toList) :
    Q (Literal.bracketed opening closing depth
      (texts.map (Text.margin (depth + 1) ++ ·))).toList := by
  cases texts with
  | nil => simpa [Literal.bracketed, ho, hc] using hQ.append (hQ.bare ha) (hQ.bare hb)
  | cons text texts =>
    have htexts : ∀ t ∈ text.toList :: texts.map String.toList, Q t := by
      intro t hm
      obtain ⟨s, hs, rfl⟩ := List.mem_map.mp (List.map_cons ▸ hm)
      exact h s hs
    have hlined := hQ.append (hQ.bare ha) (hQ.lined (hQ.bare hb) hbreak depth htexts)
    rw [toList_bracketed ho hc depth (List.cons_ne_nil text texts)]
    simpa using hlined

theorem key (hQ : LayoutClosed Q) (name : String) : Q (Literal.key name).toList := by
  rcases key_cases name with ⟨-, hall, hkey⟩ | hkey
  · rw [hkey]
    exact hQ.bare (bare_of_isKeyChar hall)
  · rw [hkey]
    exact hQ.quote name

theorem entryText (hQ : LayoutClosed Q) {depth : Nat} {e : String × Literal}
    (h : Q (text depth e.2).toList) : Q (Literal.entryText depth e).toList := by
  have hcolon : Q ": ".toList := hQ.bare (by decide)
  simpa [Literal.entryText] using hQ.append (hQ.append (hQ.key e.1) hcolon) h

theorem text (hQ : LayoutClosed Q) {l : Literal} (h : l.Scalars fun s => Q s.toList) (depth : Nat) :
    Q (Literal.text depth l).toList := by
  induction h generalizing depth with
  | absent =>
    have hword : Bare "undefined".toList := by decide
    exact hQ.bare hword
  | scalar h => exact h
  | object h ih =>
    rw [Literal.text, entryTexts_eq]
    refine hQ.bracketed rfl rfl (by decide) (by decide) (by decide) depth fun t ht => ?_
    obtain ⟨e, he, rfl⟩ := List.mem_map.mp ht
    exact hQ.entryText (ih e he (depth + 1))
  | list h ih =>
    rw [Literal.text, itemTexts_eq]
    refine hQ.bracketed rfl rfl (by decide) (by decide) (by decide) depth fun t ht => ?_
    obtain ⟨item, hi, rfl⟩ := List.mem_map.mp ht
    exact ih item hi (depth + 1)

end LayoutClosed

end Literal

end ApiSamples
