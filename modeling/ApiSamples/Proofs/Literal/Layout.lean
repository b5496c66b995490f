import ApiSamples.Proofs.Literal.Entries

namespace ApiSamples

open Scanner

namespace Text

theorem eq_space_of_mem_margin {depth : Nat} {c : Char} (h : c ∈ (margin depth).toList) : c = ' ' := by
  have hspaces : "  ".toList = [' ', ' '] := rfl
  unfold margin at h
  induction depth with
  | zero => simp [repeated] at h
  | succ n ih =>
    rw [repeated, String.toList_append, hspaces, List.mem_append] at h
    rcases h with h | h
    · simpa using h
    · exact ih h

end Text

namespace Literal

inductive Sound : Literal → Prop where
  | absent : Sound .absent
  | scalar {s : String} (h : Token s.toList) : Sound (.scalar s)
  | object {entries : List (String × Literal)} (h : ∀ e ∈ entries, Sound e.2) : Sound (.object entries)
  | list {items : List Literal} (h : ∀ item ∈ items, Sound item) : Sound (.list items)

inductive Scalars (P : String → Prop) : Literal → Prop where
  | absent : Scalars P .absent
  | scalar {s : String} (h : P s) : Scalars P (.scalar s)
  | object {entries : List (String × Literal)} (h : ∀ e ∈ entries, Scalars P e.2) :
    Scalars P (.object entries)
  | list {items : List Literal} (h : ∀ item ∈ items, Scalars P item) : Scalars P (.list items)

theorem Scalars.sound {l : Literal} (h : l.Scalars fun s => Token s.toList) : l.Sound := by
  induction h with
  | absent => exact .absent
  | scalar h => exact .scalar h
  | object _ ih => exact .object ih
  | list _ ih => exact .list ih

def entryText (depth : Nat) (e : String × Literal) : String := key e.1 ++ ": " ++ text depth e.2

theorem entryTexts_eq (depth : Nat) (entries : List (String × Literal)) :
    entryTexts depth entries = (entries.map (entryText depth)).map (Text.margin depth ++ ·) := by
  induction entries with
  | nil => rfl
  | cons e entries ih => simp [entryTexts, entryText, ih, String.append_assoc]

theorem itemTexts_eq (depth : Nat) (items : List Literal) :
    itemTexts depth items = (items.map (text depth)).map (Text.margin depth ++ ·) := by
  induction items with
  | nil => rfl
  | cons item items ih => simp [itemTexts, ih]

section

variable {opening closing : String} {a b : Char} {texts : List String}

theorem toList_bracketed (ho : opening.toList = [a]) (hc : closing.toList = [b]) (depth : Nat)
    (hne : texts ≠ []) :
    (bracketed opening closing depth (texts.map (Text.margin (depth + 1) ++ ·))).toList =
      a :: lined (Text.margin (depth + 1)).toList (Text.margin depth).toList
        (texts.map String.toList) ++ [b] := by
  have hcomma : ",\n".toList = [',', '\n'] := rfl
  have hfeed : "\n".toList = ['\n'] := rfl
  have hmap : ((texts.map (Text.margin (depth + 1) ++ ·)).map String.toList) =
      (texts.map String.toList).map ((Text.margin (depth + 1)).toList ++ ·) := by
    simp
  have hfull : (texts.map (Text.margin (depth + 1) ++ ·)).isEmpty = false := by
    simpa using hne
  rw [bracketed, hfull, if_neg Bool.false_ne_true]
  simp only [String.toList_append, String.toList_intercalate, ho, hc, hcomma, hfeed, hmap, lined]
  simp

/-- Brackets around lines of tokens: the whole is a token, and its entries are the lines. -/
theorem bracketed_spec (ho : opening.toList = [a]) (hc : closing.toList = [b])
    (henclose : ∀ cs, Scanner.Balanced cs → Token (a :: cs ++ [b])) (depth : Nat)
    (ht : ∀ t ∈ texts, Token t.toList) :
    Token (bracketed opening closing depth (texts.map (Text.margin (depth + 1) ++ ·))).toList ∧
      entriesOf (bracketed opening closing depth (texts.map (Text.margin (depth + 1) ++ ·))) = texts := by
  cases texts with
  | nil =>
    have hempty : (bracketed opening closing depth []).toList = a :: [] ++ [b] := by
      simp [bracketed, ho, hc]
    refine ⟨hempty ▸ henclose [] balanced_nil, ?_⟩
    simp [entriesOf, insideOf, hempty]
  | cons text texts =>
    have hlist := toList_bracketed ho hc depth (List.cons_ne_nil text texts)
    have htokens : ∀ t ∈ text.toList :: texts.map String.toList, Token t := by
      intro t hm
      obtain ⟨s, hs, rfl⟩ := List.mem_map.mp (List.map_cons ▸ hm)
      exact ht s hs
    have hmargin : ∀ n, ∀ c ∈ (Text.margin n).toList, c = ' ' := fun _ _ => Text.eq_space_of_mem_margin
    obtain ⟨hbalanced, hcut⟩ := cut_lined (hmargin (depth + 1)) (hmargin depth) htokens
    rw [hlist, List.map_cons]
    refine ⟨henclose _ hbalanced, ?_⟩
    have hinside : insideOf (bracketed opening closing depth
        ((text :: texts).map (Text.margin (depth + 1) ++ ·))) =
        lined (Text.margin (depth + 1)).toList (Text.margin depth).toList
          (text.toList :: texts.map String.toList) := by
      rw [insideOf, hlist]
      simp
    have hblank : (lined (Text.margin (depth + 1)).toList (Text.margin depth).toList
        (text.toList :: texts.map String.toList)).all Text.isBlank = false := by
      obtain ⟨c, rest, hfirst, hc⟩ := (htokens text.toList (by simp)).first
      rw [List.all_eq_false]
      exact ⟨c, mem_lined (by simp [hfirst]), by simp [hc]⟩
    rw [entriesOf, hinside, hblank, if_neg Bool.false_ne_true, hcut]
    simp

end

theorem token_entryText {depth : Nat} {e : String × Literal} (h : Token (text depth e.2).toList) :
    Token (entryText depth e).toList := by
  have hcolon : Sealed ": ".toList := sealed_of_isPlain (by decide)
  simpa [entryText] using (token_key e.1).append hcolon h

theorem Sound.token {l : Literal} (h : l.Sound) (depth : Nat) : Token (text depth l).toList := by
  induction h generalizing depth with
  | absent =>
    have hword : Token "undefined".toList := token_word (by decide) (by decide)
    exact hword
  | scalar h => exact h
  | object h ih =>
    rw [text, entryTexts_eq]
    refine (bracketed_spec rfl rfl (fun _ => token_braces) depth ?_).1
    intro t ht
    obtain ⟨e, he, rfl⟩ := List.mem_map.mp ht
    exact token_entryText (ih e he (depth + 1))
  | list h ih =>
    rw [text, itemTexts_eq]
    refine (bracketed_spec rfl rfl (fun _ => token_brackets) depth ?_).1
    intro t ht
    obtain ⟨item, hi, rfl⟩ := List.mem_map.mp ht
    exact ih item hi (depth + 1)

theorem entriesOf_object {entries : List (String × Literal)} (h : ∀ e ∈ entries, e.2.Sound)
    (depth : Nat) :
    (entriesOf (text depth (.object entries))).map readEntry? =
      entries.map fun e => some (e.1, text (depth + 1) e.2) := by
  have htokens : ∀ t ∈ entries.map (entryText (depth + 1)), Token t.toList := by
    intro t ht
    obtain ⟨e, he, rfl⟩ := List.mem_map.mp ht
    exact token_entryText ((h e he).token (depth + 1))
  have hentries : entriesOf (text depth (.object entries)) = entries.map (entryText (depth + 1)) := by
    rw [text, entryTexts_eq]
    exact (bracketed_spec rfl rfl (fun _ => token_braces) depth htokens).2
  rw [hentries, List.map_map]
  refine List.map_congr_left fun e he => ?_
  exact readEntry?_key e.1 ((h e he).token (depth + 1))

theorem entriesOf_list {items : List Literal} (h : ∀ item ∈ items, item.Sound) (depth : Nat) :
    entriesOf (text depth (.list items)) = items.map (text (depth + 1)) := by
  rw [text, itemTexts_eq]
  refine (bracketed_spec rfl rfl (fun _ => token_brackets) depth ?_).2
  intro t ht
  obtain ⟨item, hi, rfl⟩ := List.mem_map.mp ht
  exact (h item hi).token (depth + 1)

end Literal

end ApiSamples
