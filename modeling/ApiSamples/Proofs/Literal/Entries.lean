import ApiSamples.Proofs.Literal.Scalar

namespace ApiSamples

open Scanner

namespace Literal

def insideOf (text : String) : List Char := text.toList.tail.dropLast

def entriesOf (text : String) : List String :=
  if (insideOf text).all Text.isBlank then []
  else ((cut start (insideOf text)).map Text.trimChars).map String.ofList

/-- The key of an entry, bare or quoted, and the text behind its colon. -/
def readEntry? (entry : String) : Option (String × String) :=
  match entry.toList with
  | '"' :: quoted =>
    match Quoted.scan quoted with
    | some (parts, ':' :: value) =>
      (Quoted.join? parts).map fun name => (String.ofList name, String.ofList (Text.trimChars value))
    | _ => none
  | cs =>
    match cs.dropWhile (· != ':') with
    | ':' :: value =>
      some (String.ofList (cs.takeWhile (· != ':')), String.ofList (Text.trimChars value))
    | _ => none

theorem key_cases (name : String) :
    (name.toList ≠ [] ∧ name.toList.all isKeyChar = true ∧ key name = name) ∨
      key name = Quoted.quote name := by
  unfold key
  split
  · next c cs hname =>
    split
    · next h =>
      rw [Bool.and_eq_true] at h
      have hstart : isKeyChar c = true := by
        simp only [isKeyStart, isKeyChar, Char.isAlphanum, Bool.or_eq_true] at h ⊢
        grind
      exact .inl ⟨by simp [hname], by rw [hname, List.all_cons, hstart, h.2]; rfl, rfl⟩
    · exact .inr rfl
  · exact .inr rfl

theorem token_key (name : String) : Token (key name).toList := by
  rcases key_cases name with ⟨hne, hall, hkey⟩ | hkey
  · rw [hkey]
    exact token_word hne hall
  · rw [hkey]
    exact Quoted.token_quote name

theorem trimChars_behind_blank {cs : List Char} (h : Token cs) : Text.trimChars (' ' :: cs) = cs := by
  have hspace : ∀ c ∈ [' '], Text.isBlank c = true := List.forall_mem_singleton.mpr rfl
  have htrim := h.trimChars hspace (List.forall_mem_nil _)
  rwa [List.append_nil] at htrim

/-- A key is told from the value behind it, whatever either of them holds. -/
theorem readEntry?_key (name : String) {value : String} (h : Token value.toList) :
    readEntry? (key name ++ ": " ++ value) = some (name, value) := by
  have hcolon : ": ".toList = [':', ' '] := rfl
  unfold readEntry?
  rw [String.toList_append, String.toList_append, hcolon]
  rcases key_cases name with ⟨hne, hall, hkey⟩ | hkey
  · obtain ⟨c, cs, hname⟩ := List.exists_cons_of_ne_nil hne
    have hplain : ∀ d ∈ name.toList, (d != ':') = true := by
      intro d hd
      rw [bne_iff_ne]
      rintro rfl
      have := List.all_eq_true.mp hall ':' hd
      revert this
      decide
    have hquote : c ≠ '"' := by
      rintro rfl
      have := List.all_eq_true.mp hall '"' (by simp [hname])
      revert this
      decide
    have hdrop : (name.toList ++ [':', ' '] ++ value.toList).dropWhile (· != ':') =
        ':' :: ' ' :: value.toList := by
      rw [List.append_assoc, List.dropWhile_append_of_pos hplain]
      rfl
    have htake : (name.toList ++ [':', ' '] ++ value.toList).takeWhile (· != ':') = name.toList := by
      rw [List.append_assoc, List.takeWhile_append_of_pos hplain]
      simp
    rw [hkey]
    split
    · next heq =>
      rw [hname] at heq
      exact absurd (List.cons.inj heq).1 hquote
    · rw [hdrop]
      simp only [htake, trimChars_behind_blank h, String.ofList_toList]
  · have hquoted : (Quoted.quote name).toList ++ [':', ' '] ++ value.toList =
        '"' :: (name.toList.flatMap Quoted.escape ++ '"' :: ':' :: ' ' :: value.toList) := by
      simp [Quoted.quote, Quoted.encode]
    rw [hkey, hquoted]
    simp only [Quoted.scan_flatMap_escape, Quoted.join?_map_partOf, trimChars_behind_blank h,
      Option.map_some, String.ofList_toList]

def lined (pad after : List Char) (texts : List (List Char)) : List Char :=
  '\n' :: [',', '\n'].intercalate (texts.map (pad ++ ·)) ++ '\n' :: after

theorem lined_singleton (pad after text : List Char) :
    lined pad after [text] = '\n' :: (pad ++ text) ++ '\n' :: after := by
  simp [lined]

theorem lined_cons_cons (pad after text other : List Char) (texts : List (List Char)) :
    lined pad after (text :: other :: texts) =
      '\n' :: (pad ++ text) ++ ',' :: lined pad after (other :: texts) := by
  simp [lined, List.intercalate_cons_cons]

theorem mem_lined {pad after text : List Char} {texts : List (List Char)} {c : Char} (h : c ∈ text) :
    c ∈ lined pad after (text :: texts) := by
  cases texts with
  | nil => simp [lined_singleton, h]
  | cons other texts => simp [lined_cons_cons, h]

theorem margin_inert {pad : List Char} (h : ∀ c ∈ pad, c = ' ') :
    Sealed ('\n' :: pad) ∧ ∀ c ∈ '\n' :: pad, Text.isBlank c = true := by
  have hall : ∀ c ∈ '\n' :: pad, c = '\n' ∨ c = ' ' := by
    intro c hc
    rcases List.mem_cons.mp hc with hc | hc
    · exact .inl hc
    · exact .inr (h c hc)
  refine ⟨sealed_of_isPlain (List.all_eq_true.mpr fun c hc => ?_), fun c hc => ?_⟩
  · rcases hall c hc with rfl | rfl <;> decide
  · rcases hall c hc with rfl | rfl <;> decide

/-- Lines of tokens are balanced, and cutting them at their commas gives the tokens back. -/
theorem cut_lined {pad after : List Char} (hpad : ∀ c ∈ pad, c = ' ') (hafter : ∀ c ∈ after, c = ' ')
    {token : List Char} {tokens : List (List Char)} (ht : ∀ t ∈ token :: tokens, Token t) :
    Scanner.Balanced (lined pad after (token :: tokens)) ∧
      (cut start (lined pad after (token :: tokens))).map Text.trimChars = token :: tokens := by
  obtain ⟨hlead, hblank⟩ := margin_inert hpad
  obtain ⟨htail, hend⟩ := margin_inert hafter
  induction tokens generalizing token with
  | nil =>
    have htoken := ht token (by simp)
    have hline : Sealed ('\n' :: pad ++ token ++ '\n' :: after) :=
      (hlead.append htoken.isSealed).append htail
    have hcut := cut_append hline []
    rw [lined_singleton]
    refine ⟨hline.balanced, ?_⟩
    rw [List.append_nil] at hcut
    rw [← List.cons_append, hcut, cut, glue, List.append_nil, List.map_singleton,
      htoken.trimChars hblank hend]
  | cons next tokens ih =>
    obtain ⟨hbalanced, hrest⟩ := ih fun t hm => ht t (List.mem_cons_of_mem _ hm)
    have htoken := ht token (by simp)
    have hline : Sealed ('\n' :: pad ++ token) := hlead.append htoken.isSealed
    have htrim := htoken.trimChars hblank (List.forall_mem_nil _)
    rw [List.append_nil] at htrim
    rw [lined_cons_cons, ← List.cons_append]
    refine ⟨hline.balanced.append (balanced_comma.append hbalanced), ?_⟩
    rw [cut_append hline, cut_comma, glue, List.map_cons, hrest, List.append_nil, htrim]

end Literal

end ApiSamples
