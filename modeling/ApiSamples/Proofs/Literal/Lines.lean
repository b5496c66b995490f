import ApiSamples.Proofs.Literal.Closure
import ApiSamples.Proofs.Literal.Synthesis
import ApiSamples.Proofs.Text.Lines
import Mathlib.Data.List.Chain

namespace ApiSamples

/-- What stands behind a line feed: a margin, a closing bracket, a statement, or at an empty line the next
line feed. -/
def lineStarts : List Char := ['\n', ' ', '\x7d', ']', 'c']

/-- Whether `d` may stand behind `c`. -/
def Follows (c d : Char) : Prop := (c = '\n' → d ∈ lineStarts) ∧ (d = '\n' → c ≠ '\r')

/-- Every line but the first begins as lines do, and no line ends in a carriage return. -/
structure Tidy (cs : List Char) : Prop where
  chain : cs.IsChain Follows
  last : ∀ c, cs.getLast? = some c → c ≠ '\n' ∧ c ≠ '\r'

section

variable {cs ds : List Char}

theorem Tidy.append (hc : Tidy cs) (hd : Tidy ds) : Tidy (cs ++ ds) := by
  refine ⟨List.isChain_append.mpr ⟨hc.chain, hd.chain, fun c hlast d _ => ?_⟩, fun c hlast => ?_⟩
  · obtain ⟨hfeed, hreturn⟩ := hc.last c hlast
    exact ⟨fun h => absurd h hfeed, fun _ => hreturn⟩
  · rw [List.getLast?_append] at hlast
    cases hlastd : ds.getLast? with
    | none =>
      rw [hlastd] at hlast
      exact hc.last c hlast
    | some d =>
      rw [hlastd] at hlast
      obtain rfl := Option.some.inj hlast
      exact hd.last d hlastd

theorem tidy_of_feed_not_mem (h : '\n' ∉ cs) (hlast : cs.getLast? ≠ some '\r') : Tidy cs := by
  refine ⟨?_, fun c hc => ⟨fun heq => ?_, fun heq => ?_⟩⟩
  · refine List.Pairwise.isChain (List.pairwise_of_forall_mem_list fun c hc d hd => ?_)
    exact ⟨fun heq => absurd (heq ▸ hc) h, fun heq => absurd (heq ▸ hd) h⟩
  · exact h (heq ▸ List.mem_of_getLast? hc)
  · exact hlast (heq ▸ hc)

theorem Printed.tidy (h : Printed cs) : Tidy cs := by
  refine tidy_of_feed_not_mem h.feed_not_mem fun hlast => ?_
  have hreturn := h '\r' (List.mem_of_getLast? hlast)
  revert hreturn
  decide

theorem Tidy.feed {c : Char} (h : Tidy (c :: cs)) (hc : c ∈ lineStarts) : Tidy ('\n' :: c :: cs) := by
  have hfirst : Follows '\n' c := ⟨fun _ => hc, fun _ => by decide⟩
  refine ⟨List.isChain_cons_cons.mpr ⟨hfirst, h.chain⟩, fun d hd => ?_⟩
  rw [List.getLast?_cons_cons] at hd
  exact h.last d hd

theorem Tidy.line {s l : String} {c : Char} (h : Tidy s.toList) (hs : s.toList = c :: cs)
    (hc : c ∈ lineStarts) (hl : l ∈ Text.splitLines s) :
    (∀ d, l.toList.head? = some d → d ∈ lineStarts) ∧ l.toList.getLast? ≠ some '\r' := by
  have hinside : Tidy ('\n' :: s.toList) := by
    rw [hs] at h ⊢
    exact h.feed hc
  have houter : ('\n' :: s.toList ++ ['\n']).IsChain Follows := by
    refine List.isChain_append.mpr ⟨hinside.chain, .singleton _, fun d hlast _ _ => ?_⟩
    obtain ⟨hfeed, hreturn⟩ := hinside.last d hlast
    exact ⟨fun heq => absurd heq hfeed, fun _ => hreturn⟩
  have hinner := List.IsChain.infix houter (Text.infix_of_mem_splitLines hl)
  obtain ⟨hfront, -, hend⟩ := List.isChain_append.mp hinner
  cases hline : l.toList with
  | nil => simp
  | cons d ds =>
    rw [hline] at hfront hend
    have hfirst : Follows '\n' d := (List.isChain_cons_cons.mp hfront).1
    refine ⟨fun x hx => ?_, fun hlast => ?_⟩
    · obtain rfl := Option.some.inj hx
      exact hfirst.1 rfl
    · have hbefore := hend '\r' (by rw [List.getLast?_cons_cons, hlast]; rfl) '\n' rfl
      exact hbefore.2 rfl rfl

end

namespace Scalar

theorem printed_numeric (v : Json) : Printed (numeric v).toList := by
  unfold numeric
  cases h : bare? v with
  | none => exact Quoted.printed_quote _
  | some text => exact (numeric_bare? h).printed

theorem printed_boolean (v : Json) : Printed (boolean v).toList := by
  have htrue : Printed "true".toList := by decide
  have hfalse : Printed "false".toList := by decide
  cases v with
  | bool b => cases b <;> assumption
  | string s =>
    simp only [boolean]
    split_ifs
    · exact htrue
    · exact hfalse
    · exact Quoted.printed_quote s
  | _ => exact Quoted.printed_quote _

theorem printed_date {argument : String} (h : Printed argument.toList) :
    Printed (date argument).toList := by
  have hlead : Printed "new Date(".toList := by decide
  have hclose : Printed ")".toList := by decide
  simpa [date] using (hlead.append h).append hclose

theorem printed_unixTime (v : Json) : Printed (unixTime v).toList := by
  refine printed_date ?_
  cases h : bare? v with
  | none => exact Quoted.printed_quote _
  | some seconds =>
    have hfactor : Printed " * 1000".toList := by decide
    simpa using (numeric_bare? h).printed.append hfactor

theorem printed_literal (kind : Kind) (v : Json) : Printed (literal kind v).toList := by
  cases kind with
  | int | long | double | decimal => exact printed_numeric v
  | boolean => exact printed_boolean v
  | unixTime => exact printed_unixTime v
  | date | dateTime | dateTimeRfc1123 => exact printed_date (Quoted.printed_quote _)
  | byteArray =>
    have hlead : Printed "Buffer.from(".toList := by decide
    have hclose : Printed ", \"base64\")".toList := by decide
    simpa [literal] using (hlead.append (Quoted.printed_quote (plain v))).append hclose
  | object => exact v.printed_text
  | string | uuid | timeSpan | base64Url | stream => exact Quoted.printed_quote _

end Scalar

theorem Literal.layoutClosed_tidy : LayoutClosed Tidy where
  append := Tidy.append
  feed := by
    intro c cs hc h
    have hall : ∀ c ∈ breakers, c ∈ lineStarts := by simp [breakers, lineStarts]
    exact h.feed (hall c hc)
  bare h := h.printed.tidy
  quote s := (Quoted.printed_quote s).tidy

theorem Scope.tidy_synthesize {scope : Scope} (hn : '\n' ∉ scope.modelsNamespace.toList)
    (he : ∀ e ∈ scope.model.enumerations, '\n' ∉ e.className.toList) (type : TypeExpr) (value : Json)
    (depth : Nat) : Tidy ((scope.synthesize type value).value.text depth).toList := by
  have hscalar : ∀ kind v, Tidy (Scalar.literal kind v).toList :=
    fun kind v => (Scalar.printed_literal kind v).tidy
  refine Literal.layoutClosed_tidy.text (scalars_synthesize hscalar (fun e hmem v => ?_) type value) depth
  have hcast : Tidy ("<" ++ scope.modelsNamespace ++ "." ++ e.className ++ ">").toList := by
    have hclose : ">".toList = ['>'] := rfl
    refine tidy_of_feed_not_mem ?_ ?_
    · simp [hn, he e hmem]
    · rw [String.toList_append, hclose, List.getLast?_concat]
      decide
  rw [String.toList_append]
  exact hcast.append (hscalar .string v)

end ApiSamples
