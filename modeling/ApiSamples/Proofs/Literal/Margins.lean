import ApiSamples.Proofs.Literal.Lines
import ApiSamples.Proofs.Literal.Strings
import ApiSamples.Proofs.Text.Margins
import ApiSamples.Sample.Assembly

namespace ApiSamples

open Scanner Text

/-- Every string literal is closed, and every line feed stands outside of them. -/
structure FeedsOutside (cs : List Char) : Prop where
  closed : Mode.code.run cs = .code
  feeds : ∀ before after, cs = before ++ '\n' :: after → Mode.code.run before = .code

section

variable {cs xs ys : List Char}

theorem feedsOutside_of_not_mem (hclosed : Mode.code.run cs = .code) (h : '\n' ∉ cs) : FeedsOutside cs := by
  refine ⟨hclosed, fun before after hcs => absurd ?_ h⟩
  simp [hcs]

theorem feedsOutside_feed : FeedsOutside ['\n'] := by
  refine ⟨rfl, fun before after hcs => ?_⟩
  cases before with
  | nil => rfl
  | cons c before =>
    have hempty := (List.cons.inj hcs).2
    simp at hempty

theorem FeedsOutside.append (hx : FeedsOutside xs) (hy : FeedsOutside ys) : FeedsOutside (xs ++ ys) := by
  refine ⟨?_, fun before after hcs => ?_⟩
  · rw [Mode.run_append, hx.closed, hy.closed]
  · rcases List.append_eq_append_iff.mp hcs with ⟨front, rfl, hys⟩ | ⟨back, hxs, hafter⟩
    · rw [Mode.run_append, hx.closed]
      exact hy.feeds front after hys
    · cases back with
      | nil =>
        rw [List.append_nil] at hxs
        rw [← hxs]
        exact hx.closed
      | cons c back =>
        obtain rfl := (List.cons.inj hafter).1
        exact hx.feeds before back hxs

theorem closed_of_isQuote (h : ∀ c ∈ cs, isQuote c = false) : Mode.code.run cs = .code := by
  induction cs with
  | nil => rfl
  | cons c cs ih =>
    obtain ⟨hc, hcs⟩ := List.forall_mem_cons.mp h
    have hnext : Mode.code.next c = .code := by simp [Mode.next, hc]
    rw [Mode.run, List.foldl_cons, hnext]
    exact ih hcs

theorem Token.feedsOutside (ht : Token cs) (hp : Printed cs) : FeedsOutside cs :=
  feedsOutside_of_not_mem ht.closed hp.feed_not_mem

end

namespace Literal

theorem layoutClosed_filled : LayoutClosed Filled where
  append := Filled.append
  feed := by
    intro c cs hc h
    have hall : ∀ c ∈ breakers, c ≠ '\n' := by simp [breakers]
    exact h.feed (hall c hc)
  bare h := filled_of_not_mem h.printed.feed_not_mem
  quote s := filled_of_not_mem (Quoted.printed_quote s).feed_not_mem

theorem layoutClosed_feedsOutside : LayoutClosed FeedsOutside where
  append := FeedsOutside.append
  feed _ h := feedsOutside_feed.append h
  bare h := feedsOutside_of_not_mem (closed_of_isQuote fun c hc => (h c hc).2) h.printed.feed_not_mem
  quote s := (Quoted.token_quote s).feedsOutside (Quoted.printed_quote s)

theorem feed_not_mem_key (name : String) : '\n' ∉ (key name).toList := by
  rcases key_cases name with ⟨-, hall, hkey⟩ | hkey
  · rw [hkey]
    exact (bare_of_isKeyChar hall).printed.feed_not_mem
  · rw [hkey]
    exact (Quoted.printed_quote name).feed_not_mem

theorem feed_not_mem_margin (depth : Nat) : '\n' ∉ (margin depth).toList :=
  (bare_margin depth).printed.feed_not_mem

def moved (lead line : String) : String := lead ++ leadFeeds lead line

theorem moved_intercalate (lead line : String) (lines : List String) :
    moved lead (",\n".intercalate (line :: lines)) =
      ",\n".intercalate ((line :: lines).map (moved lead)) := by
  have hcomma : leadFeeds lead ",\n" = ",\n" ++ lead := by
    have hsplit : ",\n" = "," ++ "\n" := rfl
    rw [hsplit, leadFeeds_append, leadFeeds_feed, leadFeeds_of_not_mem lead (by decide),
      String.append_assoc]
  induction lines generalizing line with
  | nil => simp
  | cons other lines ih =>
    have hrest := ih other
    rw [List.map_cons, List.map_cons, String.intercalate_cons_cons, String.intercalate_cons_cons,
      ← List.map_cons, ← hrest]
    simp only [moved, leadFeeds_append, hcomma, String.append_assoc]

theorem leadFeeds_bracketed {opening closing : String} (ho : '\n' ∉ opening.toList)
    (hc : '\n' ∉ closing.toList) (k depth : Nat) (lines : List String) :
    leadFeeds (margin k) (bracketed opening closing depth lines) =
      bracketed opening closing (k + depth) (lines.map (moved (margin k))) := by
  cases lines with
  | nil =>
    have hempty : bracketed opening closing depth [] = opening ++ closing := rfl
    rw [hempty, leadFeeds_append, leadFeeds_of_not_mem _ ho, leadFeeds_of_not_mem _ hc]
    rfl
  | cons line lines =>
    have hfull : ∀ n (line : String) lines, bracketed opening closing n (line :: lines) =
        opening ++ "\n" ++ ",\n".intercalate (line :: lines) ++ "\n" ++ margin n ++ closing :=
      fun _ _ _ => rfl
    rw [hfull, List.map_cons, hfull, ← List.map_cons, ← moved_intercalate, margin_add]
    simp only [leadFeeds_append, leadFeeds_feed, leadFeeds_of_not_mem _ ho, leadFeeds_of_not_mem _ hc,
      leadFeeds_of_not_mem _ (feed_not_mem_margin depth), moved, String.append_assoc]

theorem text_add {l : Literal} (h : l.Scalars fun s => '\n' ∉ s.toList) (k depth : Nat) :
    text (k + depth) l = leadFeeds (margin k) (text depth l) := by
  have hmoved : ∀ n line, moved (margin k) (margin n ++ line) =
      margin (k + n) ++ leadFeeds (margin k) line := by
    intro n line
    rw [moved, leadFeeds_append, leadFeeds_of_not_mem _ (feed_not_mem_margin n), margin_add,
      String.append_assoc]
  induction h generalizing depth with
  | absent =>
    have hword : '\n' ∉ "undefined".toList := by decide
    exact (leadFeeds_of_not_mem _ hword).symm
  | scalar h => exact (leadFeeds_of_not_mem _ h).symm
  | @object entries h ih =>
    have hlines : entryTexts (k + depth + 1) entries =
        (entryTexts (depth + 1) entries).map (moved (margin k)) := by
      rw [entryTexts_eq, entryTexts_eq, List.map_map, List.map_map, List.map_map]
      refine List.map_congr_left fun e he => ?_
      have hcolon : '\n' ∉ ": ".toList := by decide
      simp only [Function.comp_apply, hmoved, entryText, leadFeeds_append,
        leadFeeds_of_not_mem _ (feed_not_mem_key e.1), leadFeeds_of_not_mem _ hcolon,
        ← ih e he (depth + 1)]
      rfl
    rw [text, hlines, text, leadFeeds_bracketed (by decide) (by decide)]
  | @list items h ih =>
    have hlines : itemTexts (k + depth + 1) items =
        (itemTexts (depth + 1) items).map (moved (margin k)) := by
      rw [itemTexts_eq, itemTexts_eq, List.map_map, List.map_map, List.map_map]
      refine List.map_congr_left fun item hi => ?_
      simp only [Function.comp_apply, hmoved, ← ih item hi (depth + 1)]
      rfl
    rw [text, hlines, text, leadFeeds_bracketed (by decide) (by decide)]

theorem Scalars.imp {P Q : String → Prop} (hPQ : ∀ s, P s → Q s) {l : Literal} (h : l.Scalars P) :
    l.Scalars Q := by
  induction h with
  | absent => exact .absent
  | scalar h => exact .scalar (hPQ _ h)
  | object _ ih => exact .object ih
  | list _ ih => exact .list ih

theorem filled_text {l : Literal} (h : l.Scalars fun s => '\n' ∉ s.toList) (depth : Nat) :
    Filled (text depth l).toList :=
  layoutClosed_filled.text (h.imp fun _ => filled_of_not_mem) depth

end Literal

namespace Scope

variable {scope : Scope}

theorem scalars_synthesize? {P : String → Prop} (hscalar : ∀ kind value, P (Scalar.literal kind value))
    (henum : ∀ e ∈ scope.model.enumerations, ∀ value,
      P ("<" ++ scope.modelsNamespace ++ "." ++ e.className ++ ">" ++ Scalar.literal .string value))
    (type : TypeExpr) (value : Option Json) : (scope.synthesize? type value).value.Scalars P := by
  cases value with
  | none => exact .absent
  | some value => exact scalars_synthesize hscalar henum type value

theorem feed_not_mem_scalars (hn : '\n' ∉ scope.modelsNamespace.toList)
    (he : ∀ e ∈ scope.model.enumerations, '\n' ∉ e.className.toList) (type : TypeExpr)
    (value : Option Json) : (scope.synthesize? type value).value.Scalars fun s => '\n' ∉ s.toList := by
  have hscalar : ∀ kind v, '\n' ∉ (Scalar.literal kind v).toList :=
    fun kind v => (Scalar.printed_literal kind v).feed_not_mem
  refine scalars_synthesize? hscalar (fun e hmem v => ?_) type value
  simp [hn, he e hmem, hscalar]

theorem feedsOutside_synthesize (hn : '\n' ∉ scope.modelsNamespace.toList)
    (he : ∀ e ∈ scope.model.enumerations, '\n' ∉ e.className.toList)
    (hnquote : ∀ c ∈ scope.modelsNamespace.toList, isQuote c = false)
    (hequote : ∀ e ∈ scope.model.enumerations, ∀ c ∈ e.className.toList, isQuote c = false)
    (type : TypeExpr) (value : Option Json) (depth : Nat) :
    FeedsOutside ((scope.synthesize? type value).value.text depth).toList := by
  have hscalar : ∀ kind v, FeedsOutside (Scalar.literal kind v).toList :=
    fun kind v => (Scalar.token_literal kind v).feedsOutside (Scalar.printed_literal kind v)
  refine Literal.layoutClosed_feedsOutside.text (scalars_synthesize? hscalar (fun e hmem v => ?_) type value)
    depth
  have hname : ∀ name : String, (∀ c ∈ name.toList, isQuote c = false) → '\n' ∉ name.toList →
      FeedsOutside name.toList :=
    fun _ hquote hfeed => feedsOutside_of_not_mem (closed_of_isQuote hquote) hfeed
  have hopen : FeedsOutside "<".toList := Literal.layoutClosed_feedsOutside.bare (by decide)
  have hpoint : FeedsOutside ".".toList := Literal.layoutClosed_feedsOutside.bare (by decide)
  have hclose : FeedsOutside ">".toList := Literal.layoutClosed_feedsOutside.bare (by decide)
  have hqualified := ((hopen.append (hname _ hnquote hn)).append hpoint).append
    (hname _ (hequote e hmem) (he e hmem))
  simpa using (hqualified.append hclose).append (hscalar .string v)

end Scope

namespace Assembler

/-- A declaration up to its literal. -/
def declarator (a : Assembler) (p : Field) : String :=
  "const " ++ Sample.argumentVariable p.name ++ a.annotation p.type ++ " = "

theorem getLast?_declarator (a : Assembler) (p : Field) : (a.declarator p).toList.getLast? = some ' ' := by
  have hequals : " = ".toList = [' ', '='] ++ [' '] := rfl
  rw [declarator, String.toList_append, hequals, ← List.append_assoc, List.getLast?_concat]

/-- A writer moves the literal of a declaration to its own level. -/
theorem text_line_declaration (a : Assembler) (arg : Argument)
    (h : (a.scope.synthesize arg.parameter.type arg.resolved.value).value.Scalars fun s => '\n' ∉ s.toList)
    {w : Writer} (hw : w.unit = "  ") :
    ∃ front, (w.line (a.declarator arg.parameter)).text = front ++ "\n" ∧
      ('\n' ∉ (a.declarator arg.parameter).toList →
        front = w.text ++ spaces (2 * w.level) ++ a.declarator arg.parameter) ∧
      (w.line (a.declaration arg).value).text = front ++
        (a.scope.synthesize arg.parameter.type arg.resolved.value).value.text w.level ++ ";\n" := by
  have hline : ∀ s, (w.line s).text = w.text ++ indentLines (margin w.level) s := by
    intro s
    rw [Writer.line, Writer.raw, hw]
    rfl
  have hend : '\n' ∉ ";".toList := by decide
  have hfilled := (Literal.filled_text h 0).append (filled_of_not_mem hend)
  rw [← String.toList_append] at hfilled
  have hdeclarator := getLast?_splitLines_ne (a.getLast?_declarator arg.parameter) (by decide)
  obtain ⟨front, hfront, hall⟩ := indentLines_append (margin w.level) hdeclarator hfilled
  have hlevel := Literal.text_add h w.level 0
  refine ⟨w.text ++ front, ?_, fun hsingle => ?_, ?_⟩
  · rw [hline, hfront, String.append_assoc]
  · have hne : a.declarator arg.parameter ≠ "" := by
      intro hempty
      have hspace := a.getLast?_declarator arg.parameter
      rw [hempty] at hspace
      cases hspace
    have hindented : margin w.level ++ a.declarator arg.parameter ++ "\n" = front ++ "\n" := by
      rw [← hfront, indentLines_eq, splitLines_of_not_mem hsingle, List.map_singleton,
        indentLine_of_ne _ hne]
      simp
    rw [← (String.append_left_inj "\n").mp hindented, margin_eq, String.append_assoc]
  · have hdeclaration : (a.declaration arg).value = a.declarator arg.parameter ++
        ((a.scope.synthesize arg.parameter.type arg.resolved.value).value.text 0 ++ ";") := by
      rw [← String.append_assoc]
      rfl
    rw [hline, hdeclaration, hall, leadFeeds_append, leadFeeds_of_not_mem _ hend, ← hlevel]
    simp only [Nat.add_zero, String.append_assoc]
    rfl

/-- If no name breaks a line, a literal at a depth is the one at depth zero with two spaces for each level behind
every line feed, and this is how a writer writes a declaration. No scalar and no key has a line feed in it, and
where names have no quotation marks, a reader of strings comes to every line feed outside of them. -/
theorem literals_nest (a : Assembler) (hn : '\n' ∉ a.scope.modelsNamespace.toList)
    (he : ∀ e ∈ a.scope.model.enumerations, '\n' ∉ e.className.toList) :
    (∀ (type : TypeExpr) (value : Option Json) (depth : Nat),
      (a.scope.synthesize? type value).value.text depth =
        leadFeeds (spaces (2 * depth)) ((a.scope.synthesize? type value).value.text 0)) ∧
    (∀ (w : Writer) (arg : Argument), w.unit = "  " → ∃ front,
      (w.line (a.declarator arg.parameter)).text = front ++ "\n" ∧
      ('\n' ∉ (a.declarator arg.parameter).toList →
        front = w.text ++ spaces (2 * w.level) ++ a.declarator arg.parameter) ∧
      (w.line (a.declaration arg).value).text = front ++
        (a.scope.synthesize arg.parameter.type arg.resolved.value).value.text w.level ++ ";\n") ∧
    (∀ (type : TypeExpr) (value : Option Json),
      (a.scope.synthesize? type value).value.Scalars fun s => '\n' ∉ s.toList) ∧
    (∀ name, '\n' ∉ (Literal.key name).toList) ∧
    ((∀ c ∈ a.scope.modelsNamespace.toList, isQuote c = false) →
      (∀ e ∈ a.scope.model.enumerations, ∀ c ∈ e.className.toList, isQuote c = false) →
      ∀ (type : TypeExpr) (value : Option Json) (depth : Nat) (before after : List Char),
        ((a.scope.synthesize? type value).value.text depth).toList = before ++ '\n' :: after →
          Mode.code.run before = .code) := by
  have hscalars := Scope.feed_not_mem_scalars hn he
  refine ⟨fun type value depth => ?_, fun w arg hw => ?_, hscalars, Literal.feed_not_mem_key, ?_⟩
  · have hdeeper := Literal.text_add (hscalars type value) depth 0
    rwa [Nat.add_zero, margin_eq] at hdeeper
  · exact a.text_line_declaration arg (hscalars arg.parameter.type (some arg.resolved.value)) hw
  · intro hnquote hequote type value depth
    exact (Scope.feedsOutside_synthesize hn he hnquote hequote type value depth).feeds

def painting : Assembler := { settings := {}, clientName := "C", scope := Scope.paintScope }

def swatches : Json := .array [.string "a\nb"]

theorem synthesize_swatches :
    (painting.scope.synthesize (.sequence (.enum "Color")) swatches).value =
      .list [.scalar "<CModels.Color>\"a\\nb\""] := by
  have he : painting.scope.model.enumeration? "Color" = some { className := "Color" } := by decide +kernel
  have hcolor : (painting.scope.synthesize (.enum "Color") (.string "a\nb")).value =
      .scalar "<CModels.Color>\"a\\nb\"" := by
    rw [Scope.synthesize]
    simp only [Json.isNull, he]
    rfl
  rw [swatches, Scope.synthesize_array, List.map_singleton, hcolor]

theorem literals_nest_swatches :
    '\n' ∉ painting.scope.modelsNamespace.toList ∧
    (∀ e ∈ painting.scope.model.enumerations, '\n' ∉ e.className.toList) ∧
    (painting.scope.synthesize? (.sequence (.enum "Color")) (some swatches)).value.text 2 =
      "[\n      <CModels.Color>\"a\\nb\"\n    ]" := by
  have hn : '\n' ∉ painting.scope.modelsNamespace.toList := by decide
  have he : ∀ e ∈ painting.scope.model.enumerations, '\n' ∉ e.className.toList := by decide
  have htext : (painting.scope.synthesize? (.sequence (.enum "Color")) (some swatches)).value.text 0 =
      "[\n  <CModels.Color>\"a\\nb\"\n]" := by
    have hvalue : (painting.scope.synthesize? (.sequence (.enum "Color")) (some swatches)).value =
        .list [.scalar "<CModels.Color>\"a\\nb\""] := synthesize_swatches
    rw [hvalue]
    decide
  obtain ⟨hnests, -⟩ := literals_nest painting hn he
  refine ⟨hn, he, ?_⟩
  rw [hnests, htext]
  decide

end Assembler

end ApiSamples
