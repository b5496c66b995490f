import ApiSamples.Error
import ApiSamples.Proofs.Json.Printed
import ApiSamples.Proofs.Text.Margins
import ApiSamples.Sample.Assembly
import Mathlib.Algebra.GroupWithZero.Nat
import Mathlib.Data.List.Forall2

namespace ApiSamples

open Text

namespace Text

theorem length_flatMap_splitLines (ls : List String) :
    (ls.flatMap splitLines).length = (ls.map feeds).sum + ls.length := by
  induction ls with
  | nil => rfl
  | cons l ls ih =>
    rw [List.flatMap_cons, List.length_append, length_splitLines, ih, List.map_cons, List.sum_cons,
      List.length_cons]
    omega

theorem sum_feeds {ls : List String} (h : ∀ l ∈ ls, '\n' ∉ l.toList) : (ls.map feeds).sum = 0 := by
  rw [List.sum_eq_zero_iff_forall_eq_nat]
  intro n hn
  obtain ⟨l, hl, rfl⟩ := List.mem_map.mp hn
  exact feeds_eq_zero_iff.mpr (h l hl)

namespace Writer

theorem closedLines_indent_lines {w : Writer} {written : List String} (hunit : w.unit = "  ")
    (hlevel : w.level = 0) (htext : w.text = unlines written) (texts : List String) :
    closedLines (w.indent.lines texts).text =
      written.flatMap splitLines ++ (texts.flatMap splitLines).map (indentLine "  ") := by
  have hmargin : repeated w.indent.unit w.indent.level = "  " := by
    rw [indent, hunit, hlevel]
    rfl
  have hindented : ∀ line ∈ (texts.flatMap splitLines).map (indentLine "  "), '\n' ∉ line.toList :=
    feed_not_mem_indented (by decide) texts
  have hall : (w.indent.lines texts).text =
      unlines (written ++ (texts.flatMap splitLines).map (indentLine "  ")) := by
    rw [text_lines, hmargin, ← List.map_flatMap, unlines_append, ← htext]
    rfl
  rw [hall, closedLines_unlines, List.flatMap_append, flatMap_splitLines hindented]

theorem text_lines_blank_lines (top entry : List String) :
    ((({} : Writer).lines top).blank.lines entry).text = unlines (top ++ "" :: entry) := by
  have hlevel : (({} : Writer).lines top).blank.level = 0 := level_lines _ _
  have htop : (({} : Writer).lines top).blank.text = unlines top ++ "\n" := by
    rw [blank, raw, text_lines_of_level_zero rfl, String.empty_append]
  rw [text_lines_of_level_zero hlevel, htop, unlines_append, unlines_cons, String.empty_append,
    String.append_assoc]

end Writer

end Text

namespace Assembler

def installLine (a : Assembler) : String :=
  "// npm install " ++ a.settings.packageName ++ "@" ++ a.settings.packageVersion ++
    " ms-rest-js ms-rest-nodeauth"

def importLine (a : Assembler) : String :=
  "import \x7b " ++ a.clientName ++ ", " ++ a.scope.modelsNamespace ++ " \x7d from " ++
    Quoted.quote a.settings.packageName ++ ";"

def subscriptionLine (a : Assembler) : String :=
  "const subscriptionId = " ++ Quoted.quote a.settings.subscriptionId ++ ";"

def construction (a : Assembler) : String :=
  "const client = new " ++ a.clientName ++ "(credentials, subscriptionId);"

def runtimeImports : List String :=
  ["import * as msRest from \"ms-rest-js\";",
    "import * as msRestNodeAuth from \"ms-rest-nodeauth\";"]

def entry : List String :=
  ["// Calling the async executeContext method",
    "executeContext().catch((err) => \x7b console.log(err); \x7d);", "// Function Definition",
    "async function executeContext(): Promise<void> \x7b"]

def login : List String :=
  ["// Authenticate.", "const credentials = await msRestNodeAuth.interactiveLogin();",
    "// Create client."]

theorem feed_not_mem_runtimeImports : ∀ text ∈ runtimeImports, '\n' ∉ text.toList := by decide +kernel

theorem feed_not_mem_entry : ∀ text ∈ entry, '\n' ∉ text.toList := by decide +kernel

theorem feed_not_mem_login : ∀ text ∈ login, '\n' ∉ text.toList := by decide +kernel

/-- What is written outside the function that the prelude opens. -/
def outerTexts (a : Assembler) : List String :=
  a.installLine :: runtimeImports ++ a.importLine :: "" :: a.subscriptionLine :: entry

def innerTexts (a : Assembler) : List String := login ++ [a.construction]

theorem closedLines_prelude (a : Assembler) :
    closedLines a.prelude =
      a.outerTexts.flatMap splitLines ++ (a.innerTexts.flatMap splitLines).map (indentLine "  ") := by
  have hlevel : ∀ top entry : List String, ((({} : Writer).lines top).blank.lines entry).level = 0 := by
    intro top entry
    rw [Writer.level_lines, Writer.blank, Writer.raw, Writer.level_lines]
  have hunit : ∀ top entry : List String, ((({} : Writer).lines top).blank.lines entry).unit = "  " := by
    intro top entry
    rw [Writer.unit_lines, Writer.blank, Writer.raw, Writer.unit_lines]
  exact Writer.closedLines_indent_lines (hunit _ _) (hlevel _ _)
    (Writer.text_lines_blank_lines _ _) a.innerTexts

theorem feeds_quote (s : String) : feeds (Quoted.quote s) = 0 :=
  feeds_eq_zero_iff.mpr (Quoted.printed_quote s).feed_not_mem

theorem feeds_installLine (a : Assembler) :
    feeds a.installLine = feeds a.settings.packageName + feeds a.settings.packageVersion := by
  have hlead : feeds "// npm install " = 0 := by decide
  have hat : feeds "@" = 0 := by decide
  have hend : feeds " ms-rest-js ms-rest-nodeauth" = 0 := by decide
  unfold installLine
  simp only [feeds_append, hlead, hat, hend, Nat.zero_add, Nat.add_zero]

theorem feeds_importLine (a : Assembler) :
    feeds a.importLine = feeds a.clientName + feeds a.scope.modelsNamespace := by
  have hlead : feeds "import \x7b " = 0 := by decide
  have hcomma : feeds ", " = 0 := by decide
  have hfrom : feeds " \x7d from " = 0 := by decide
  have hend : feeds ";" = 0 := by decide
  unfold importLine
  simp only [feeds_append, feeds_quote, hlead, hcomma, hfrom, hend, Nat.zero_add, Nat.add_zero]

theorem feeds_subscriptionLine (a : Assembler) : feeds a.subscriptionLine = 0 := by
  have hlead : feeds "const subscriptionId = " = 0 := by decide
  have hend : feeds ";" = 0 := by decide
  unfold subscriptionLine
  simp only [feeds_append, feeds_quote, hlead, hend]

theorem feeds_construction (a : Assembler) : feeds a.construction = feeds a.clientName := by
  have hlead : feeds "const client = new " = 0 := by decide
  have hend : feeds "(credentials, subscriptionId);" = 0 := by decide
  unfold construction
  simp only [feeds_append, hlead, hend, Nat.zero_add, Nat.add_zero]

/-- Four texts are written once, and the name of the client twice. -/
theorem length_closedLines_prelude (a : Assembler) :
    (closedLines a.prelude).length = 14 + feeds a.settings.packageName +
      feeds a.settings.packageVersion + 2 * feeds a.clientName + feeds a.scope.modelsNamespace := by
  have himports := sum_feeds feed_not_mem_runtimeImports
  have hentry := sum_feeds feed_not_mem_entry
  have hlogin := sum_feeds feed_not_mem_login
  have hempty : feeds "" = 0 := rfl
  have houter : (a.outerTexts.map feeds).sum =
      feeds a.installLine + feeds a.importLine + feeds a.subscriptionLine := by
    simp only [outerTexts, List.cons_append, List.map_cons, List.map_append, List.sum_cons,
      List.sum_append, himports, hentry, hempty]
    omega
  have hinner : (a.innerTexts.map feeds).sum = feeds a.construction := by
    rw [innerTexts, List.map_append, List.sum_append, hlogin, Nat.zero_add, List.map_singleton,
      List.sum_singleton]
  rw [closedLines_prelude, List.length_append, List.length_map, length_flatMap_splitLines,
    length_flatMap_splitLines, houter, hinner, feeds_installLine, feeds_importLine,
    feeds_subscriptionLine, feeds_construction]
  have hlengths : a.outerTexts.length = 10 ∧ a.innerTexts.length = 4 := ⟨rfl, rfl⟩
  omega

structure Plain (a : Assembler) : Prop where
  packageName : feeds a.settings.packageName = 0
  packageVersion : feeds a.settings.packageVersion = 0
  clientName : feeds a.clientName = 0
  modelsNamespace : feeds a.scope.modelsNamespace = 0

theorem Plain.closedLines_prelude {a : Assembler} (h : a.Plain) :
    closedLines a.prelude = a.outerTexts ++ a.innerTexts.map ("  " ++ ·) := by
  have hlogin : ∀ text ∈ login, text ≠ "" := by decide
  have hinstall : feeds a.installLine = 0 := by
    rw [feeds_installLine, h.packageName, h.packageVersion]
  have himport : feeds a.importLine = 0 := by
    rw [feeds_importLine, h.clientName, h.modelsNamespace]
  have hconstruction : feeds a.construction = 0 := by rw [feeds_construction, h.clientName]
  have houter : ∀ text ∈ a.outerTexts, '\n' ∉ text.toList := by
    intro text htext
    simp only [outerTexts, List.cons_append, List.mem_cons, List.mem_append] at htext
    obtain rfl | himported | rfl | rfl | rfl | hentered := htext
    · exact feeds_eq_zero_iff.mp hinstall
    · exact feed_not_mem_runtimeImports text himported
    · exact feeds_eq_zero_iff.mp himport
    · decide
    · exact feeds_eq_zero_iff.mp a.feeds_subscriptionLine
    · exact feed_not_mem_entry text hentered
  have hinner : ∀ text ∈ a.innerTexts, '\n' ∉ text.toList ∧ text ≠ "" := by
    intro text htext
    obtain hfixed | hlast := List.mem_append.mp htext
    · exact ⟨feed_not_mem_login text hfixed, hlogin text hfixed⟩
    · obtain rfl := List.mem_singleton.mp hlast
      refine ⟨feeds_eq_zero_iff.mp hconstruction, ?_⟩
      unfold construction
      simp
  rw [Assembler.closedLines_prelude, flatMap_splitLines houter,
    flatMap_splitLines fun text htext => (hinner text htext).1,
    List.map_congr_left fun text htext => indentLine_of_ne "  " (hinner text htext).2]

theorem Plain.length_closedLines_prelude {a : Assembler} (h : a.Plain) :
    (closedLines a.prelude).length = 14 := by
  rw [Assembler.length_closedLines_prelude, h.packageName, h.packageVersion, h.clientName,
    h.modelsNamespace]

/-- Lines of two preludes that may differ in the names they import, in a quoted text, or in the name of the
client that they make, and in nothing else. -/
inductive Alike (a b : Assembler) : String → String → Prop
  | fixed (line : String) : Alike a b line line
  | imports : Alike a b a.importLine b.importLine
  | subscription : Alike a b a.subscriptionLine b.subscriptionLine
  | construction : Alike a b ("  " ++ a.construction) ("  " ++ b.construction)

/-- A prelude has the lines of another one, its own package and version in the first of them. -/
structure KeepsLines (a b : Assembler) : Prop where
  length : (closedLines a.prelude).length = (closedLines b.prelude).length
  first : (closedLines a.prelude).head? = some a.installLine
  others : List.Forall₂ (Alike a b) (closedLines a.prelude).tail (closedLines b.prelude).tail

theorem Plain.keepsLines {a b : Assembler} (ha : a.Plain) (hb : b.Plain) : a.KeepsLines b := by
  have hfixed : ∀ ls, List.Forall₂ (Alike a b) ls ls :=
    fun ls => List.forall₂_same.mpr fun line _ => .fixed line
  have hinner : List.Forall₂ (Alike a b) (a.innerTexts.map ("  " ++ ·)) (b.innerTexts.map ("  " ++ ·)) := by
    rw [innerTexts, innerTexts, List.map_append, List.map_append]
    exact List.rel_append (hfixed _) (.cons .construction .nil)
  have htail : List.Forall₂ (Alike a b) (closedLines a.prelude).tail (closedLines b.prelude).tail := by
    rw [ha.closedLines_prelude, hb.closedLines_prelude]
    refine List.rel_append ?_ hinner
    refine List.rel_append (hfixed runtimeImports) ?_
    exact .cons .imports (.cons (.fixed "") (.cons .subscription (hfixed entry)))
  refine ⟨?_, ?_, htail⟩
  · rw [ha.length_closedLines_prelude, hb.length_closedLines_prelude]
  · rw [ha.closedLines_prelude]
    rfl

end Assembler

def Text.feedsIn (s : Option String) : Nat := s.elim 0 feeds

theorem Text.feeds_getD {s : String} (h : feeds s = 0) (o : Option String) :
    feeds (o.getD s) = feedsIn o := by
  cases o with
  | none => exact h
  | some t => rfl

theorem Text.feedsIn_eq_zero_iff {o : Option String} :
    feedsIn o = 0 ↔ ∀ s, o = some s → '\n' ∉ s.toList := by
  cases o with
  | none => simp [feedsIn]
  | some s => simp [feedsIn, feeds_eq_zero_iff]

theorem Settings.feeds_packageName {s : Settings} (h : s.check = .ok ()) : feeds s.packageName = 0 := by
  rw [feeds_eq_zero_iff]
  intro hfeed
  have hblank : s.packageName.toList.any isBlank = true :=
    List.any_eq_true.mpr ⟨'\n', hfeed, by decide⟩
  unfold check flaw? at h
  rw [if_pos hblank] at h
  split at h
  · cases h
  · next hflaw =>
    split at hflaw <;> cases hflaw

namespace CodeModel

theorem feeds_namespacePrefix {m : CodeModel} (hname : '\n' ∉ m.name.toList)
    (hgiven : ∀ p, m.clientPrefix = some p → '\n' ∉ p.toList) : feeds m.namespacePrefix = 0 := by
  have hstem : feeds (nameStem m.name) = 0 := by
    rw [feeds_eq_zero_iff]
    unfold nameStem
    dsimp only
    split
    · rw [String.toList_ofList]
      exact fun hmem => hname (List.mem_of_mem_take hmem)
    · exact hname
  rw [namespacePrefix, feeds_getD hstem, feedsIn_eq_zero_iff]
  exact hgiven

end CodeModel

namespace Assembler

theorem feeds_modelsNamespace_ofModel {m : CodeModel} (h : feeds m.namespacePrefix = 0) (s : Settings) :
    feeds (ofModel m s).scope.modelsNamespace = feedsIn s.clientPrefix := by
  have hend : feeds "Models" = 0 := by decide
  have hnamespace := feeds_append (s.clientPrefix.getD m.namespacePrefix) "Models"
  rw [hend, feeds_getD h] at hnamespace
  exact hnamespace

/-- Every line feed in the package version, in the name of the client or in the prefix of the models begins
lines of its own, as often as the text is written. The prelude has the lines that it has without settings
exactly if there is none; nothing else that settings hold can break a line. -/
theorem prelude_keeps_lines_iff (m : CodeModel) (s : Settings) (hs : s.check = .ok ())
    (hname : '\n' ∉ m.name.toList) (hgiven : ∀ p, m.clientPrefix = some p → '\n' ∉ p.toList) :
    (closedLines (ofModel m s).prelude).length = (closedLines (ofModel m {}).prelude).length +
        (feeds s.packageVersion + 2 * feedsIn s.clientName + feedsIn s.clientPrefix) ∧
      ((ofModel m s).KeepsLines (ofModel m {}) ↔ '\n' ∉ s.packageVersion.toList ∧
        (∀ name, s.clientName = some name → '\n' ∉ name.toList) ∧
        ∀ p, s.clientPrefix = some p → '\n' ∉ p.toList) := by
  have hstem := CodeModel.feeds_namespacePrefix hname hgiven
  have hclient : feeds (ofModel m s).clientName = feedsIn s.clientName :=
    feeds_getD (feeds_eq_zero_iff.mpr hname) _
  have hmodels := feeds_modelsNamespace_ofModel hstem s
  have hpackage : feeds (ofModel m s).settings.packageName = 0 := Settings.feeds_packageName hs
  have hinitial : feeds ({} : Settings).packageName = 0 ∧ feeds ({} : Settings).packageVersion = 0 := by
    decide
  have hdefault : (ofModel m {}).Plain :=
    { packageName := hinitial.1
      packageVersion := hinitial.2
      clientName := feeds_eq_zero_iff.mpr hname
      modelsNamespace := feeds_modelsNamespace_ofModel hstem {} }
  have hlength := (ofModel m s).length_closedLines_prelude
  rw [hpackage, hclient, hmodels] at hlength
  have hversion : (ofModel m s).settings.packageVersion = s.packageVersion := rfl
  rw [hversion] at hlength
  rw [← feeds_eq_zero_iff, ← feedsIn_eq_zero_iff, ← feedsIn_eq_zero_iff]
  refine ⟨?_, fun hkept => ?_, fun ⟨hversion, hnames, hprefixes⟩ => ?_⟩
  · rw [hlength, hdefault.length_closedLines_prelude]
    omega
  · have hsame := hkept.length
    rw [hlength, hdefault.length_closedLines_prelude] at hsame
    omega
  · exact Plain.keepsLines ⟨hpackage, hversion, hclient.trans hnames, hmodels.trans hprefixes⟩ hdefault

/-- Settings that put in something everywhere, the subscription with a quote and a line feed in it. -/
def acme : Settings :=
  { packageName := "@acme/widgets"
    packageVersion := "2.3.0"
    clientName := some "AcmeClient"
    clientPrefix := some "Acme"
    subscriptionId := "\"\n" }

theorem prelude_keeps_lines_acme :
    acme.check = .ok () ∧
      (ofModel { name := "C", family := .typeScript } acme).KeepsLines
        (ofModel { name := "C", family := .typeScript } {}) := by
  have hcheck : acme.check = .ok () := by decide
  obtain ⟨-, hkept⟩ := prelude_keeps_lines_iff { name := "C", family := .typeScript } acme hcheck
    (by decide) (fun p hp => by cases hp)
  refine ⟨hcheck, hkept.mpr ⟨by decide, fun name h => ?_, fun p h => ?_⟩⟩
  · obtain rfl := Option.some.inj h
    decide
  · obtain rfl := Option.some.inj h
    decide

/-- A package version in two lines is accepted, and the second one becomes a line of the program. -/
theorem not_keepsLines_version :
    ({ packageVersion := "1\nimport x" } : Settings).check = .ok () ∧
      ¬ (ofModel { name := "C", family := .typeScript } { packageVersion := "1\nimport x" }).KeepsLines
        (ofModel { name := "C", family := .typeScript } {}) := by
  refine ⟨by decide, fun hkept => ?_⟩
  have hsame := hkept.length
  rw [length_closedLines_prelude, length_closedLines_prelude] at hsame
  revert hsame
  decide

end Assembler

end ApiSamples
