import ApiSamples.Literal.Synthesis
import ApiSamples.Proofs.Json.Quoted

namespace ApiSamples

/-- A declared value that is the text but for the case of ASCII letters. -/
def Enumeration.Spells (e : Enumeration) (s declared : String) : Prop :=
  declared ∈ e.values ∧ Scalar.equalsIgnoringCase declared s = true

def Enumeration.SpellsFirst (e : Enumeration) (s declared : String) : Prop :=
  Scalar.equalsIgnoringCase declared s = true ∧ ∃ before after, e.values = before ++ declared :: after ∧
    ∀ d ∈ before, Scalar.equalsIgnoringCase d s = false

namespace Scope

def enumValue (scope : Scope) (e : Enumeration) (s : String) : Literal :=
  .scalar ("<" ++ scope.modelsNamespace ++ "." ++ e.className ++ ">" ++ Quoted.quote s)

/-- The literal is that value of the enumeration, and nothing is said about it. -/
def WritesQuietly (scope : Scope) (e : Enumeration) (s : String) (written : Noted Literal) : Prop :=
  written.value = scope.enumValue e s ∧ written.notes = []

/-- The literal is that value of the enumeration, with a warning if there are declared values and no others
are admitted. -/
def WritesUndeclared (scope : Scope) (e : Enumeration) (s : String) (written : Noted Literal) : Prop :=
  written.value = scope.enumValue e s ∧ written.notes =
    if e.extensible = false ∧ e.values ≠ [] then
      [.warning (.undeclaredEnumValue e.className (Json.string s).text)]
    else []

/-- A declared text is written as it is, one that is declared but for its case as a declared value, and any
other as it is. -/
structure SpellingKept (scope : Scope) (e : Enumeration) (s : String) (written : Noted Literal) : Prop where
  own : s ∈ e.values → scope.WritesQuietly e s written
  other : s ∉ e.values → (∃ d, e.Spells s d) → ∃ d, e.Spells s d ∧ scope.WritesQuietly e d written
  undeclared : (¬ ∃ d, e.Spells s d) → scope.WritesUndeclared e s written

variable {scope : Scope} {e : Enumeration} {s d : String}

theorem enumValue_inj {t : String} (h : scope.enumValue e s = scope.enumValue e t) : s = t := by
  have hlists := congrArg String.toList (Literal.scalar.inj h)
  simp only [String.toList_append] at hlists
  exact Quoted.eq_of_quote_eq (String.toList_inj.mp (List.append_cancel_left hlists))

theorem declared?_eq_none_iff : declared? e (.string s) = none ↔ ¬ ∃ d, e.Spells s d := by
  rw [declared?, List.find?_eq_none, not_exists]
  exact forall_congr' fun d => not_and.symm

theorem declared?_eq_some_iff : declared? e (.string s) = some d ↔ e.SpellsFirst s d := by
  simp only [declared?, List.find?_eq_some_iff_append, Enumeration.SpellsFirst, Bool.not_eq_true']

theorem spells_of_declared? (h : declared? e (.string s) = some d) : e.Spells s d := by
  obtain ⟨hsame, before, after, hvalues, -⟩ := declared?_eq_some_iff.mp h
  exact ⟨hvalues ▸ List.mem_append_right before List.mem_cons_self, hsame⟩

theorem exists_declared? (h : ∃ d, e.Spells s d) : ∃ d, declared? e (.string s) = some d := by
  rw [← Option.isSome_iff_exists, Option.isSome_iff_ne_none]
  exact fun hnone => declared?_eq_none_iff.mp hnone h

theorem writesQuietly_enumLiteral (h : declared? e (.string s) = some d) :
    scope.WritesQuietly e d (scope.enumLiteral e (.string s)) := by
  rw [enumLiteral, h]
  exact ⟨rfl, rfl⟩

theorem writesUndeclared_enumLiteral (h : ¬ ∃ d, e.Spells s d) :
    scope.WritesUndeclared e s (scope.enumLiteral e (.string s)) := by
  rw [enumLiteral, declared?_eq_none_iff.mpr h, WritesUndeclared]
  cases e.extensible <;> cases e.values <;> exact ⟨rfl, rfl⟩

theorem spellingKept_enumLiteral_iff :
    scope.SpellingKept e s (scope.enumLiteral e (.string s)) ↔
      (s ∈ e.values → declared? e (.string s) = some s) := by
  constructor
  · intro hkept hs
    obtain ⟨d, hd⟩ := exists_declared? ⟨s, hs, beq_self_eq_true _⟩
    have hsame := (writesQuietly_enumLiteral hd).1.symm.trans (hkept.own hs).1
    rw [hd, enumValue_inj hsame]
  · intro hown
    refine ⟨fun hs => writesQuietly_enumLiteral (hown hs), fun _ hspelled => ?_, writesUndeclared_enumLiteral⟩
    obtain ⟨d, hd⟩ := exists_declared? hspelled
    exact ⟨d, spells_of_declared? hd, writesQuietly_enumLiteral hd⟩

theorem synthesize_enum {name : String} (he : scope.model.enumeration? name = some e) (s : String) :
    scope.synthesize (.enum name) (.string s) = scope.enumLiteral e (.string s) := by
  have hvalue : ¬ (Json.string s).isNull = true := Bool.false_ne_true
  rw [synthesize.eq_def, if_neg hvalue]
  simp only [he]

/-- What is written is the first declared value that is the text but for its case, and the text itself if there
is none. The spelling is kept exactly if this first value is the text whenever the text is declared. -/
theorem spelling_kept_iff (scope : Scope) (name : String) (e : Enumeration)
    (he : scope.model.enumeration? name = some e) (s : String) :
    (∀ d, e.SpellsFirst s d → scope.WritesQuietly e d (scope.synthesize (.enum name) (.string s))) ∧
    ((¬ ∃ d, e.Spells s d) → scope.WritesUndeclared e s (scope.synthesize (.enum name) (.string s))) ∧
    (scope.SpellingKept e s (scope.synthesize (.enum name) (.string s)) ↔
      (s ∈ e.values → e.SpellsFirst s s)) := by
  rw [synthesize_enum he, ← declared?_eq_some_iff]
  exact ⟨fun d hd => writesQuietly_enumLiteral (declared?_eq_some_iff.mpr hd), writesUndeclared_enumLiteral,
    spellingKept_enumLiteral_iff⟩

def colors : Enumeration := { className := "Color", values := ["Red", "red", "Blue"] }

def palette : Scope := .ofModel { name := "C", family := .typeScript, enumerations := [colors] }

theorem enumeration?_color : palette.model.enumeration? "Color" = some colors := rfl

theorem spelling_kept_first :
    palette.model.enumeration? "Color" = some colors ∧
    palette.SpellingKept colors "Red" (palette.synthesize (.enum "Color") (.string "Red")) ∧
    (palette.synthesize (.enum "Color") (.string "BLUE")).value = .scalar "<CModels.Color>\"Blue\"" ∧
    palette.SpellingKept colors "BLUE" (palette.synthesize (.enum "Color") (.string "BLUE")) := by
  obtain ⟨-, -, hred⟩ := spelling_kept_iff palette "Color" colors enumeration?_color "Red"
  obtain ⟨hblue, -, hkept⟩ := spelling_kept_iff palette "Color" colors enumeration?_color "BLUE"
  have hfirst : colors.SpellsFirst "Red" "Red" := ⟨by decide, [], ["red", "Blue"], rfl, by decide⟩
  have hother : colors.SpellsFirst "BLUE" "Blue" := ⟨by decide, ["Red", "red"], [], rfl, by decide⟩
  refine ⟨enumeration?_color, hred.mpr fun _ => hfirst, ?_, hkept.mpr ?_⟩
  · exact (hblue _ hother).1.trans (congrArg Literal.scalar (by decide))
  · intro hdeclared
    exact absurd hdeclared (by decide)

/-- The second spelling is declared, and is written as the first. -/
theorem not_spellingKept_second :
    (palette.synthesize (.enum "Color") (.string "red")).value = .scalar "<CModels.Color>\"Red\"" ∧
    ¬ palette.SpellingKept colors "red" (palette.synthesize (.enum "Color") (.string "red")) := by
  have hwritten : (palette.synthesize (.enum "Color") (.string "red")).value =
      palette.enumValue colors "Red" := by
    rw [synthesize_enum enumeration?_color]
    exact (writesQuietly_enumLiteral (by decide)).1
  refine ⟨hwritten.trans (congrArg Literal.scalar (by decide)), fun hkept => ?_⟩
  have hown := (hkept.own (by decide)).1
  have hsame : "Red" = "red" := enumValue_inj (hwritten.symm.trans hown)
  revert hsame
  decide

end Scope

end ApiSamples
