import ApiSamples.Proofs.Output.Programs
import ApiSamples.Proofs.Sample.Comment
import ApiSamples.Proofs.Sample.Variables

namespace ApiSamples

namespace Assembler

def beside (s t : String) : String := s ++ "\n" ++ t

theorem beside_assoc (s t u : String) : beside (beside s t) u = beside s (beside t u) := by
  simp only [beside, String.append_assoc]

theorem joined_cons (text : String) (texts : List String) :
    joined (text :: texts) = Option.merge beside (some text) (joined texts) := by
  cases texts with
  | nil => simp [joined]
  | cons other texts =>
    have hlist : "\n".intercalate (text :: other :: texts) =
        beside text ("\n".intercalate (other :: texts)) := by
      apply String.toList_inj.mp
      simp only [beside, String.toList_append, String.toList_intercalate, List.map_cons,
        List.intercalate_cons_cons]
    simp [joined, hlist]

theorem joined_append (xs ys : List String) :
    joined (xs ++ ys) = Option.merge beside (joined xs) (joined ys) := by
  induction xs with
  | nil =>
    have hnone : joined [] = none := rfl
    rw [List.nil_append, hnone]
    cases joined ys <;> rfl
  | cons x xs ih =>
    rw [List.cons_append, joined_cons, joined_cons, ih]
    cases joined xs <;> cases joined ys <;> simp [beside_assoc]

/-- Groups that are joined before they are joined with each other. -/
theorem joined_reduceOption (groups : List (List String)) :
    joined (groups.map joined).reduceOption = joined groups.flatten := by
  induction groups with
  | nil => rfl
  | cons group groups ih =>
    rw [List.map_cons, List.flatten_cons, joined_append, ← ih]
    cases hgroup : joined group with
    | none =>
      rw [List.reduceOption_cons_of_none]
      cases joined (groups.map joined).reduceOption <;> rfl
    | some text => rw [List.reduceOption_cons_of_some, joined_cons]

theorem commentEnds_joined (texts : List String) :
    commentEnds ((joined texts).getD "") = (texts.map commentEnds).sum := by
  induction texts with
  | nil => rfl
  | cons text texts ih =>
    rw [List.map_cons, List.sum_cons, ← ih, joined_cons]
    cases joined texts with
    | none =>
      have hempty : commentEnds "" = 0 := rfl
      simp [hempty]
    | some rest => exact commentEnds_append_feed text rest

def emitted (a : Assembler) (op : Operation) (g : Group) : List String :=
  op.examples.filterMap fun e => (a.assemble .inline op g e).value

theorem fragments_eq (a : Assembler) (op : Operation) (g : Group) :
    (a.fragments op g).value = joined (a.emitted op g) := by
  simp only [fragments, emitted, Noted.value_bind, Noted.value_pure, Noted.value_mapM,
    List.reduceOption, List.filterMap_map]
  rfl

end Assembler

open Assembler

namespace CodeModel

def emittedFragments (m : CodeModel) (s : Settings) : List String :=
  (m.operations.map fun (g, op) => (ofModel m s).emitted op g).flatten

theorem fragmentsText_eq (m : CodeModel) (s : Settings) :
    m.fragmentsText s = joined (m.emittedFragments s) := by
  simp only [fragmentsText, fragments_eq, emittedFragments, ← joined_reduceOption, List.map_map]
  rfl

theorem commentEnds_of_emitted {m : CodeModel} {s : Settings} :
    ∀ text ∈ m.emittedFragments s, commentEnds text = 1 := by
  intro text htext
  obtain ⟨texts, hmem, htext⟩ := List.mem_flatten.mp htext
  obtain ⟨⟨g, op⟩, -, rfl⟩ := List.mem_map.mp hmem
  obtain ⟨e, -, he⟩ := List.mem_filterMap.mp htext
  obtain ⟨core, -, rfl⟩ := Option.map_eq_some_iff.mp he
  exact commentEnds_fragment core op g e

theorem commentEnds_fragmentsText (m : CodeModel) (s : Settings) :
    commentEnds ((m.fragmentsText s).getD "") = (m.emittedFragments s).length := by
  have hones : (m.emittedFragments s).map commentEnds = (m.emittedFragments s).map fun _ => 1 :=
    List.map_congr_left commentEnds_of_emitted
  rw [fragmentsText_eq, commentEnds_joined, hones]
  simp

theorem validate_of_renderFragments {m : CodeModel} {s : Settings} {result : Option String}
    (h : (m.renderFragments s).value = .ok result) : m.validate.value = .ok () := by
  simp only [renderFragments, validated, Noted.value_bind] at h
  cases hv : m.validate.value with
  | ok => rfl
  | error e =>
    rw [hv] at h
    cases h

/-- A fragment ends its comment once, in the line before the reservation of its name, and the text of all
fragments ends as many comments as it has fragments. -/
theorem comments_end_once :
    (∀ (a : Assembler) (op : Operation) (g : Group) (e : Example) (text : String),
      (a.assemble .inline op g e).value = some text →
      commentEnds text = 1 ∧
      ∃ before, Text.splitLines text =
          before ++ [" */", "var " ++ Sample.reservedFor op g ++ ";", ""] ∧
        ∀ line ∈ before, commentEnds line = 0) ∧
    (∀ (m : CodeModel) (s : Settings) (result : Option String),
      (m.renderFragments s).value = .ok result →
      commentEnds (result.getD "") = (m.emittedFragments s).length) := by
  constructor
  · intro a op g e text h
    obtain ⟨core, -, rfl⟩ := Option.map_eq_some_iff.mp h
    exact ⟨commentEnds_fragment core op g e, splitLines_fragment core op g e⟩
  · intro m s result h
    have hm := validate_of_renderFragments h
    rw [renderFragments_of_accepted hm] at h
    obtain rfl := Except.ok.inj h
    exact commentEnds_fragmentsText m s

def closingCall : Example :=
  { name := "e"
    title := some "**/\n/"
    description := some "/*/"
    parameters := [("glob", .string "logs/*/app.log")] }

theorem comments_end_once_closingCall :
    (∃ text, (plain.assemble .inline (requiring ["glob"]) {} closingCall).value = some text ∧
      commentEnds text = 1) ∧
    ((ofCalls [("g", "x"), ("*/", "y")]).renderFragments {}).value =
      .ok ((ofCalls [("g", "x"), ("*/", "y")]).fragmentsText {}) ∧
    commentEnds (((ofCalls [("g", "x"), ("*/", "y")]).fragmentsText {}).getD "") = 2 := by
  have hcomplete : (requiring ["glob"]).parameters.any
      ((requiring ["glob"]).lacks closingCall) = false := by decide
  have hcore := core_eq_script plain (requiring ["glob"]) {} closingCall
  rw [script?_of_complete hcomplete] at hcore
  have hassembled := assembled_eq plain .inline ⟨requiring ["glob"], {}, closingCall⟩
  rw [coreOf, hcore] at hassembled
  have hvalid : (ofCalls [("g", "x"), ("*/", "y")]).validate.value = .ok () := by decide +kernel
  have hrendered := renderFragments_of_accepted (s := {}) hvalid
  have hcount : ((ofCalls [("g", "x"), ("*/", "y")]).emittedFragments {}).length = 2 := by
    decide +kernel
  obtain ⟨hfragment, htext⟩ := comments_end_once
  refine ⟨⟨_, hassembled, (hfragment _ _ _ _ _ hassembled).1⟩, hrendered, ?_⟩
  rw [htext _ _ _ hrendered, hcount]

end CodeModel

end ApiSamples
