import ApiSamples.Proofs.Model.Defects
import ApiSamples.Proofs.Output.Fragments

namespace ApiSamples

namespace Text

def DifferInFirstCase (s t : String) : Prop :=
  ∃ c d rest, c ≠ d ∧ c.toUpper = d.toUpper ∧ s.toList = c :: rest ∧ t.toList = d :: rest

theorem pascalChars_cons {c : Char} {cs : List Char} (h : isIdentifierLike (c :: cs) = true) :
    pascalChars (c :: cs) = c.toUpper :: cs := by
  unfold pascalChars
  rw [if_pos h]

theorem pascal_eq_iff_of_identifierLike {s t : String} (hs : isIdentifierLike s.toList = true)
    (ht : isIdentifierLike t.toList = true) :
    pascal s = pascal t ↔ s = t ∨ DifferInFirstCase s t := by
  have hempty : pascalChars [] = [] := rfl
  rw [← String.toList_inj, ← String.toList_inj, toList_pascal, toList_pascal, DifferInFirstCase]
  generalize s.toList = cs at hs
  generalize t.toList = ds at ht
  cases cs with
  | nil =>
    cases ds with
    | nil => simp
    | cons d ds => simp [hempty, pascalChars_cons ht]
  | cons c cs =>
    cases ds with
    | nil => simp [hempty, pascalChars_cons hs]
    | cons d ds =>
      rw [pascalChars_cons hs, pascalChars_cons ht, List.cons.injEq, List.cons.injEq]
      constructor
      · rintro ⟨hupper, rfl⟩
        by_cases hcase : c = d
        · exact .inl ⟨hcase, rfl⟩
        · exact .inr ⟨c, d, cs, hcase, hupper, rfl, rfl⟩
      · rintro (⟨rfl, rfl⟩ | ⟨c, d, rest, -, hupper, hs, ht⟩)
        · exact ⟨rfl, rfl⟩
        · obtain ⟨rfl, rfl⟩ := List.cons.inj hs
          obtain ⟨rfl, rfl⟩ := List.cons.inj ht
          exact ⟨hupper, rfl⟩

end Text

namespace Sample

open Text

/-- The group of one operation has a Pascal name that goes on behind that of another group, and the operation
of the other group has one that begins with what it goes on with. -/
def Overlaps (x y : Group × Operation) : Prop :=
  ∃ middle, pascal x.1.name = pascal y.1.name ++ middle ∧ pascal y.2.name = middle ++ pascal x.2.name

theorem overlaps_iff {x y : Group × Operation} : Overlaps x y ↔
    ∃ cs, pascalChars x.1.name.toList = pascalChars y.1.name.toList ++ cs ∧
      pascalChars y.2.name.toList = cs ++ pascalChars x.2.name.toList := by
  constructor
  · rintro ⟨middle, hgroup, hoperation⟩
    refine ⟨middle.toList, ?_, ?_⟩
    · simpa using congrArg String.toList hgroup
    · simpa using congrArg String.toList hoperation
  · rintro ⟨cs, hgroup, hoperation⟩
    refine ⟨String.ofList cs, ?_, ?_⟩ <;> apply String.toList_inj.mp
    · simpa using hgroup
    · simpa using hoperation

theorem reservedFor_eq_iff (x y : Group × Operation) :
    reservedFor x.2 x.1 = reservedFor y.2 y.1 ↔ Overlaps x y ∨ Overlaps y x := by
  rw [overlaps_iff, overlaps_iff, ← String.toList_inj]
  simp only [reservedFor, String.toList_append, toList_pascal, List.append_cancel_right_eq]
  rw [List.append_eq_append_iff, or_comm]

/-- In one group only the operations' names count. -/
theorem reservedFor_eq_iff_of_group {x y : Group × Operation} (h : x.1.name = y.1.name) :
    reservedFor x.2 x.1 = reservedFor y.2 y.1 ↔ pascal x.2.name = pascal y.2.name := by
  rw [← String.toList_inj, ← String.toList_inj]
  simp only [reservedFor, String.toList_append, h, List.append_cancel_right_eq,
    List.append_cancel_left_eq]

end Sample

open Sample

namespace CodeModel

theorem names_differ {m : CodeModel} (h : m.validate.value = .ok ()) :
    m.operations.Pairwise fun x y => x.1.name ≠ y.1.name ∨ x.2.name ≠ y.2.name := by
  have hpaths := (sound_iff_validate.mp h).paths_distinct
  refine hpaths.imp fun {x y} hpath => ?_
  by_contra hsame
  rw [not_or, not_not, not_not] at hsame
  apply hpath
  rw [samplePath, samplePath, Group.isTopLevel, Group.isTopLevel, hsame.1, hsame.2]

/-- Two operations of an accepted model reserve one name exactly if they overlap. In one group, if their names
are identifiers, this is if the names differ in the case of the first letter only. The text of all fragments
is made of fragments that each reserve the name of their operation. -/
theorem reserved_apart_iff (m : CodeModel) (s : Settings) (h : m.validate.value = .ok ()) :
    (m.operations.Pairwise fun x y =>
      (x.1.name ≠ y.1.name ∨ x.2.name ≠ y.2.name) ∧
      (reservedFor x.2 x.1 = reservedFor y.2 y.1 ↔ Overlaps x y ∨ Overlaps y x) ∧
      (x.1.name = y.1.name → Text.isIdentifierLike x.2.name.toList = true →
        Text.isIdentifierLike y.2.name.toList = true →
        (reservedFor x.2 x.1 = reservedFor y.2 y.1 ↔ Text.DifferInFirstCase x.2.name y.2.name))) ∧
    (m.renderFragments s).value = .ok (Assembler.joined (m.emittedFragments s)) ∧
    ∀ x ∈ m.operations, ∀ text ∈ (Assembler.ofModel m s).emitted x.2 x.1,
      ∃ before, Text.splitLines text = before ++ [" */", "var " ++ reservedFor x.2 x.1 ++ ";", ""] := by
  refine ⟨(names_differ h).imp fun {x y} hnames => ?_, ?_, fun x _ text htext => ?_⟩
  · refine ⟨hnames, reservedFor_eq_iff x y, fun hgroup hx hy => ?_⟩
    have hoperations : x.2.name ≠ y.2.name := hnames.resolve_left fun hne => hne hgroup
    rw [reservedFor_eq_iff_of_group hgroup, Text.pascal_eq_iff_of_identifierLike hx hy,
      or_iff_right hoperations]
  · rw [renderFragments_of_accepted h, fragmentsText_eq]
  · obtain ⟨e, -, he⟩ := List.mem_filterMap.mp htext
    obtain ⟨core, -, rfl⟩ := Option.map_eq_some_iff.mp he
    obtain ⟨before, hlines, -⟩ := Assembler.splitLines_fragment core x.2 x.1 e
    exact ⟨before, hlines⟩

theorem reserved_apart_disk :
    (ofCalls [("disk", "get"), ("", "diskSetGet")]).validate.value = .ok () ∧
      (ofCalls [("disk", "get"), ("", "diskSetGet")]).operations.Pairwise fun x y =>
        ¬ Overlaps x y ∧ ¬ Overlaps y x := by
  have hvalid : (ofCalls [("disk", "get"), ("", "diskSetGet")]).validate.value = .ok () := by
    decide +kernel
  obtain ⟨hpairs, -, -⟩ := reserved_apart_iff (ofCalls [("disk", "get"), ("", "diskSetGet")]) {} hvalid
  have hapart : (ofCalls [("disk", "get"), ("", "diskSetGet")]).operations.Pairwise fun x y =>
      reservedFor x.2 x.1 ≠ reservedFor y.2 y.1 := by decide +kernel
  refine ⟨hvalid, (hpairs.and hapart).imp fun {x y} hboth => ?_⟩
  obtain ⟨⟨-, hiff, -⟩, hne⟩ := hboth
  exact not_or.mp (mt hiff.mpr hne)

def ReservesApart (m : CodeModel) : Prop :=
  m.operations.Pairwise fun x y => reservedFor x.2 x.1 ≠ reservedFor y.2 y.1

/-- Two operations with names, groups and paths of their own reserve `DiskSetGetSample`. -/
theorem not_reservesApart_disk :
    (ofCalls [("disk", "setGet"), ("diskSet", "get")]).validate.value = .ok () ∧
      ¬ (ofCalls [("disk", "setGet"), ("diskSet", "get")]).ReservesApart := by
  refine ⟨by decide +kernel, fun hapart => ?_⟩
  have hne := (List.pairwise_cons.mp hapart).1 _ (List.mem_singleton_self _)
  revert hne
  decide +kernel

end CodeModel

end ApiSamples
