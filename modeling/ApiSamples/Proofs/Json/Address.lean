import ApiSamples.Json.Address

namespace ApiSamples

namespace Address

section

variable {key inner cs : List Char} {c : Char} {n : Nat}

theorem flush_of_ne_nil (h : key ≠ []) : flush key = [.key (String.ofList key)] := by
  rw [flush, if_neg (by simpa using h)]

theorem steps_plain (hpoint : c ≠ '.') (hopen : c ≠ '[') (hescape : c = '\\' → cs.head? ≠ some '.') :
    steps key (c :: cs) = steps (key ++ [c]) cs := by
  rw [steps]
  · rintro rest rfl rfl
    exact hescape rfl rfl
  · exact hpoint
  · exact hopen

theorem bracketSteps_append {text : List Char} (h : ']' ∉ text) :
    bracketSteps key inner (text ++ cs) = bracketSteps key (inner ++ text) cs := by
  induction text generalizing inner with
  | nil => simp
  | cons c text ih =>
    rw [List.mem_cons, not_or] at h
    rw [List.cons_append, bracketSteps, ih h.2, List.append_assoc, List.singleton_append]
    exact fun hc => h.1 hc.symm

theorem bracketSteps_index (h : index? inner = some n) :
    bracketSteps key inner (']' :: cs) = flush key ++ .index n :: steps [] cs := by
  rw [bracketSteps, h]

end

theorem index?_toDigits {n : Nat} (h : n < twoPow 64) : index? (Nat.toDigits 10 n) = some n := by
  have hdigit : ∀ c ∈ Nat.toDigits 10 n, c.isDigit = true :=
    fun c hc => Nat.isDigit_of_mem_toDigits (by decide) (by decide) hc
  have hvalue : digitsValue (Nat.toDigits 10 n) = n := by
    have hread := Nat.ofDigitChars_ten_toDigits (n := n)
    simp only [Nat.ofDigitChars, Nat.mul_comm 10] at hread
    exact hread
  obtain ⟨c, cs, hcons⟩ := List.exists_cons_of_ne_nil (Nat.toDigits_ne_nil (n := n) (b := 10))
  rw [hcons] at hdigit hvalue ⊢
  have hplus : c ≠ '+' := by
    rintro rfl
    exact absurd (hdigit '+' List.mem_cons_self) (by decide)
  have hall : (c :: cs).all Char.isDigit = true := List.all_eq_true.mpr hdigit
  simp only [index?, List.cons.injEq, hplus, false_and, imp_self, implies_true, hall, hvalue]
  simp [h]

def escaped (key : List Char) : List Char := key.flatMap fun c => if c = '.' then ['\\', '.'] else [c]

/-- The path of steps behind others. -/
def continued : List Step → List Char
  | [] => []
  | .key name :: address => '.' :: escaped name.toList ++ continued address
  | .index n :: address => '[' :: Nat.toDigits 10 n ++ ']' :: continued address

/-- The path of an address. A key at its front has no point before it. -/
def written : List Step → String
  | .key name :: address => String.ofList (escaped name.toList ++ continued address)
  | address => String.ofList (continued address)

/-- A key whose end can be told, or an index of 64 bits. -/
def Step.Writable : Step → Prop
  | .key name => name ≠ "" ∧ '[' ∉ name.toList ∧ name.toList.getLast? ≠ some '\\'
  | .index n => n < twoPow 64

instance : DecidablePred Step.Writable
  | .key name =>
    inferInstanceAs (Decidable (name ≠ "" ∧ '[' ∉ name.toList ∧ name.toList.getLast? ≠ some '\\'))
  | .index n => inferInstanceAs (Decidable (n < twoPow 64))

theorem escaped_cons (c : Char) (cs : List Char) :
    escaped (c :: cs) = (if c = '.' then ['\\', '.'] else [c]) ++ escaped cs := rfl

theorem head?_escaped_append {key : List Char} (h : key ≠ []) (rest : List Char) :
    (escaped key ++ rest).head? ≠ some '.' := by
  cases key with
  | nil => exact absurd rfl h
  | cons c cs =>
    rw [escaped_cons]
    split
    · simp
    · next hc => simpa using hc

theorem steps_escaped {name : List Char} (hopen : '[' ∉ name) (hlast : name.getLast? ≠ some '\\')
    (key rest : List Char) : steps key (escaped name ++ rest) = steps (key ++ name) rest := by
  induction name generalizing key with
  | nil => simp [escaped]
  | cons c cs ih =>
    rw [List.mem_cons, not_or] at hopen
    have hrest : cs.getLast? ≠ some '\\' := by
      cases cs with
      | nil => simp
      | cons d ds => rwa [List.getLast?_cons_cons] at hlast
    rw [escaped_cons]
    by_cases hc : c = '.'
    · subst hc
      rw [if_pos rfl]
      change steps key ('\\' :: '.' :: (escaped cs ++ rest)) = _
      rw [steps, ih hopen.2 hrest, List.append_assoc, List.singleton_append]
    · rw [if_neg hc]
      change steps key (c :: (escaped cs ++ rest)) = _
      rw [steps_plain hc (fun h => hopen.1 h.symm), ih hopen.2 hrest, List.append_assoc, List.singleton_append]
      -- A backslash is not the last character, and a point behind it has a backslash of its own.
      rintro rfl
      have hne : cs ≠ [] := by
        rintro rfl
        exact hlast rfl
      exact head?_escaped_append hne rest

/-- The key that has been read ends where the next step begins. -/
theorem steps_continued {address : List Step} (h : ∀ step ∈ address, step.Writable) (key : List Char) :
    steps key (continued address) = flush key ++ address := by
  induction address generalizing key with
  | nil => rw [continued, steps, List.append_nil]
  | cons step address ih =>
    obtain ⟨hstep, hrest⟩ := List.forall_mem_cons.mp h
    cases step with
    | key name =>
      obtain ⟨hne, hopen, hlast⟩ := hstep
      have hname : flush name.toList = [.key name] := by
        rw [flush_of_ne_nil (by simpa using hne), String.ofList_toList]
      rw [continued, List.cons_append, steps, steps_escaped hopen hlast, List.nil_append, ih hrest, hname]
      rfl
    | index n =>
      have hclose : ']' ∉ Nat.toDigits 10 n := fun hmem =>
        absurd (Nat.isDigit_of_mem_toDigits (by decide) (by decide) hmem) (by decide)
      rw [continued, List.cons_append, steps, bracketSteps_append hclose, List.nil_append,
        bracketSteps_index (index?_toDigits hstep), ih hrest]
      rfl

theorem parse_written {address : List Step} (h : ∀ step ∈ address, step.Writable) :
    parse (written address) = address := by
  have hcontinued : steps [] (continued address) = address := steps_continued h []
  cases address with
  | nil => rfl
  | cons step address =>
    cases step with
    | key name =>
      -- A point at the front would end an empty key, which is no step.
      rw [continued, List.cons_append, steps] at hcontinued
      rwa [written, parse, String.toList_ofList]
    | index n =>
      change parse (String.ofList (continued (.index n :: address))) = _
      rwa [parse, String.toList_ofList]

end Address

namespace Json

/-- What stands at an address inside a value: each key is that of a field, and each index that of an item. -/
inductive LeadsTo : Json → List Address.Step → Json → Prop
  | here (v : Json) : LeadsTo v [] v
  | field {fields : Fields} {name : String} {v w : Json} {address : List Address.Step}
      (h : get? fields name = some v) (rest : LeadsTo v address w) :
      LeadsTo (.object fields) (.key name :: address) w
  | item {items : List Json} {n : Nat} {v w : Json} {address : List Address.Step}
      (h : items[n]? = some v) (rest : LeadsTo v address w) :
      LeadsTo (.array items) (.index n :: address) w

theorem at?_eq_some_iff {v w : Json} {address : List Address.Step} :
    v.at? address = some w ↔ v.LeadsTo address w := by
  induction address generalizing v with
  | nil =>
    rw [at?, Option.some.injEq]
    constructor
    · rintro rfl
      exact .here v
    · rintro ⟨⟩
      rfl
  | cons step address ih =>
    rw [at?, Option.bind_eq_some_iff]
    simp only [ih]
    constructor
    · rintro ⟨u, hu, hw⟩
      cases step with
      | key name =>
        cases v with
        | object fields => exact .field hu hw
        | _ => cases hu
      | index n =>
        cases v with
        | array items => exact .item hu hw
        | _ => cases hu
    · rintro (_ | ⟨hv, hw⟩ | ⟨hv, hw⟩)
      · exact ⟨_, hv, hw⟩
      · exact ⟨_, hv, hw⟩

theorem select?_of_parse {path : String} {address : List Address.Step} (h : Address.parse path = address)
    (hne : address ≠ []) (v : Json) : v.select? path = (v.field? path).or (v.at? address) := by
  cases address with
  | nil => exact absurd rfl hne
  | cons step address =>
    rw [select?, h]
    cases v.field? path <;> rfl

end Json

namespace Address

/-- Every address that can be written is read back from its path. The path selects what stands at the address,
if anything does, except in an object with a field whose key is the path itself: there it selects this field. -/
theorem every_place_addressed (address : List Step) (hne : address ≠ [])
    (h : ∀ step ∈ address, step.Writable) :
    parse (written address) = address ∧
    ∀ v w : Json, v.select? (written address) = some w ↔
      v.field? (written address) = some w ∨
      v.field? (written address) = none ∧ v.LeadsTo address w := by
  have hparse := parse_written h
  refine ⟨hparse, fun v w => ?_⟩
  rw [Json.select?_of_parse hparse hne, Option.or_eq_some_iff, Json.at?_eq_some_iff]

/-- A point and a backslash before a point in keys, an index right behind an index and a key behind it. -/
def winding : List Step := [.key "@odata.type", .index 1, .index 0, .key "a]\\.b"]

def wound : Json :=
  .object [("@odata.type", .array [.null, .array [.object [("a]\\.b", .string "x")]]])]

theorem winding_addressed :
    (∀ step ∈ winding, step.Writable) ∧ written winding = "@odata\\.type[1][0].a]\\\\.b" ∧
    parse "@odata\\.type[1][0].a]\\\\.b" = winding ∧
    wound.select? "@odata\\.type[1][0].a]\\\\.b" = some (.string "x") := by
  have hwritable : ∀ step ∈ winding, step.Writable := by decide
  have hwritten : written winding = "@odata\\.type[1][0].a]\\\\.b" := by decide
  obtain ⟨hparse, hselect⟩ := every_place_addressed winding (List.cons_ne_nil _ _) hwritable
  have hleads : wound.LeadsTo winding (.string "x") :=
    .field rfl (.item rfl (.item rfl (.field rfl (.here _))))
  have hfield : wound.field? (written winding) = none := by
    rw [hwritten]
    rfl
  have hfound := (hselect wound (.string "x")).mpr (.inr ⟨hfield, hleads⟩)
  exact ⟨hwritable, hwritten, hwritten ▸ hparse, hwritten ▸ hfound⟩

end Address

end ApiSamples
