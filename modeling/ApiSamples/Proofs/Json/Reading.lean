import ApiSamples.Json.Reader
import ApiSamples.Proofs.Json.Parts
import ApiSamples.Proofs.Json.Scanning

namespace ApiSamples

namespace Document

mutual

def depth : Document → Nat
  | array items _ => itemsDepth items + 1
  | object entries _ => entriesDepth entries + 1
  | _ => 0

def itemsDepth : List Document → Nat
  | [] => 0
  | item :: items => max (depth item) (itemsDepth items)

def entriesDepth : List (Document × Document) → Nat
  | [] => 0
  | (_, value) :: entries => max (depth value) (entriesDepth entries)

end

theorem itemsDepth_le_iff {items : List Document} {n : Nat} :
    itemsDepth items ≤ n ↔ ∀ item ∈ items, item.depth ≤ n := by
  induction items with
  | nil => simp [itemsDepth]
  | cons item items ih => rw [itemsDepth, Nat.max_le, ih, List.forall_mem_cons]

theorem entriesDepth_le_iff {fields : List (String × Document)} {n : Nat} :
    entriesDepth (entries fields) ≤ n ↔ ∀ field ∈ fields, field.2.depth ≤ n := by
  induction fields with
  | nil => simp [entries, entriesDepth]
  | cons field fields ih => rw [entries_cons, entriesDepth, Nat.max_le, ih, List.forall_mem_cons]

/-- A list within a depth opens one level, and its items are within what is left of it. -/
theorem depth_list_le {items : List Document} {left : Nat} (h : (list items).depth ≤ left) :
    ∃ n, left = n + 1 ∧ ∀ item ∈ items, item.depth ≤ n := by
  rw [list, depth] at h
  exact ⟨left - 1, by omega, itemsDepth_le_iff.mp (by omega)⟩

theorem depth_record_le {fields : List (String × Document)} {left : Nat}
    (h : (record fields).depth ≤ left) :
    ∃ n, left = n + 1 ∧ ∀ field ∈ fields, field.2.depth ≤ n := by
  rw [record_eq, depth] at h
  exact ⟨left - 1, by omega, entriesDepth_le_iff.mp (by omega)⟩

theorem ofJson_array (items : List Json) : ofJson (.array items) = list (items.map ofJson) := by
  have hitems : ofItems items = items.map ofJson := by
    induction items with
    | nil => rfl
    | cons item items ih => rw [ofItems, ih, List.map_cons]
  rw [ofJson, hitems, list]

def written (fields : Json.Fields) : List (String × Document) :=
  fields.map fun (key, value) => (key, ofJson value)

theorem ofJson_object (fields : Json.Fields) : ofJson (.object fields) = record (written fields) := by
  have hfields : ofFields fields = entries (written fields) := by
    induction fields with
    | nil => rfl
    | cons field fields ih =>
      obtain ⟨key, value⟩ := field
      rw [ofFields, ih]
      rfl
  rw [ofJson, hfields, record_eq]

end Document

namespace Json

/-- The keys of every object ascend, as those of a sorted map do. -/
inductive Ordered : Json → Prop
  | null : Ordered null
  | bool (b : Bool) : Ordered (bool b)
  | number (n : Number) : Ordered (number n)
  | string (s : String) : Ordered (string s)
  | array {items : List Json} (h : ∀ item ∈ items, Ordered item) : Ordered (array items)
  | object {fields : Fields} (hkeys : (fields.map Prod.fst).Pairwise (· < ·))
    (h : ∀ field ∈ fields, Ordered field.2) : Ordered (object fields)

theorem put_eq_append {key : String} {fields : Fields} (h : ∀ k ∈ fields.map Prod.fst, k < key)
    (value : Json) : put key value fields = fields ++ [(key, value)] := by
  induction fields with
  | nil => rfl
  | cons field fields ih =>
    obtain ⟨k, v⟩ := field
    rw [List.map_cons, List.forall_mem_cons] at h
    have hbehind : ¬ key < k := String.lt_asymm h.1
    have hne : key ≠ k := (String.ne_of_lt h.1).symm
    rw [put, if_neg hbehind, if_neg hne, ih h.2, List.cons_append]

theorem eq_or_mem_of_mem_put {key : String} {value : Json} {fields : Fields} {field : String × Json}
    (h : field ∈ put key value fields) : field = (key, value) ∨ field ∈ fields := by
  induction fields with
  | nil => exact .inl (List.mem_singleton.mp h)
  | cons first fields ih =>
    obtain ⟨k, v⟩ := first
    unfold put at h
    split at h
    · exact List.mem_cons.mp h
    · split at h
      · exact (List.mem_cons.mp h).imp_right (List.mem_cons_of_mem _)
      · rcases List.mem_cons.mp h with rfl | h
        · exact .inr List.mem_cons_self
        · exact (ih h).imp_right (List.mem_cons_of_mem _)

theorem pairwise_put {fields : Fields} (h : (fields.map Prod.fst).Pairwise (· < ·)) (key : String)
    (value : Json) : ((put key value fields).map Prod.fst).Pairwise (· < ·) := by
  induction fields with
  | nil => exact List.pairwise_singleton _ key
  | cons first fields ih =>
    obtain ⟨k, v⟩ := first
    obtain ⟨hfirst, hrest⟩ := List.pairwise_cons.mp h
    unfold put
    split
    · next hlt =>
      refine List.pairwise_cons.mpr ⟨?_, h⟩
      intro other hother
      rcases List.mem_cons.mp hother with rfl | hother
      · exact hlt
      · exact String.lt_trans hlt (hfirst other hother)
    · split
      · next heq =>
        subst heq
        exact h
      · next hlt hne =>
        refine List.pairwise_cons.mpr ⟨?_, ih hrest⟩
        intro other hother
        obtain ⟨field, hfield, rfl⟩ := List.mem_map.mp hother
        rcases eq_or_mem_of_mem_put hfield with rfl | hfield
        · refine Decidable.byContradiction fun hle => hne ?_
          exact String.le_antisymm (String.not_lt.mp hle) (String.not_lt.mp hlt)
        · exact hfirst _ (List.mem_map_of_mem hfield)

end Json

open Document

/-- The reader makes this value of the tree whenever it may open as many levels as the tree has. -/
def Reader.Gives {α : Type} (read : Reader α) (doc : Document) (a : α) : Prop :=
  ∀ left, doc.depth ≤ left → read left doc = .ok a

def Slots.cons {α : Type} {αs : List Type} (slot : Option α) (slots : Slots αs) : Slots (α :: αs) :=
  (slot, slots)

/-- The fields stand in the order of the columns, each key once, and give the values in the slots. -/
inductive Columns.Gives : {αs : List Type} → Columns αs → List (String × Document) → Slots αs → Prop
  | nil : Gives .nil [] ()
  | cons {α : Type} {αs : List Type} {key : String} {read : Reader α} {rest : Columns αs} {doc : Document}
    {fields : List (String × Document)} {a : α} {slots : Slots αs} (h : read.Gives doc a)
    (hkey : key ∉ fields.map Prod.fst) (hrest : Gives rest fields slots) :
    Gives (.cons key read rest) ((key, doc) :: fields) (.cons (some a) slots)

namespace Columns

variable {α : Type} {αs : List Type} (strict : Bool) (left : Nat)

theorem readEntries_cons (columns : Columns αs) (slots : Slots αs) (key : String) (value : Document)
    (fields : List (String × Document)) :
    columns.readEntries strict left slots (entries ((key, value) :: fields)) =
      columns.readEntry strict left key value slots >>= fun slots =>
        columns.readEntries strict left slots (entries fields) := rfl

theorem readEntry_self (key : String) (read : Reader α) (rest : Columns αs) (slots : Slots αs)
    (value : Document) : (cons key read rest).readEntry strict left key value (.cons none slots) =
      (fun a => .cons (some a) slots) <$> read left value := if_pos rfl

theorem readEntry_of_ne {key other : String} (h : key ≠ other) (read : Reader α) (rest : Columns αs)
    (slot : Option α) (slots : Slots αs) (value : Document) :
    (cons key read rest).readEntry strict left other value (.cons slot slots) =
      Slots.cons slot <$> rest.readEntry strict left other value slots := if_neg h

/-- A column is passed by where no key names it. -/
theorem readEntries_passing {key : String} (read : Reader α) (rest : Columns αs) (slot : Option α)
    (slots : Slots αs) {fields : List (String × Document)} (hkey : key ∉ fields.map Prod.fst) :
    (cons key read rest).readEntries strict left (.cons slot slots) (entries fields) =
      Slots.cons slot <$> rest.readEntries strict left slots (entries fields) := by
  induction fields generalizing slots with
  | nil => rfl
  | cons field fields ih =>
    obtain ⟨other, value⟩ := field
    rw [List.map_cons, List.mem_cons, not_or] at hkey
    rw [readEntries_cons, readEntries_cons, readEntry_of_ne strict left hkey.1]
    cases rest.readEntry strict left other value slots with
    | error e => rfl
    | ok slots => exact ih slots hkey.2

variable {left}

theorem Gives.readEntries_eq {columns : Columns αs} {fields : List (String × Document)}
    {slots : Slots αs} (h : columns.Gives fields slots)
    (hdepth : ∀ field ∈ fields, field.2.depth ≤ left) :
    columns.readEntries strict left (empty αs) (entries fields) = .ok slots := by
  induction h with
  | nil => rfl
  | @cons α αs key read rest doc fields a slots h hkey hrest ih =>
    rw [List.forall_mem_cons] at hdepth
    have hempty : empty (α :: αs) = Slots.cons none (empty αs) := rfl
    have hothers := readEntries_passing strict left read rest (some a) (empty αs) hkey
    rw [ih hdepth.2] at hothers
    rw [readEntries_cons, hempty, readEntry_self, h left hdepth.1]
    exact hothers

end Columns

namespace Reader

variable {α : Type} {αs : List Type} {left : Nat}

theorem gives_record {columns : Columns αs} {make : Slots αs → Option α}
    {fields : List (String × Document)} {slots : Slots αs} {a : α} (strict : Bool)
    (h : columns.Gives fields slots) (hmake : make slots = some a) :
    (Reader.record strict columns make).Gives (Document.record fields) a := by
  intro left hleft
  obtain ⟨n, rfl, hdepth⟩ := depth_record_le hleft
  have hslots := h.readEntries_eq strict hdepth
  have hmade : record.made make slots = .ok a := by rw [record.made, hmake]
  rw [record_eq]
  simp only [Reader.record, hslots]
  exact hmade

theorem mapM_map_eq_ok {β : Type} {read : β → Except Fault α} {write : α → β} {as : List α}
    (h : ∀ a ∈ as, read (write a) = .ok a) : (as.map write).mapM read = .ok as := by
  induction as with
  | nil => rfl
  | cons a as ih =>
    rw [List.forall_mem_cons] at h
    rw [List.map_cons, List.mapM_cons, h.1, ih h.2]
    rfl

theorem gives_list {read : Reader α} {write : α → Document} {as : List α}
    (h : ∀ a ∈ as, read.Gives (write a) a) : (items read).Gives (list (as.map write)) as := by
  intro left hleft
  obtain ⟨n, rfl, hdepth⟩ := depth_list_le hleft
  have hitems : (as.map write).mapM (read n) = .ok as := by
    apply mapM_map_eq_ok
    intro a ha
    exact h a ha n (hdepth _ (List.mem_map_of_mem ha))
  rw [list, items, hitems]
  rfl

theorem gives_text (s : String) : text.Gives (string s) s := fun _ _ => rfl

theorem gives_text? (s : Option String) : text?.Gives (Document.text? s) s := by
  intro left _
  cases s <;> rfl

theorem gives_flag (b : Bool) : flag.Gives (bool b) b := fun _ _ => rfl

theorem gives_name {find? : String → Option α} {s : String} {a : α} (h : find? s = some a) :
    (name find?).Gives (string s) a := by
  intro left _
  rw [name, name.named, h]

theorem bind_eq_ok {α β : Type} {x : Except Fault α} {next : α → Except Fault β} {b : β} :
    x >>= next = .ok b ↔ ∃ a, x = .ok a ∧ next a = .ok b := by
  cases x with
  | error e => exact ⟨nofun, fun ⟨_, h, _⟩ => nomatch h⟩
  | ok a => exact ⟨fun h => ⟨a, rfl, h⟩, fun ⟨_, ha, h⟩ => by cases ha; exact h⟩

theorem mem_of_jsonItems {n : Nat} {items : List Document} {vs : List Json} (h : jsonItems n items = .ok vs)
    {v : Json} (hv : v ∈ vs) : ∃ doc, json n doc = .ok v := by
  induction items generalizing vs with
  | nil =>
    cases h
    cases hv
  | cons item items ih =>
    obtain ⟨first, hfirst, h⟩ := bind_eq_ok.mp h
    obtain ⟨others, hothers, h⟩ := bind_eq_ok.mp h
    cases h
    rcases List.mem_cons.mp hv with rfl | hv
    · exact ⟨item, hfirst⟩
    · exact ih hothers hv

theorem ordered_jsonFields {n : Nat} (hread : ∀ doc v, json n doc = .ok v → v.Ordered)
    {entries : List (Document × Document)} {before fields : Json.Fields}
    (h : jsonFields n before entries = .ok fields) (hbefore : (Json.object before).Ordered) :
    (Json.object fields).Ordered := by
  induction entries generalizing before with
  | nil =>
    cases h
    exact hbefore
  | cons entry entries ih =>
    obtain ⟨k, doc⟩ := entry
    obtain ⟨name, -, h⟩ := bind_eq_ok.mp h
    obtain ⟨v, hv, h⟩ := bind_eq_ok.mp h
    refine ih h ?_
    cases hbefore with
    | object hkeys hvalues =>
      refine .object (Json.pairwise_put hkeys name v) fun field hfield => ?_
      rcases Json.eq_or_mem_of_mem_put hfield with rfl | hfield
      · exact hread doc v hv
      · exact hvalues field hfield

theorem ordered_of_json {left : Nat} {doc : Document} {v : Json} (h : json left doc = .ok v) :
    v.Ordered := by
  induction left generalizing doc v with
  | zero => cases doc <;> cases h <;> constructor
  | succ n ih =>
    cases doc with
    | array items closed =>
      obtain ⟨vs, hitems, h⟩ := bind_eq_ok.mp h
      obtain ⟨-, -, h⟩ := bind_eq_ok.mp h
      cases h
      refine .array fun item hi => ?_
      obtain ⟨doc, hdoc⟩ := mem_of_jsonItems hitems hi
      exact ih hdoc
    | object entries closed =>
      obtain ⟨fields, hfields, h⟩ := bind_eq_ok.mp h
      obtain ⟨-, -, h⟩ := bind_eq_ok.mp h
      cases h
      exact ordered_jsonFields (fun doc v => ih) hfields (.object .nil (by simp))
    | _ => cases h <;> constructor

theorem jsonItems_eq {items : List Json} {n : Nat} (h : ∀ item ∈ items, json n (ofJson item) = .ok item) :
    jsonItems n (items.map ofJson) = .ok items := by
  induction items with
  | nil => rfl
  | cons item items ih =>
    rw [List.forall_mem_cons] at h
    rw [List.map_cons, jsonItems, h.1, ih h.2]
    rfl

theorem jsonFields_eq {before fields : Json.Fields} {n : Nat}
    (hkeys : ((before ++ fields).map Prod.fst).Pairwise (· < ·))
    (h : ∀ field ∈ fields, json n (ofJson field.2) = .ok field.2) :
    jsonFields n before (entries (written fields)) = .ok (before ++ fields) := by
  induction fields generalizing before with
  | nil =>
    rw [List.append_nil]
    rfl
  | cons field fields ih =>
    obtain ⟨key, value⟩ := field
    rw [List.forall_mem_cons] at h
    have hlast : ∀ k ∈ before.map Prod.fst, k < key := by
      rw [List.map_append, List.pairwise_append] at hkeys
      exact fun k hk => hkeys.2.2 k hk key List.mem_cons_self
    have hput := Json.put_eq_append hlast value
    have hstep : jsonFields n before (entries (written ((key, value) :: fields))) =
        json n (ofJson value) >>= fun v =>
          jsonFields n (Json.put key v before) (entries (written fields)) := rfl
    rw [List.append_cons] at hkeys ⊢
    rw [← ih hkeys h.2, hstep, h.1, ← hput]
    rfl

theorem gives_json {v : Json} (h : v.Ordered) : json.Gives (ofJson v) v := by
  induction h with
  | null => exact fun _ _ => rfl
  | bool b => exact fun _ _ => rfl
  | number n => exact fun _ _ => rfl
  | string s => exact fun _ _ => rfl
  | @array items h ih =>
    intro left hleft
    rw [ofJson_array] at hleft ⊢
    obtain ⟨n, rfl, hdepth⟩ := depth_list_le hleft
    have hitems : jsonItems n (items.map ofJson) = .ok items :=
      jsonItems_eq fun item hi => ih item hi n (hdepth _ (List.mem_map_of_mem hi))
    rw [list, json, hitems]
    rfl
  | @object fields hkeys h ih =>
    intro left hleft
    rw [ofJson_object] at hleft ⊢
    obtain ⟨n, rfl, hdepth⟩ := depth_record_le hleft
    have hfields : jsonFields n [] (entries (written fields)) = .ok fields :=
      jsonFields_eq hkeys fun field hf => ih field hf n (hdepth _ (List.mem_map_of_mem hf))
    rw [record_eq, json, hfields]
    rfl

theorem gives_fields {parameters : Json.Fields} (h : (Json.object parameters).Ordered) :
    fields.Gives (ofJson (.object parameters)) parameters := by
  cases h with
  | object hkeys h =>
    intro left hleft
    rw [ofJson_object] at hleft ⊢
    obtain ⟨n, rfl, hdepth⟩ := depth_record_le hleft
    have hfields : jsonFields n [] (entries (written parameters)) = .ok parameters :=
      jsonFields_eq hkeys fun field hf => gives_json (h field hf) n (hdepth _ (List.mem_map_of_mem hf))
    rw [record_eq, fields, hfields]
    rfl

end Reader

theorem Json.Ordered.readable {v : Json} (h : v.Ordered)
    (hdoubles : ∀ x, Relation.ReflTransGen HasPart v (.number (.double x)) → x.ReadsBack) :
    (ofJson v).Readable := by
  induction h with
  | null => exact .null
  | bool b => exact .bool b
  | number n =>
    cases n with
    | integer n fits => exact .number (Number.ofText?_integer fits)
    | double x => exact .number (hdoubles x .refl)
  | string s => exact .string s
  | array h ih =>
    rw [ofJson_array]
    refine .list fun doc hdoc => ?_
    obtain ⟨item, hi, rfl⟩ := List.mem_map.mp hdoc
    exact ih item hi fun x hx => hdoubles x (hx.head (.item hi))
  | object hkeys h ih =>
    rw [ofJson_object]
    refine .record fun field hfield => ?_
    obtain ⟨⟨key, value⟩, hf, rfl⟩ := List.mem_map.mp hfield
    exact ih _ hf fun x hx => hdoubles x (hx.head (.field hf))

end ApiSamples
