import ApiSamples.Model.Schema
import ApiSamples.Proofs.Json.Reading

namespace ApiSamples

open Document Reader

theorem Kind.gives_read (kind : Kind) : Kind.read.Gives kind.document kind :=
  gives_name (Kind.ofName?_name kind)

theorem Family.gives_read (family : Family) : Family.read.Gives family.document family :=
  gives_name (Family.ofName?_name family)

namespace TypeExpr

/-- A type is written with its tag in front of what its variant holds. -/
def tagged (tag : Tag) (held : Document) : Document :=
  record [(tagKey, string tag.name), (tag.key, held)]

variable {n : Nat} {doc : Document}

theorem json_tagged (tag : Tag) {v : Json} (h : json n doc = .ok v) :
    ∃ w, json (n + 1) (tagged tag doc) = .ok w := by
  have hfields : jsonFields n [] (entries [(tagKey, string tag.name), (tag.key, doc)]) =
      json n doc >>= fun v => .ok (Json.put tag.key v (Json.put tagKey (.string tag.name) [])) := by
    rfl
  refine ⟨.object (Json.put tag.key v (Json.put tagKey (.string tag.name) [])), ?_⟩
  rw [tagged, record_eq, json, hfields, h]
  rfl

theorem check_tagged (tag : Tag) {v : Json} (h : json n doc = .ok v) :
    check (n + 1) (tagged tag doc) = .ok () := by
  have hentries : checkEntries n false (entries [(tagKey, string tag.name), (tag.key, doc)]) =
      json n doc >>= fun _ => .ok true := by cases tag <;> rfl
  rw [tagged, record_eq, check, hentries, h]
  rfl

theorem ofDocument?_tagged (tag : Tag) (doc : Document) :
    ofDocument? (tagged tag doc) = ofHeld? tag (doc, ofDocument? doc) := by
  cases tag <;> rfl

def tag : TypeExpr → Tag
  | primitive _ => .primitive
  | enum _ => .enum
  | composite _ => .composite
  | sequence _ => .sequence
  | dictionary _ => .dictionary

def held : TypeExpr → Document
  | primitive kind => kind.document
  | enum name | composite name => string name
  | sequence type | dictionary type => type.document

theorem document_eq (t : TypeExpr) : t.document = tagged t.tag t.held := by
  cases t <;> rfl

theorem depth_document_le {t : TypeExpr} {left : Nat} (h : t.document.depth ≤ left) :
    ∃ n, left = n + 1 ∧ t.held.depth ≤ n := by
  rw [document_eq] at h
  obtain ⟨n, rfl, hdepth⟩ := depth_record_le h
  exact ⟨n, rfl, hdepth (t.tag.key, t.held) (by simp)⟩

theorem exists_json_held (t : TypeExpr) {left : Nat} (h : t.held.depth ≤ left) :
    ∃ v, json left t.held = .ok v := by
  have hinner : ∀ {type : TypeExpr} {left : Nat}, type.document.depth ≤ left →
      (∀ {n : Nat}, type.held.depth ≤ n → ∃ v, json n type.held = .ok v) →
      ∃ v, json left type.document = .ok v := by
    intro type left hleft ih
    obtain ⟨n, rfl, hdepth⟩ := depth_document_le hleft
    obtain ⟨v, hv⟩ := ih hdepth
    rw [document_eq]
    exact json_tagged type.tag hv
  induction t generalizing left with
  | primitive kind => exact ⟨.string kind.name, rfl⟩
  | enum name => exact ⟨.string name, rfl⟩
  | composite name => exact ⟨.string name, rfl⟩
  | sequence element ih => exact hinner h ih
  | dictionary value ih => exact hinner h ih

theorem ofDocument?_document (t : TypeExpr) : ofDocument? t.document = some t := by
  induction t with
  | primitive kind =>
    have hkind : kind? kind.document = some kind := Kind.ofName?_name kind
    rw [document_eq, ofDocument?_tagged, tag, held, ofHeld?, hkind]
    rfl
  | enum name => rfl
  | composite name => rfl
  | sequence element ih =>
    rw [document_eq, ofDocument?_tagged, tag, held, ofHeld?, ih]
    rfl
  | dictionary value ih =>
    rw [document_eq, ofDocument?_tagged, tag, held, ofHeld?, ih]
    rfl

theorem gives_read (t : TypeExpr) : TypeExpr.read.Gives t.document t := by
  intro left hleft
  obtain ⟨n, rfl, hdepth⟩ := depth_document_le hleft
  obtain ⟨v, hv⟩ := t.exists_json_held hdepth
  have hcheck : check (n + 1) t.document = .ok () := by
    rw [document_eq]
    exact check_tagged t.tag hv
  rw [TypeExpr.read, hcheck, ofDocument?_document]
  rfl

theorem readable_document (t : TypeExpr) : t.document.Readable := by
  have htagged : ∀ tag held, Readable held → Readable (tagged tag held) := by
    intro tag held hheld
    refine .record ?_
    simp [hheld, Readable.string]
  induction t with
  | primitive kind => exact htagged .primitive _ (.string kind.name)
  | enum name => exact htagged .enum _ (.string name)
  | composite name => exact htagged .composite _ (.string name)
  | sequence element ih => exact htagged .sequence _ ih
  | dictionary value ih => exact htagged .dictionary _ ih

end TypeExpr

theorem Field.gives_read (f : Field) : Field.read.Gives f.document f :=
  gives_record false
    (.cons (gives_text f.name) (by simp) <| .cons (gives_text f.wireName) (by simp) <|
      .cons f.type.gives_read (by simp) <| .cons (gives_flag f.required) (by simp) .nil) rfl

theorem Field.readable_document (f : Field) : f.document.Readable := by
  refine .record ?_
  simp [Readable.string, Readable.bool, f.type.readable_document]

theorem Composite.gives_read (c : Composite) : Composite.read.Gives c.document c :=
  gives_record false
    (.cons (gives_text c.className) (by simp) <|
      .cons (gives_list fun f _ => f.gives_read) (by simp) .nil) rfl

theorem Composite.readable_document (c : Composite) : c.document.Readable := by
  refine .record ?_
  simp [Readable.string, readable_list fun f (_ : f ∈ c.properties) => f.readable_document]

theorem Enumeration.gives_read (e : Enumeration) : Enumeration.read.Gives e.document e :=
  gives_record false
    (.cons (gives_text e.className) (by simp) <|
      .cons (gives_list fun value _ => gives_text value) (by simp) <|
      .cons (gives_flag e.extensible) (by simp) .nil) rfl

theorem Enumeration.readable_document (e : Enumeration) : e.document.Readable := by
  have hvalues := readable_list fun value (_ : value ∈ e.values) => Readable.string value
  refine .record ?_
  simp [Readable.string, Readable.bool, hvalues]

theorem Flattening.gives_read (f : Flattening) : Flattening.read.Gives f.document f :=
  gives_record false
    (.cons (gives_text f.flattened) (by simp) <| .cons (gives_text f.holder) (by simp) .nil) rfl

theorem Flattening.readable_document (f : Flattening) : f.document.Readable := by
  refine .record ?_
  simp [Readable.string]

theorem Returns.gives_read (r : Returns) : Returns.read.Gives r.document r :=
  gives_record false
    (.cons (gives_text? r.body) (by simp) <| .cons (gives_text? r.headers) (by simp) .nil) rfl

theorem Returns.readable_document (r : Returns) : r.document.Readable := by
  refine .record ?_
  simp [readable_text?]

/-- The values that a call is recorded with can be told from their text: they are those of sorted maps, and
their doubles are read back. -/
structure Example.Recoverable (e : Example) : Prop where
  ordered : (Json.object e.parameters).Ordered
  doubles : ∀ x, (Json.object e.parameters).Contains (.number (.double x)) → x.ReadsBack

theorem Example.gives_read {e : Example} (h : e.Recoverable) : Example.read.Gives e.document e :=
  gives_record false
    (.cons (gives_text e.name) (by simp) <| .cons (gives_text? e.title) (by simp) <|
      .cons (gives_text? e.description) (by simp) <|
      .cons (gives_fields h.ordered) (by simp) .nil) rfl

theorem Example.readable_document {e : Example} (h : e.Recoverable) : e.document.Readable := by
  have hparameters : (Document.ofJson (.object e.parameters)).Readable := by
    refine h.ordered.readable fun x hx => h.doubles x ?_
    rcases Relation.reflTransGen_iff_eq_or_transGen.mp hx with heq | hpart
    · cases heq
    · exact hpart
  refine .record ?_
  simp [Readable.string, readable_text?, hparameters]

theorem Operation.gives_read {op : Operation} (h : ∀ e ∈ op.examples, e.Recoverable) :
    Operation.read.Gives op.document op :=
  gives_record false
    (.cons (gives_text op.name) (by simp) <| .cons (gives_text op.description) (by simp) <|
      .cons (gives_list fun f _ => f.gives_read) (by simp) <|
      .cons (gives_list fun f _ => f.gives_read) (by simp) <|
      .cons op.returns.gives_read (by simp) <|
      .cons (gives_list fun e he => Example.gives_read (h e he)) (by simp) .nil) rfl

theorem Operation.readable_document {op : Operation} (h : ∀ e ∈ op.examples, e.Recoverable) :
    op.document.Readable := by
  have hexamples := readable_list fun e he => Example.readable_document (h e he)
  have hparameters := readable_list fun f (_ : f ∈ op.parameters) => f.readable_document
  have hflattenings := readable_list fun f (_ : f ∈ op.flattenings) => f.readable_document
  refine .record ?_
  simp [Readable.string, hexamples, hparameters, hflattenings, op.returns.readable_document]

theorem Group.gives_read {g : Group} (h : ∀ op ∈ g.operations, ∀ e ∈ op.examples, e.Recoverable) :
    Group.read.Gives g.document g :=
  gives_record false
    (.cons (gives_text g.name) (by simp) <|
      .cons (gives_list fun op ho => Operation.gives_read (h op ho)) (by simp) .nil) rfl

theorem Group.readable_document {g : Group}
    (h : ∀ op ∈ g.operations, ∀ e ∈ op.examples, e.Recoverable) : g.document.Readable := by
  refine .record ?_
  simp [Readable.string, readable_list fun op ho => Operation.readable_document (h op ho)]

def Double.half : Double := ⟨false, 1022 * twoPow 52, by decide +kernel⟩

def Example.weighed : Example where
  name := "one"
  title := some "\\\x01/"
  parameters := [("ratio", .number (.double Double.half)), ("steps", .array [.null, .bool true])]

theorem Example.recoverable_weighed : weighed.Recoverable := by
  refine ⟨.object (by decide) ?_, ?_⟩
  · simp [weighed, Json.Ordered.number, Json.Ordered.array, Json.Ordered.null, Json.Ordered.bool]
  · intro x hx
    obtain ⟨u, hu, hcases⟩ := Json.contains_iff.mp hx
    obtain ⟨key, hkey⟩ := Json.hasPart_object_iff.mp hu
    simp only [weighed, List.mem_cons, Prod.mk.injEq, List.not_mem_nil, or_false] at hkey
    rcases hkey with ⟨-, rfl⟩ | ⟨-, rfl⟩
    · rcases hcases with heq | hin
      · cases heq
        decide +kernel
      · exact absurd hin.depth_lt (Nat.not_lt_zero _)
    · rcases hcases with heq | hin
      · cases heq
      · obtain ⟨item, hitem, hlast⟩ := Json.contains_iff.mp hin
        have hscalar : item = .null ∨ item = .bool true := by simpa [Json.hasPart_array_iff] using hitem
        rcases hscalar with rfl | rfl <;>
          exact hlast.elim nofun fun h => absurd h.depth_lt (Nat.not_lt_zero _)

namespace CodeModel

def recorded (m : CodeModel) : List Example := m.operations.flatMap fun entry => entry.2.examples

variable {m : CodeModel}

theorem mem_recorded {g : Group} {op : Operation} {e : Example} (hg : g ∈ m.groups)
    (ho : op ∈ g.operations) (he : e ∈ op.examples) : e ∈ m.recorded := by
  refine List.mem_flatMap.mpr ⟨(g, op), ?_, he⟩
  exact List.mem_flatMap.mpr ⟨g, hg, List.mem_map_of_mem ho⟩

theorem gives_read (h : ∀ e ∈ m.recorded, e.Recoverable) : CodeModel.read.Gives m.document m := by
  have hgroup : ∀ g ∈ m.groups, Group.read.Gives g.document g :=
    fun g hg => Group.gives_read fun op ho e he => h e (mem_recorded hg ho he)
  exact gives_record false
    (.cons (gives_text m.name) (by simp) <| .cons m.family.gives_read (by simp) <|
      .cons (gives_text? m.clientPrefix) (by simp) <|
      .cons (gives_list fun c _ => c.gives_read) (by simp) <|
      .cons (gives_list fun e _ => e.gives_read) (by simp) <|
      .cons (gives_list hgroup) (by simp) .nil) rfl

theorem readable_document (h : ∀ e ∈ m.recorded, e.Recoverable) : m.document.Readable := by
  have hgroup : ∀ g ∈ m.groups, g.document.Readable :=
    fun g hg => Group.readable_document fun op ho e he => h e (mem_recorded hg ho he)
  have hcomposites := readable_list fun c (_ : c ∈ m.composites) => c.readable_document
  have henumerations := readable_list fun e (_ : e ∈ m.enumerations) => e.readable_document
  have hfamily : m.family.document.Readable := .string m.family.name
  refine .record ?_
  simp [Readable.string, readable_text?, hfamily, hcomposites, henumerations, readable_list hgroup]

/-- A model is read back from its text, whatever stands in it, if the text nests no deeper than the reader
goes. -/
theorem parse_text (m : CodeModel) (hrecorded : ∀ e ∈ m.recorded, e.Recoverable)
    (hdepth : m.document.depth ≤ Reader.nesting) : CodeModel.parse m.document.text = .ok m := by
  have htext := ofText_text (readable_document hrecorded)
  have hread := gives_read hrecorded Reader.nesting hdepth
  rw [parse, Reader.parse, htext]
  simp only [hread]
  rfl

def scales : CodeModel where
  name := "Scales"
  family := .cSharp
  composites := [⟨"Scale", [.plain "parts" (.dictionary (.sequence (.composite "Scale"))) true,
    .plain "unit" (.enum "Unit") false, .plain "ratio" (.primitive .double) false]⟩]
  enumerations := [⟨"Unit", ["g", "\"kg\"\n"], true⟩]
  groups := [⟨"scales", [{ name := "weigh", returns := { body := some "Scale" }, examples := [Example.weighed] }]⟩]

theorem parse_text_scales :
    (∀ e ∈ scales.recorded, e.Recoverable) ∧ scales.document.depth ≤ Reader.nesting ∧
    CodeModel.parse scales.document.text = .ok scales := by
  have hrecorded : ∀ e ∈ scales.recorded, e.Recoverable := by
    intro e he
    obtain rfl := List.mem_singleton.mp he
    exact Example.recoverable_weighed
  have hdepth : scales.document.depth ≤ Reader.nesting := by decide +kernel
  exact ⟨hrecorded, hdepth, parse_text scales hrecorded hdepth⟩

end CodeModel

end ApiSamples
