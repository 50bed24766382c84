import Phrasebook.Proofs.Pattern.Accepted
import Phrasebook.Resource.Reading

/-!
# Where nodes are read

Literals, expressions and arguments of calls are read from one kind of node. What each of the three
takes is compared, from texts, from documents and inside of other nodes. Then it is said where the
parts of a document stand: an accepted document was accepted part by part, each part as what it
stands for, so a named argument can stand in a call and nowhere else.
-/

namespace Phrasebook

open Json (Cause NumberSource Reader)

/-! ## Readers that agree -/

/-- A literal, an expression and an argument of a call, each read from the same place: literals are
the expressions that are one, expressions are the arguments without a name, and where there is an
argument with a name there is neither. -/
structure ReadersAgree {ε : Type} (literal : Except ε Literal) (expression : Except ε Expression)
    (argument : Except ε Argument) : Prop where
  ofLiteral : ∀ l, literal = .ok l ↔ expression = .ok (.literal l)
  positional : ∀ e, argument = .ok (.positional e) ↔ expression = .ok e
  named : ∀ name value, argument = .ok (.named name value) →
    (∀ l, literal ≠ .ok l) ∧ ∀ e, expression ≠ .ok e

/-- The conversions of one node agree. -/
theorem readersAgree_node (node : Node) :
    ReadersAgree (Literal.ofNode node) (Expression.ofNode node) (Argument.ofNode node) := by
  cases node with
  | str | num | var | mesg | term | func | select =>
      refine ⟨fun l => ?_, fun e => ?_, fun name value hnamed => by cases hnamed⟩
      · simp [Literal.ofNode, Expression.ofNode]
      · simp [Argument.ofNode, Expression.ofNode, Functor.map, Except.map]
  | narg =>
      refine ⟨fun l => ?_, fun e => ?_, fun _ _ _ => ⟨nofun, nofun⟩⟩
      · simp [Literal.ofNode, Expression.ofNode]
      · simp [Argument.ofNode, Expression.ofNode]

/-- So do three readers that find the same node, or none, and convert it. -/
theorem ReadersAgree.of_node {ε : Type} {found : Node → Prop} {literal : Except ε Literal}
    {expression : Except ε Expression} {argument : Except ε Argument}
    (hfound : ∀ {node node'}, found node → found node' → node = node')
    (hliteral : ∀ l, literal = .ok l ↔ ∃ node, found node ∧ Literal.ofNode node = .ok l)
    (hexpression : ∀ e, expression = .ok e ↔
      ∃ node, found node ∧ Expression.ofNode node = .ok e)
    (hargument : ∀ a, argument = .ok a ↔ ∃ node, found node ∧ Argument.ofNode node = .ok a) :
    ReadersAgree literal expression argument := by
  refine ⟨fun l => ?_, fun e => ?_, fun name value hnamed => ⟨fun l hl => ?_, fun e he => ?_⟩⟩
  · rw [hliteral, hexpression]
    exact exists_congr fun node => and_congr_right fun _ => (readersAgree_node node).ofLiteral l
  · rw [hargument, hexpression]
    exact exists_congr fun node => and_congr_right fun _ => (readersAgree_node node).positional e
  · obtain ⟨node, hnode, hnamed⟩ := (hargument _).1 hnamed
    obtain ⟨node', hnode', hl⟩ := (hliteral l).1 hl
    obtain rfl := hfound hnode hnode'
    exact ((readersAgree_node node).named name value hnamed).1 l hl
  · obtain ⟨node, hnode, hnamed⟩ := (hargument _).1 hnamed
    obtain ⟨node', hnode', he⟩ := (hexpression e).1 he
    obtain rfl := hfound hnode hnode'
    exact ((readersAgree_node node).named name value hnamed).2 e he

theorem readersAgree_nodes (node : Except Cause Node) :
    ReadersAgree (node >>= Literal.ofNode) (node >>= Expression.ofNode)
      (node >>= Argument.ofNode) :=
  .of_node (fun h h' => Except.ok.inj (h.symm.trans h')) (fun _ => bind_eq_ok)
    (fun _ => bind_eq_ok) fun _ => bind_eq_ok

namespace Json.Reader

variable {α β : Type} {reader : Nat → Reader α} {text : List Char}

/-- A text is read if its part is read and nothing but a gap is behind it. -/
theorem run_eq_ok {a : α} :
    run reader text = .ok a ↔
      ∃ s, reader maxDepth (Cursor.start text) = .ok a s ∧ (overGap s.rest s).rest = [] := by
  unfold run alone
  simp only [bind, EStateM.bind, next?]
  cases reader maxDepth (Cursor.start text) with
  | error e s => simp
  | ok a' s => cases hrest : (overGap s.rest s).rest <;> simp [hrest, failAhead, pure, EStateM.pure]

/-- A check behind a reader changes nothing but which values are taken. -/
theorem run_check_eq_ok {check : α → Except Cause β} {b : β} :
    run (fun level => do ofExcept (check (← reader level))) text = .ok b ↔
      ∃ a, run reader text = .ok a ∧ check a = .ok b := by
  simp only [run_eq_ok, bind, EStateM.bind]
  cases reader maxDepth (Cursor.start text) with
  | error e s => simp
  | ok a s =>
      cases hcheck : check a <;> simp [hcheck, ofExcept, fail, pure, EStateM.pure, and_comm]

end Json.Reader

theorem readersAgree_texts [NumberSource] (text : List Char) :
    ReadersAgree (Reader.run Literal.read text) (Reader.run Expression.read text)
      (Reader.run Argument.read text) :=
  .of_node (fun h h' => Except.ok.inj (h.symm.trans h'))
    (fun _ => Json.Reader.run_check_eq_ok) (fun _ => Json.Reader.run_check_eq_ok)
    fun _ => Json.Reader.run_check_eq_ok

/-! ## Places -/

inductive Place where
  | literal
  | expression
  | argument
  | variant
  | pattern
  | element
  | entry
  | resource
deriving DecidableEq

def Place.Accepts : Place → Json → Prop
  | .literal, v => ∃ l, Literal.ofJson v = .ok l
  | .expression, v => ∃ e, Expression.ofJson v = .ok e
  | .argument, v => ∃ a, Argument.ofJson v = .ok a
  | .variant, v => ∃ x, Variant.ofJson v = .ok x
  | .pattern, v => ∃ p, Pattern.ofJson v = .ok p
  | .element, v => ∃ e, Element.ofJson v = .ok e
  | .entry, v => ∃ e, Entry.ofJson v = .ok e
  | .resource, v => ∃ r, Resource.ofJson v = .ok r

/-- Whether a node, or a text in its stead, stands here.  What stands elsewhere may look like a
node: a list of two texts is a pattern also where the first text is the name of a tag. -/
def Place.isNode : Place → Bool
  | .literal | .expression | .argument | .element => true
  | .variant | .pattern | .entry | .resource => false

/-- A field of a node: in an object by its name, in a list by its place behind the tag. -/
inductive FieldOf (tag : Tag) (field : String) (part : Json) : Json → Prop where
  | member {members : List (String × Json)} :
      Tag.ofMembers none members = .ok tag → (field, part) ∈ members →
        FieldOf tag field part (.object members)
  | item {t : Json} {items : List Json} :
      Tag.ofJson t = .ok tag → (field, part) ∈ tag.fields.zip items →
        FieldOf tag field part (.array (t :: items))

inductive RecordField (names : List String) (field : String) (part : Json) : Json → Prop where
  | member {members : List (String × Json)} :
      (field, part) ∈ members → RecordField names field part (.object members)
  | item {items : List Json} :
      (field, part) ∈ names.zip items → RecordField names field part (.array items)

inductive ArgumentOf (part : Json) (node : Json) : Prop where
  | term {parts : List Json} :
      FieldOf .term "args" (.array parts) node → part ∈ parts → ArgumentOf part node
  | func {parts : List Json} :
      FieldOf .func "args" (.array parts) node → part ∈ parts → ArgumentOf part node

/-- A part stands right inside of another, each at its place. -/
inductive StandsIn : Place → Json → Place → Json → Prop where
  | selector {place : Place} {node part : Json} :
      place.isNode = true → FieldOf .select "selector" part node →
        StandsIn .expression part place node
  | variants {place : Place} {node part : Json} {parts : List Json} :
      place.isNode = true → FieldOf .select "variants" (.array parts) node → part ∈ parts →
        StandsIn .variant part place node
  | named {place : Place} {node part : Json} :
      place.isNode = true → FieldOf .narg "value" part node → StandsIn .literal part place node
  | argument {place : Place} {node part : Json} :
      place.isNode = true → ArgumentOf part node → StandsIn .argument part place node
  | keyMember {members : List (String × Json)} {part : Json} :
      ("key", part) ∈ members → StandsIn .literal part .variant (.object members)
  | valueMember {members : List (String × Json)} {part : Json} :
      ("value", part) ∈ members → StandsIn .pattern part .variant (.object members)
  | keyItem (key : Json) (rest : List Json) :
      StandsIn .literal key .variant (.array (key :: rest))
  | valueItem (key value : Json) (rest : List Json) :
      StandsIn .pattern value .variant (.array (key :: value :: rest))
  | element {parts : List Json} {part : Json} :
      part ∈ parts → StandsIn .element part .pattern (.array parts)
  | value {entry part : Json} :
      RecordField entryFieldNames "value" part entry → part ≠ .null →
        StandsIn .pattern part .entry entry
  | «attribute» {entry part : Json} {members : List (String × Json)} {name : String} :
      RecordField entryFieldNames "attributes" (.object members) entry →
        (name, part) ∈ members → StandsIn .pattern part .entry entry
  | body {resource part : Json} {parts : List Json} :
      RecordField resourceFieldNames "body" (.array parts) resource → part ∈ parts →
        StandsIn .entry part .resource resource

/-- A part stands somewhere inside of a document, or is all of it. -/
inductive Occurs (place : Place) (v : Json) : Place → Json → Prop where
  | here : Occurs place v place v
  | inside {outer inner : Place} {w part : Json} :
      Occurs place v outer w → StandsIn inner part outer w → Occurs place v inner part

/-! ## Fields that were taken in -/

def FieldReading.ofJson (v : Json) : FieldReading :=
  ⟨v, fun _ => Literal.ofJson v, fun _ => Expression.ofJson v, fun _ => Argument.itemsOfJson v,
    fun _ => Variant.itemsOfJson v⟩

/-- The field was read as a field of a node with this tag. -/
def FieldReading.Taken (tag : Tag) (field : String) (r : FieldReading) : Prop :=
  ∃ f f' : Fields, f.put tag field r = .ok f'

theorem taken_of_ofMembers {tag : Tag} {field : String} {part : Json} {f f' : Fields}
    {members : List (String × Json)} (h : Fields.ofMembers tag f members = .ok f')
    (hmem : (field, part) ∈ members) : (FieldReading.ofJson part).Taken tag field := by
  induction members generalizing f with
  | nil => cases hmem
  | cons m rest ih =>
      obtain ⟨k, v⟩ := m
      rw [Fields.ofMembers] at h
      obtain ⟨g, hg, hrest⟩ := bind_eq_ok.1 h
      rcases List.mem_cons.1 hmem with heq | hmem
      · cases heq
        exact ⟨f, g, hg⟩
      · exact ih hrest hmem

theorem taken_of_ofItems {tag : Tag} {field : String} {part : Json} {names : List String}
    {f f' : Fields} {items : List Json} (h : Fields.ofItems tag names f items = .ok f')
    (hmem : (field, part) ∈ names.zip items) : (FieldReading.ofJson part).Taken tag field := by
  induction items generalizing names f with
  | nil => simp at hmem
  | cons v rest ih =>
      cases names with
      | nil => cases hmem
      | cons k names =>
          rw [Fields.ofItems] at h
          obtain ⟨g, hg, hrest⟩ := bind_eq_ok.1 h
          rcases List.mem_cons.1 hmem with heq | hmem
          · cases heq
            exact ⟨f, g, hg⟩
          · exact ih hrest hmem

/-- Every field of an accepted node was taken in. -/
theorem FieldOf.taken {tag : Tag} {field : String} {part v : Json} {node : Node}
    (h : FieldOf tag field part v) (hnode : Node.ofJson v = .ok node) :
    (FieldReading.ofJson part).Taken tag field := by
  cases h with
  | member htag hmem =>
      rw [Node.ofJson] at hnode
      obtain ⟨tag', htag', hnode⟩ := bind_eq_ok.1 hnode
      obtain ⟨f, hf, -⟩ := bind_eq_ok.1 hnode
      obtain rfl : tag = tag' := by simpa [htag] using htag'
      exact taken_of_ofMembers hf hmem
  | item htag hmem =>
      rw [Node.ofJson] at hnode
      obtain ⟨tag', htag', hnode⟩ := bind_eq_ok.1 hnode
      obtain ⟨f, hf, -⟩ := bind_eq_ok.1 hnode
      obtain rfl : tag = tag' := by simpa [htag] using htag'
      exact taken_of_ofItems hf hmem

section Taken

variable {r : FieldReading}

theorem FieldReading.Taken.selector (h : r.Taken .select "selector") :
    ∃ e, r.expression () = .ok e := by
  obtain ⟨f, f', hput⟩ := h
  simp only [Fields.put] at hput
  obtain ⟨e, he, -⟩ := bind_eq_ok.1 hput
  exact ⟨e, once_eq_ok he⟩

theorem FieldReading.Taken.variants (h : r.Taken .select "variants") :
    ∃ vs, r.variants () = .ok vs := by
  obtain ⟨f, f', hput⟩ := h
  simp only [Fields.put] at hput
  obtain ⟨vs, hvs, -⟩ := bind_eq_ok.1 hput
  exact ⟨vs, once_eq_ok hvs⟩

theorem FieldReading.Taken.literal (h : r.Taken .narg "value") :
    ∃ l, r.literal () = .ok l := by
  obtain ⟨f, f', hput⟩ := h
  simp only [Fields.put] at hput
  obtain ⟨l, hl, -⟩ := bind_eq_ok.1 hput
  exact ⟨l, once_eq_ok hl⟩

theorem FieldReading.Taken.func (h : r.Taken .func "args") : ∃ as, r.arguments () = .ok as := by
  obtain ⟨f, f', hput⟩ := h
  simp only [Fields.put] at hput
  obtain ⟨given, hgiven, -⟩ := bind_eq_ok.1 hput
  obtain ⟨as, has, -⟩ := map_eq_ok.1 (once_eq_ok hgiven)
  exact ⟨as, has⟩

theorem FieldReading.Taken.term (h : r.Taken .term "args") (hr : r.value ≠ .null) :
    ∃ as, r.arguments () = .ok as := by
  obtain ⟨f, f', hput⟩ := h
  -- The list is not null, so the field is read as the one of a function is.
  simp only [Fields.put] at hput
  obtain ⟨given, hgiven, -⟩ := bind_eq_ok.1 hput
  obtain ⟨as, has, -⟩ := map_eq_ok.1 (once_eq_ok hgiven)
  exact ⟨as, has⟩

end Taken

/-! ## Lists and records that were read -/

section Lists

variable {α β ε σ : Type}

theorem exists_of_mapM {f : α → Except ε β} {as : List α} {bs : List β}
    (h : as.mapM f = .ok bs) {a : α} (ha : a ∈ as) : ∃ b, f a = .ok b := by
  induction as generalizing bs with
  | nil => cases ha
  | cons first rest ih =>
      rw [List.mapM_cons] at h
      obtain ⟨b, hb, h⟩ := bind_eq_ok.1 h
      obtain ⟨more, hmore, -⟩ := bind_eq_ok.1 h
      rcases List.mem_cons.1 ha with rfl | ha
      · exact ⟨b, hb⟩
      · exact ih hmore ha

theorem exists_of_foldlM {f : σ → α → Except ε σ} {as : List α} {s s' : σ}
    (h : as.foldlM f s = .ok s') {a : α} (ha : a ∈ as) : ∃ t t', f t a = .ok t' := by
  induction as generalizing s with
  | nil => cases ha
  | cons first rest ih =>
      rw [List.foldlM_cons] at h
      obtain ⟨t, ht, h⟩ := bind_eq_ok.1 h
      rcases List.mem_cons.1 ha with rfl | ha
      · exact ⟨s, t, ht⟩
      · exact ih h ha

theorem Argument.listOfJson_eq (vs : List Json) :
    Argument.listOfJson vs = vs.mapM Argument.ofJson := by
  induction vs with
  | nil => rfl
  | cons v vs ih =>
      rw [listOfJson, List.mapM_cons, ih]
      rfl

theorem Variant.listOfJson_eq (vs : List Json) :
    Variant.listOfJson vs = vs.mapM Variant.ofJson := by
  induction vs with
  | nil => rfl
  | cons v vs ih => rw [listOfJson, List.mapM_cons, ih]

theorem Element.listOfJson_eq (vs : List Json) :
    Element.listOfJson vs = vs.mapM Element.ofJson := by
  induction vs with
  | nil => rfl
  | cons v vs ih =>
      rw [List.mapM_cons, ← ih]
      cases v <;> rfl

/-- Every field of an accepted record was taken in. -/
theorem RecordField.taken {title : String} {names : List String}
    {put : σ → String → Json → Except Cause σ} {build : (String → Cause) → σ → Except Cause α}
    {start : σ} {field : String} {part v : Json} {a : α} (h : RecordField names field part v)
    (hv : Json.asRecord title names put build start v = .ok a) :
    ∃ f f', put f field part = .ok f' := by
  cases h with
  | member hmem =>
      obtain ⟨f, hf, -⟩ := bind_eq_ok.1 hv
      exact exists_of_foldlM hf hmem
  | item hmem =>
      obtain ⟨f, hf, -⟩ := bind_eq_ok.1 hv
      exact exists_of_foldlM hf hmem

end Lists

theorem accepted_of_variantMembers {members : List (String × Json)} {f f' : VariantFields}
    (h : VariantFields.ofMembers f members = .ok f') {field : String} {part : Json}
    (hmem : (field, part) ∈ members) :
    (field = "key" → Place.literal.Accepts part) ∧
      (field = "value" → Place.pattern.Accepts part) := by
  induction members generalizing f with
  | nil => cases hmem
  | cons m rest ih =>
      obtain ⟨k, v⟩ := m
      rw [VariantFields.ofMembers] at h
      rcases List.mem_cons.1 hmem with heq | hmem
      · cases heq
        split at h
        · next hkey =>
          obtain ⟨key, hread, -⟩ := bind_eq_ok.1 h
          exact ⟨fun _ => ⟨key, once_eq_ok hread⟩, fun hvalue => by simp [hkey] at hvalue⟩
        · next hkey =>
          refine ⟨fun h => absurd h hkey, fun hvalue => ?_⟩
          rw [if_pos hvalue] at h
          obtain ⟨value, hread, -⟩ := bind_eq_ok.1 h
          exact ⟨value, once_eq_ok hread⟩
      · split at h
        · obtain ⟨key, -, h⟩ := bind_eq_ok.1 h
          exact ih h hmem
        · split at h
          · obtain ⟨value, -, h⟩ := bind_eq_ok.1 h
            exact ih h hmem
          · exact ih h hmem

/-! ## Accepted part by part -/

/-- What stands at the place of a node is a node, or a text. -/
theorem Place.Accepts.node {place : Place} {v : Json} (h : place.Accepts v)
    (hplace : place.isNode = true) : (∃ s, v = .string s) ∨ ∃ node, Node.ofJson v = .ok node := by
  cases place with
  | literal =>
      obtain ⟨l, hl⟩ := h
      obtain ⟨node, hnode, -⟩ := bind_eq_ok.1 hl
      exact .inr ⟨node, hnode⟩
  | expression =>
      obtain ⟨e, he⟩ := h
      obtain ⟨node, hnode, -⟩ := bind_eq_ok.1 he
      exact .inr ⟨node, hnode⟩
  | argument =>
      obtain ⟨a, ha⟩ := h
      obtain ⟨node, hnode, -⟩ := bind_eq_ok.1 ha
      exact .inr ⟨node, hnode⟩
  | element =>
      obtain ⟨e, he⟩ := h
      unfold Element.ofJson at he
      split at he
      · exact .inl ⟨_, rfl⟩
      · obtain ⟨e, he, -⟩ := Element.ofExpression_eq_ok he
        obtain ⟨node, hnode, -⟩ := bind_eq_ok.1 he
        exact .inr ⟨node, hnode⟩
  | variant | pattern | entry | resource => cases hplace

theorem FieldOf.not_text {tag : Tag} {field s : String} {part : Json} :
    ¬FieldOf tag field part (.string s) := nofun

/-- Every field of what is accepted in the place of a node was taken in. -/
theorem Place.Accepts.taken {place : Place} {node part : Json} {tag : Tag} {field : String}
    (h : place.Accepts node) (hplace : place.isNode = true) (hfield : FieldOf tag field part node) :
    (FieldReading.ofJson part).Taken tag field := by
  rcases h.node hplace with ⟨s, rfl⟩ | ⟨a, ha⟩
  · exact absurd hfield FieldOf.not_text
  · exact hfield.taken ha

/-- What stands right inside of an accepted part is accepted. -/
theorem StandsIn.accepted {inner outer : Place} {part v : Json} (h : StandsIn inner part outer v)
    (hv : outer.Accepts v) : inner.Accepts part := by
  cases h with
  | selector hplace hfield => exact (hv.taken hplace hfield).selector
  | variants hplace hfield hpart =>
      obtain ⟨variants, hread⟩ := (hv.taken hplace hfield).variants
      exact exists_of_mapM ((Variant.listOfJson_eq _).symm.trans hread) hpart
  | named hplace hfield => exact (hv.taken hplace hfield).literal
  | argument hplace hargument =>
      cases hargument with
      | term hfield hpart =>
          obtain ⟨as, hread⟩ := (hv.taken hplace hfield).term nofun
          exact exists_of_mapM ((Argument.listOfJson_eq _).symm.trans hread) hpart
      | func hfield hpart =>
          obtain ⟨as, hread⟩ := (hv.taken hplace hfield).func
          exact exists_of_mapM ((Argument.listOfJson_eq _).symm.trans hread) hpart
  | keyMember hmem =>
      obtain ⟨x, hx⟩ := hv
      rw [Variant.ofJson] at hx
      obtain ⟨f, hf, -⟩ := bind_eq_ok.1 hx
      exact (accepted_of_variantMembers hf hmem).1 rfl
  | valueMember hmem =>
      obtain ⟨x, hx⟩ := hv
      rw [Variant.ofJson] at hx
      obtain ⟨f, hf, -⟩ := bind_eq_ok.1 hx
      exact (accepted_of_variantMembers hf hmem).2 rfl
  | keyItem key rest =>
      obtain ⟨x, hx⟩ := hv
      cases rest with
      | nil =>
          rw [Variant.ofJson] at hx
          obtain ⟨l, hl, -⟩ := bind_eq_ok.1 hx
          exact ⟨l, hl⟩
      | cons value rest =>
          rw [Variant.ofJson] at hx
          obtain ⟨l, hl, -⟩ := bind_eq_ok.1 hx
          exact ⟨l, hl⟩
  | valueItem key value rest =>
      obtain ⟨x, hx⟩ := hv
      rw [Variant.ofJson] at hx
      obtain ⟨l, -, hx⟩ := bind_eq_ok.1 hx
      obtain ⟨p, hp, -⟩ := bind_eq_ok.1 hx
      exact ⟨p, hp⟩
  | element hpart =>
      obtain ⟨p, hp⟩ := hv
      rw [Pattern.ofJson] at hp
      split at hp
      · next elements helements =>
        exact exists_of_mapM ((Element.listOfJson_eq _).symm.trans helements) hpart
      · cases hp
  | value hfield hnull =>
      obtain ⟨e, he⟩ := hv
      obtain ⟨f, f', hput⟩ := hfield.taken he
      obtain ⟨value, hvalue, -⟩ := bind_eq_ok.1 hput
      have hread := once_eq_ok hvalue
      unfold Pattern.optionalOfJson at hread
      split at hread
      · exact absurd rfl hnull
      · obtain ⟨p, hp, -⟩ := map_eq_ok.1 hread
        exact ⟨p, hp⟩
  | «attribute» hfield hmem =>
      obtain ⟨e, he⟩ := hv
      obtain ⟨f, f', hput⟩ := hfield.taken he
      obtain ⟨attributes, hattributes, -⟩ := bind_eq_ok.1 hput
      obtain ⟨pairs, hpairs, -⟩ := map_eq_ok.1 (once_eq_ok hattributes)
      obtain ⟨pair, hpair⟩ := exists_of_mapM hpairs hmem
      obtain ⟨p, hp, -⟩ := map_eq_ok.1 hpair
      exact ⟨p, hp⟩
  | body hfield hpart =>
      obtain ⟨r, hr⟩ := hv
      obtain ⟨f, f', hput⟩ := hfield.taken hr
      obtain ⟨entries, hentries, -⟩ := bind_eq_ok.1 hput
      exact exists_of_mapM (once_eq_ok hentries) hpart

/-- An accepted document was accepted part by part. -/
theorem Occurs.accepted {place inner : Place} {v part : Json} (h : Occurs place v inner part)
    (hv : place.Accepts v) : inner.Accepts part := by
  induction h with
  | here => exact hv
  | inside _ hstands ih => exact hstands.accepted ih

/-- A named argument is accepted as an argument only. -/
theorem Place.Accepts.eq_argument {place : Place} {v : Json} (h : place.Accepts v)
    (hplace : place.isNode = true) {name : String} {value : Literal}
    (hnamed : Argument.ofJson v = .ok (.named name value)) : place = .argument := by
  have hreaders := (readersAgree_nodes (Node.ofJson v)).named name value hnamed
  cases place with
  | argument => rfl
  | literal =>
      obtain ⟨l, hl⟩ := h
      exact absurd hl (hreaders.1 l)
  | expression =>
      obtain ⟨e, he⟩ := h
      exact absurd he (hreaders.2 e)
  | element =>
      obtain ⟨e, he⟩ := h
      unfold Element.ofJson at he
      split at he
      · cases hnamed
      · obtain ⟨e, he, -⟩ := Element.ofExpression_eq_ok he
        exact absurd he (hreaders.2 e)
  | variant | pattern | entry | resource => cases hplace

/-- The three readers of nodes agree, whether a text is read, or a document, or a part of one; and a
pattern in a text is read as a document. In an accepted document every part is accepted as what it
stands for, and a named argument that is read as a node stands in the list of arguments of a call,
unless it is all of the document. -/
theorem node_readers_agree [NumberSource] :
    (∀ text, ReadersAgree (Reader.run Literal.read text) (Reader.run Expression.read text)
      (Reader.run Argument.read text)) ∧
    (∀ v, ReadersAgree (Literal.ofDocument v) (Expression.ofDocument v) (Argument.ofDocument v)) ∧
    (∀ v, ReadersAgree (Literal.ofJson v) (Expression.ofJson v) (Argument.ofJson v)) ∧
    (∀ text p, Reader.run Pattern.read text = .ok p ↔
      ∃ v, Json.ofText text = .ok v ∧ Pattern.ofJson v = .ok p) ∧
    ∀ place v, place.Accepts v → ∀ inner part, Occurs place v inner part →
      inner.Accepts part ∧
      (inner.isNode = true → ∀ name value, Argument.ofJson part = .ok (.named name value) →
        (place = .argument ∧ part = v) ∨
          ∃ outer node, Occurs place v outer node ∧ ArgumentOf part node) := by
  refine ⟨readersAgree_texts, fun v => readersAgree_nodes _, fun v => readersAgree_nodes _,
    fun text p => Json.Reader.run_check_eq_ok, fun place v hv inner part hpart => ?_⟩
  refine ⟨hpart.accepted hv, fun hinner name value hnamed => ?_⟩
  obtain rfl : inner = .argument := (hpart.accepted hv).eq_argument hinner hnamed
  cases hpart with
  | here => exact .inl ⟨rfl, rfl⟩
  | inside houter hstands =>
      cases hstands with
      | argument hplace hargument => exact .inr ⟨_, _, houter, hargument⟩

def percentStyle : Json :=
  .object [("type", .string "narg"), ("name", .string "style"),
    ("value", .object [("type", .string "str"), ("value", .string "percent")])]

/-- A call with the named argument, written in the short form. -/
def percentCall : Json :=
  .array [.string "func", .string "NUMBER",
    .array [.array [.string "var", .string "n"], percentStyle]]

def percentDocument : Json :=
  .object [("body", .array [.object [("id", .string "share"), ("value", .array [percentCall])]])]

/-- The argument is accepted in the call, and nowhere in the place of the call. -/
theorem percentDocument_reads_call :
    Place.resource.Accepts percentDocument ∧
    Occurs .resource percentDocument .argument percentStyle ∧
    (∃ outer node, Occurs .resource percentDocument outer node ∧ ArgumentOf percentStyle node) ∧
    ¬Place.element.Accepts percentStyle := by
  have haccepted : Place.resource.Accepts percentDocument := ⟨_, rfl⟩
  have hnamed : Argument.ofJson percentStyle = .ok (.named "style" (.text "percent")) := rfl
  have hentry : Occurs .resource percentDocument .entry _ :=
    .inside .here (.body (.member List.mem_cons_self) List.mem_cons_self)
  have hpattern : Occurs .resource percentDocument .pattern (.array [percentCall]) :=
    .inside hentry (.value (.member (List.mem_cons_of_mem _ List.mem_cons_self)) nofun)
  have hcall : Occurs .resource percentDocument .element percentCall :=
    .inside hpattern (.element List.mem_cons_self)
  have hgiven : FieldOf .func "args" (.array [.array [.string "var", .string "n"], percentStyle])
      percentCall := .item rfl (List.mem_cons_of_mem _ List.mem_cons_self)
  have hargument : Occurs .resource percentDocument .argument percentStyle :=
    .inside hcall (.argument rfl (.func hgiven (List.mem_cons_of_mem _ List.mem_cons_self)))
  obtain ⟨-, -, -, -, hplaces⟩ := node_readers_agree
  have hstands := (hplaces .resource percentDocument haccepted .argument percentStyle
    hargument).2 rfl "style" (.text "percent") hnamed
  refine ⟨haccepted, hargument, ?_, fun helement => ?_⟩
  · rcases hstands with ⟨hroot, -⟩ | hstands
    · cases hroot
    · exact hstands
  · cases helement.eq_argument rfl hnamed

end Phrasebook
