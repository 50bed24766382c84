import Phrasebook.Pattern.Decoding
import Phrasebook.Pattern.Reading
import Phrasebook.Pattern.Writing

/-!
# Decoding what was written

The document that a node, a variant, a pattern or an element is written as decodes to it again. The
fields of a node are put into place one after the other; what has been put says which field comes
next, so each step is a lemma about one field.
-/

namespace Phrasebook

open Json (Cause)

/-! ## Fields -/

theorem Tag.ofName_name (tag : Tag) : Tag.ofName tag.name = .ok tag := by
  cases tag <;> rfl

namespace Fields

variable {f f' : Fields} {r : FieldReading}

/-- The tag is no field of its own. -/
theorem put_type (tag : Tag) (f : Fields) (r : FieldReading) : f.put tag "type" r = .ok f := by
  cases tag <;> rfl

theorem put_args {tag : Tag} (htag : tag = .term ∨ tag = .func) (hf : f.arguments = none)
    {vs : List Json} {arguments : List Argument} (hr : r.value = .array vs)
    (h : r.arguments () = .ok arguments) :
    f.put tag "args" r = .ok { f with arguments := some (some arguments) } := by
  rcases htag with rfl | rfl
  · simp only [put, once, hf, hr, h]
    rfl
  · simp only [put, once, hf, h]
    rfl

theorem put_selector (hf : f.selector = none) {e : Expression}
    (h : r.expression () = .ok e) :
    f.put .select "selector" r = .ok { f with selector := some e } := by
  simp only [put, once, hf, h]
  rfl

theorem put_variants (hf : f.variants = none) {variants : List Variant}
    (h : r.variants () = .ok variants) :
    f.put .select "variants" r = .ok { f with variants := some variants } := by
  simp only [put, once, hf, h]
  rfl

theorem put_literal (hf : f.literal = none) {l : Literal}
    (h : r.literal () = .ok l) :
    f.put .narg "value" r = .ok { f with literal := some l } := by
  simp only [put, once, hf, h]
  rfl

theorem asCount_toNat (n : UInt64) : (Json.integer n.toNat).asCount = .ok n := by
  simp [Json.asCount]

theorem put_count (hf : f.star = none) {n : UInt64} (hr : r.value = .integer n.toNat) :
    f.put .select "star" r = .ok { f with star := some n } := by
  simp only [put, once, hf, hr, asCount_toNat]
  rfl

theorem put_precision (hf : f.precision = none) {n : UInt64} (hr : r.value = .integer n.toNat) :
    f.put .num "precision" r = .ok { f with precision := some n } := by
  simp only [put, once, hf, hr, asCount_toNat]
  rfl

/-- One member after the other is put into place. -/
theorem ofMembers_cons {tag : Tag} {k : String} {v : Json} {rest : List (String × Json)}
    (h : f.put tag k
      ⟨v, fun _ => Node.ofJson v >>= Literal.ofNode, fun _ => Node.ofJson v >>= Expression.ofNode,
        fun _ => Argument.itemsOfJson v, fun _ => Variant.itemsOfJson v⟩ = .ok f') :
    Fields.ofMembers tag f ((k, v) :: rest) = Fields.ofMembers tag f' rest := by
  rw [Fields.ofMembers, h]
  rfl

end Fields

/-! ## Nodes -/

theorem Tag.ofMembers_of_no_type {tag : Tag} {ms : List (String × Json)}
    (h : ∀ m ∈ ms, m.1 ≠ "type") : Tag.ofMembers (some tag) ms = .ok tag := by
  induction ms with
  | nil => rfl
  | cons m ms ih =>
      obtain ⟨k, v⟩ := m
      have hk : ¬k = "type" := h (k, v) List.mem_cons_self
      rw [Tag.ofMembers, if_neg hk]
      exact ih fun m hm => h m (List.mem_cons_of_mem _ hm)

/-- A node with a tag and without a second one is made of the fields in its other members. -/
theorem Node.ofJson_tagged (tag : Tag) {ms : List (String × Json)}
    (h : ∀ m ∈ ms, m.1 ≠ "type") :
    Node.ofJson (.tagged tag.name ms) = NodeBody.decode tag (.members ms) := by
  have htag : Tag.ofMembers none (("type", .string tag.name) :: ms) = .ok tag := by
    have hname : Tag.ofJson (.string tag.name) = .ok tag := tag.ofName_name
    rw [Tag.ofMembers, if_pos rfl, once, hname]
    exact Tag.ofMembers_of_no_type h
  rw [Json.tagged, Node.ofJson, htag]
  change (Fields.ofMembers tag {} (("type", .string tag.name) :: ms) >>= _) = _
  rw [Fields.ofMembers_cons (Fields.put_type tag _ _)]
  rfl

def Json.behindTag : Json → List (String × Json)
  | .object (_ :: ms) => ms
  | _ => []

theorem Expression.toJson_eq_tagged (e : Expression) :
    e.toJson = .tagged e.toNode.tag.name e.toJson.behindTag := by
  cases e with
  | literal l => cases l <;> rfl
  | term name attr arguments => cases arguments <;> rfl
  | «variable» | message | call | select => rfl

theorem Argument.toJson_eq_tagged (a : Argument) :
    a.toJson = .tagged a.toNode.tag.name a.toJson.behindTag := by
  cases a with
  | positional e => exact e.toJson_eq_tagged
  | named => rfl

theorem attrMember_no_type (attr : Option String) : ∀ m ∈ attrMember attr, m.1 ≠ "type" := by
  cases attr <;> simp [attrMember]

/-- No written node has a second tag. -/
theorem Expression.no_type (e : Expression) : ∀ m ∈ e.toJson.behindTag, m.1 ≠ "type" := by
  cases e with
  | literal l => cases l <;> simp [Expression.toJson, Literal.toJson, Json.tagged, Json.behindTag]
  | «variable» name => simp [Expression.toJson, Json.tagged, Json.behindTag]
  | message id attr =>
      have := attrMember_no_type attr
      simpa [Expression.toJson, Json.tagged, Json.behindTag] using this
  | term name attr arguments =>
      have := attrMember_no_type attr
      cases arguments <;>
        simpa [Expression.toJson, Json.tagged, Json.behindTag, or_imp, forall_and] using this
  | call name arguments => simp [Expression.toJson, Json.tagged, Json.behindTag]
  | select selector variants star => simp [Expression.toJson, Json.tagged, Json.behindTag]

theorem Argument.no_type (a : Argument) : ∀ m ∈ a.toJson.behindTag, m.1 ≠ "type" := by
  cases a with
  | positional e => exact e.no_type
  | named name value => simp [Argument.toJson, Json.tagged, Json.behindTag]

/-- What the fields make is what a written node decodes to. -/
theorem Node.ofJson_of_fields {a : Argument} (f : Fields)
    (hf : Fields.ofMembers a.toNode.tag {} a.toJson.behindTag = .ok f)
    (hbuild : f.build a.toNode.tag .missingField = .ok a.toNode) :
    Node.ofJson a.toJson = .ok a.toNode := by
  rw [a.toJson_eq_tagged, Node.ofJson_tagged a.toNode.tag a.no_type, NodeBody.decode, hf]
  exact hbuild

theorem Literal.node_toJson (l : Literal) : Node.ofJson l.toJson = .ok l.toNode := by
  cases l with
  | text s => rfl
  | number x precision =>
      let f : Fields := { number := some x, precision := some precision }
      have hfields : Fields.ofMembers .num {} (Literal.number x precision).toJson.behindTag =
          .ok f :=
        (Fields.ofMembers_cons rfl).trans
          ((Fields.ofMembers_cons (Fields.put_precision rfl rfl)).trans rfl)
      exact Node.ofJson_of_fields (a := .positional (.literal (.number x precision))) f hfields rfl

/-- A literal is read back where a literal is expected. -/
theorem Literal.ofJson_toJson (l : Literal) : Literal.ofJson l.toJson = .ok l := by
  rw [Literal.ofJson, l.node_toJson]
  exact l.ofNode_toNode

/-- An expression whose node is read back is read back. -/
theorem Expression.ofJson_of_node {e : Expression} (h : Node.ofJson e.toJson = .ok e.toNode) :
    Expression.ofJson e.toJson = .ok e := by
  rw [Expression.ofJson, h]
  exact e.ofNode_toNode

namespace Expression

theorem node_message (id : String) (attr : Option String) :
    Node.ofJson (message id attr).toJson = .ok (message id attr).toNode := by
  cases attr <;> rfl

theorem node_term_none (name : String) (attr : Option String) :
    Node.ofJson (term name attr none).toJson = .ok (term name attr none).toNode := by
  cases attr <;> rfl

theorem node_term (name : String) (attr : Option String) {arguments : List Argument}
    (h : Argument.listOfJson (Argument.listToJson arguments) = .ok arguments) :
    Node.ofJson (term name attr (some arguments)).toJson =
      .ok (term name attr (some arguments)).toNode := by
  let f : Fields :=
    { name := some name, attr := attr.map some, arguments := some (some arguments) }
  have hfields : Fields.ofMembers .term {} (term name attr (some arguments)).toJson.behindTag =
      .ok f := by
    cases attr with
    | none =>
        exact (Fields.ofMembers_cons rfl).trans
          ((Fields.ofMembers_cons (Fields.put_args (.inl rfl) rfl rfl h)).trans rfl)
    | some a =>
        exact (Fields.ofMembers_cons rfl).trans ((Fields.ofMembers_cons rfl).trans
          ((Fields.ofMembers_cons (Fields.put_args (.inl rfl) rfl rfl h)).trans rfl))
  refine Node.ofJson_of_fields (a := .positional (term name attr (some arguments))) f hfields ?_
  cases attr <;> rfl

theorem node_call (name : String) {arguments : List Argument}
    (h : Argument.listOfJson (Argument.listToJson arguments) = .ok arguments) :
    Node.ofJson (call name arguments).toJson = .ok (call name arguments).toNode := by
  let f : Fields := { name := some name, arguments := some (some arguments) }
  have hfields : Fields.ofMembers .func {} (call name arguments).toJson.behindTag = .ok f :=
    (Fields.ofMembers_cons rfl).trans
      ((Fields.ofMembers_cons (Fields.put_args (.inr rfl) rfl rfl h)).trans rfl)
  exact Node.ofJson_of_fields (a := .positional (call name arguments)) f hfields rfl

theorem node_select {selector : Expression} {variants : List Variant} (star : UInt64)
    (hselector : Expression.ofJson selector.toJson = .ok selector)
    (hvariants : Variant.listOfJson (Variant.listToJson variants) = .ok variants) :
    Node.ofJson (select selector variants star).toJson =
      .ok (select selector variants star).toNode := by
  let f : Fields :=
    { selector := some selector, variants := some variants, star := some star }
  have hitems : Variant.itemsOfJson (.array (Variant.listToJson variants)) = .ok variants :=
    hvariants
  have hfields : Fields.ofMembers .select {} (select selector variants star).toJson.behindTag =
      .ok f :=
    (Fields.ofMembers_cons (Fields.put_selector rfl hselector)).trans
      ((Fields.ofMembers_cons (Fields.put_variants rfl hitems)).trans
        ((Fields.ofMembers_cons (Fields.put_count rfl rfl)).trans rfl))
  exact Node.ofJson_of_fields (a := .positional (select selector variants star)) f hfields rfl

end Expression

theorem Argument.node_named (name : String) (value : Literal) :
    Node.ofJson (named name value).toJson = .ok (named name value).toNode := by
  let f : Fields := { name := some name, literal := some value }
  have hfields : Fields.ofMembers .narg {} (named name value).toJson.behindTag = .ok f :=
    (Fields.ofMembers_cons rfl).trans
      ((Fields.ofMembers_cons (Fields.put_literal rfl value.ofJson_toJson)).trans rfl)
  exact Node.ofJson_of_fields (a := named name value) f hfields rfl

/-! ## The tree -/

theorem Variant.ofJson_mk {key : Literal} {value : Pattern}
    (h : Pattern.ofJson value.toJson = .ok value) :
    Variant.ofJson (Variant.mk key value).toJson = .ok (.mk key value) := by
  have hkey : (Node.ofJson key.toJson >>= Literal.ofNode) = .ok key := key.ofJson_toJson
  have hfields : VariantFields.ofMembers {} [("key", key.toJson), ("value", value.toJson)] =
      .ok ⟨some key, some value⟩ := by
    simp only [VariantFields.ofMembers, once, hkey, h]
    rfl
  rw [Variant.toJson, Variant.ofJson, hfields]
  rfl

/-- A placeable is told from text by its document being an object. -/
theorem Element.listOfJson_placeable {e : Expression} {vs : List Json}
    (h : Expression.ofJson e.toJson = .ok e) :
    Element.listOfJson (e.toJson :: vs) =
      (Element.placeable e :: ·) <$> Element.listOfJson vs := by
  have helement : Element.ofExpression (Node.ofJson e.toJson >>= Expression.ofNode) =
      .ok (.placeable e) :=
    congrArg Element.ofExpression h
  rw [e.toJson_eq_tagged, Json.tagged] at helement ⊢
  rw [Element.listOfJson, helement]
  · rfl
  · exact nofun

mutual

theorem Expression.node_toJson : (e : Expression) → Node.ofJson e.toJson = .ok e.toNode
  | .literal l => l.node_toJson
  | .variable _ => rfl
  | .message id attr => Expression.node_message id attr
  | .term name attr none => Expression.node_term_none name attr
  | .term name attr (some arguments) =>
    Expression.node_term name attr (Argument.listOfJson_listToJson arguments)
  | .call name arguments => Expression.node_call name (Argument.listOfJson_listToJson arguments)
  | .select selector variants star =>
    Expression.node_select star (Expression.ofJson_of_node selector.node_toJson)
      (Variant.listOfJson_listToJson variants)

theorem Argument.node_toJson : (a : Argument) → Node.ofJson a.toJson = .ok a.toNode
  | .positional e => e.node_toJson
  | .named name value => Argument.node_named name value

theorem Argument.listOfJson_listToJson : (arguments : List Argument) →
    Argument.listOfJson (Argument.listToJson arguments) = .ok arguments
  | [] => rfl
  | a :: rest => by
    rw [Argument.listToJson, Argument.listOfJson, a.node_toJson,
      Argument.listOfJson_listToJson rest]
    change (Argument.ofNode a.toNode >>= _) = _
    rw [a.ofNode_toNode]
    rfl

theorem Variant.ofJson_toJson : (v : Variant) → Variant.ofJson v.toJson = .ok v
  | .mk _ value => Variant.ofJson_mk value.ofJson_toJson

theorem Variant.listOfJson_listToJson : (variants : List Variant) →
    Variant.listOfJson (Variant.listToJson variants) = .ok variants
  | [] => rfl
  | v :: rest => by
    rw [Variant.listToJson, Variant.listOfJson, v.ofJson_toJson, Variant.listOfJson_listToJson rest]
    rfl

/-- The document that a pattern is written as decodes to the pattern. -/
theorem Pattern.ofJson_toJson : (p : Pattern) → Pattern.ofJson p.toJson = .ok p
  | .text _ => rfl
  | .complex elements => by
    rw [Pattern.toJson, Pattern.ofJson, Element.listOfJson_listToJson elements]

theorem Element.listOfJson_listToJson : (elements : List Element) →
    Element.listOfJson (Element.listToJson elements) = .ok elements
  | [] => rfl
  | .text s :: rest => by
    rw [Element.listToJson, Element.toJson, Element.listOfJson, Element.listOfJson_listToJson rest]
    rfl
  | .placeable e :: rest => by
    rw [Element.listToJson, Element.toJson,
      Element.listOfJson_placeable (Expression.ofJson_of_node e.node_toJson),
      Element.listOfJson_listToJson rest]
    rfl

end

theorem Element.ofJson_toJson (e : Element) : Element.ofJson e.toJson = .ok e := by
  cases e with
  | text s => rfl
  | placeable e =>
      have helement : Element.ofExpression (Expression.ofJson e.toJson) = .ok (.placeable e) :=
        congrArg Element.ofExpression (Expression.ofJson_of_node e.node_toJson)
      rw [Element.toJson]
      rw [e.toJson_eq_tagged] at helement ⊢
      exact helement

/-- The fields of a written node make the node. -/
theorem Argument.decode_toJson (a : Argument) :
    NodeBody.decode a.toNode.tag (.members a.toJson.behindTag) = .ok a.toNode := by
  rw [← Node.ofJson_tagged a.toNode.tag a.no_type, ← a.toJson_eq_tagged]
  exact a.node_toJson

end Phrasebook
