import Phrasebook.Proofs.Json.Accepted
import Phrasebook.Proofs.Pattern.Numbers
import Phrasebook.Pattern.Decoding

/-!
# The numbers that decoding gives

From a document whose numbers can be written only trees with finite numbers are decoded, whichever
fields its nodes have and in whichever form they stand. The fields of a node take in finite numbers
one after the other, and a node is made of nothing else.
-/

namespace Phrasebook

open Json (Cause ItemsWritable MembersWritable)
open Binary64 (AllFinite allFinite_nil allFinite_append)

section

variable {α β ε : Type}

theorem bind_eq_ok {x : Except ε α} {f : α → Except ε β} {b : β} :
    x >>= f = .ok b ↔ ∃ a, x = .ok a ∧ f a = .ok b := by
  cases x <;> simp [bind, Except.bind]

theorem map_eq_ok {x : Except ε α} {f : α → β} {b : β} :
    f <$> x = .ok b ↔ ∃ a, x = .ok a ∧ f a = b := by
  cases x <;> simp [Functor.map, Except.map]

theorem once_eq_ok {field : String} {old : Option α} {new : Except Cause α} {a : α}
    (h : once field old new = .ok a) : new = .ok a := by
  cases old with
  | none => exact h
  | some b => cases h

theorem need_eq_ok {missing : String → Cause} {field : String} {value : Option α} {a : α}
    (h : Fields.need missing field value = .ok a) : value = some a := by
  cases value with
  | none => cases h
  | some b =>
      cases h
      rfl

end

/-- Integers of 64 bits are within the range. -/
theorem Binary64.isFinite_ofInt {n : Int} (hlow : -(twoPow 63 : Int) ≤ n) (hhigh : n < twoPow 64) :
    (ofInt n).isFinite = true := by
  have hlt : twoPow 63 < twoPow 64 := by decide
  have hn : FitsIn 64 n.natAbs := by
    unfold FitsIn
    omega
  have hunits : FitsIn 1075 Magnitude.unitsPerOne := .twoPow 1074
  have hlog : (n.natAbs * Magnitude.unitsPerOne / 1).log2 < 2096 := by
    rw [Nat.div_one]
    exact Nat.lt_of_le_of_lt (hn.mul hunits).log2_le (by decide)
  obtain ⟨x, hx⟩ := Magnitude.exists_nearest? hlog
  rw [ofInt, ofRatio_of_some hx]
  rfl

theorem Json.isFinite_of_asReal {v : Json} (hv : v.Writable) {x : Binary64}
    (h : v.asReal = .ok x) : x.isFinite = true := by
  cases v with
  | real y =>
      cases h
      exact hv
  | integer n =>
      cases h
      exact Binary64.isFinite_ofInt hv.1 hv.2
  | null | bool | string | array | object => cases h

structure Fields.Finite (f : Fields) : Prop where
  number : ∀ x ∈ f.number, x.isFinite = true
  arguments : ∀ given ∈ f.arguments, ∀ as ∈ given, AllFinite (Argument.listNumbers as)
  selector : ∀ e ∈ f.selector, AllFinite e.numbers
  variants : ∀ vs ∈ f.variants, AllFinite (Variant.listNumbers vs)
  literal : ∀ l ∈ f.literal, AllFinite l.numbers

structure FieldReading.Finite (r : FieldReading) : Prop where
  value : r.value.Writable
  literal : ∀ l, r.literal () = .ok l → AllFinite l.numbers
  expression : ∀ e, r.expression () = .ok e → AllFinite e.numbers
  arguments : ∀ as, r.arguments () = .ok as → AllFinite (Argument.listNumbers as)
  variants : ∀ vs, r.variants () = .ok vs → AllFinite (Variant.listNumbers vs)

/-! ## Conversions -/

def Node.numbers : Node → List Binary64
  | .str _ | .var _ | .mesg .. | .term _ _ none => []
  | .num x _ => [x]
  | .term _ _ (some args) => Argument.listNumbers args
  | .func _ args => Argument.listNumbers args
  | .select selector variants _ => selector.numbers ++ Variant.listNumbers variants
  | .narg _ value => value.numbers

/-- No conversion of a node changes its numbers. -/
theorem Literal.numbers_of_node {node : Node} {l : Literal} (h : Literal.ofNode node = .ok l) :
    l.numbers = node.numbers := by
  cases node with
  | str | num =>
      cases h
      rfl
  | var | mesg | term | func | select | narg => cases h

theorem Expression.numbers_of_node {node : Node} {e : Expression}
    (h : Expression.ofNode node = .ok e) : e.numbers = node.numbers := by
  cases node with
  | term name attr args =>
      cases h
      cases args <;> rfl
  | str | num | var | mesg | func | select =>
      cases h
      rfl
  | narg => cases h

theorem Argument.numbers_of_node {node : Node} {a : Argument} (h : Argument.ofNode node = .ok a) :
    a.numbers = node.numbers := by
  cases node with
  | narg =>
      cases h
      rfl
  | str | num | var | mesg | term | func | select =>
      obtain ⟨e, he, rfl⟩ := map_eq_ok.1 h
      exact Expression.numbers_of_node he

section

variable {x : Except Cause Node}

theorem Literal.finite_of_node (hx : ∀ node, x = .ok node → AllFinite node.numbers) :
    ∀ l, (x >>= Literal.ofNode) = .ok l → AllFinite l.numbers := by
  intro l h
  obtain ⟨node, hnode, hl⟩ := bind_eq_ok.1 h
  rw [Literal.numbers_of_node hl]
  exact hx node hnode

theorem Expression.finite_of_node (hx : ∀ node, x = .ok node → AllFinite node.numbers) :
    ∀ e, (x >>= Expression.ofNode) = .ok e → AllFinite e.numbers := by
  intro e h
  obtain ⟨node, hnode, he⟩ := bind_eq_ok.1 h
  rw [Expression.numbers_of_node he]
  exact hx node hnode

theorem Argument.finite_of_node (hx : ∀ node, x = .ok node → AllFinite node.numbers) :
    ∀ a, (x >>= Argument.ofNode) = .ok a → AllFinite a.numbers := by
  intro a h
  obtain ⟨node, hnode, ha⟩ := bind_eq_ok.1 h
  rw [Argument.numbers_of_node ha]
  exact hx node hnode

end

namespace Fields

variable {tag : Tag} {f f' : Fields}

theorem finite_empty : Finite {} := ⟨nofun, nofun, nofun, nofun, nofun⟩

theorem Finite.with_number (hf : f.Finite) {x : Binary64} (hx : x.isFinite = true) :
    Finite { f with number := some x } := by
  refine ⟨?_, hf.arguments, hf.selector, hf.variants, hf.literal⟩
  rintro _ ⟨⟩
  exact hx

theorem Finite.with_arguments (hf : f.Finite) {given : Option (List Argument)}
    (h : ∀ as ∈ given, AllFinite (Argument.listNumbers as)) :
    Finite { f with arguments := some given } := by
  refine ⟨hf.number, ?_, hf.selector, hf.variants, hf.literal⟩
  rintro _ ⟨⟩
  exact h

theorem Finite.with_selector (hf : f.Finite) {e : Expression} (he : AllFinite e.numbers) :
    Finite { f with selector := some e } := by
  refine ⟨hf.number, hf.arguments, ?_, hf.variants, hf.literal⟩
  rintro _ ⟨⟩
  exact he

theorem Finite.with_variants (hf : f.Finite) {vs : List Variant}
    (hvs : AllFinite (Variant.listNumbers vs)) : Finite { f with variants := some vs } := by
  refine ⟨hf.number, hf.arguments, hf.selector, ?_, hf.literal⟩
  rintro _ ⟨⟩
  exact hvs

theorem Finite.with_literal (hf : f.Finite) {l : Literal} (hl : AllFinite l.numbers) :
    Finite { f with literal := some l } := by
  refine ⟨hf.number, hf.arguments, hf.selector, hf.variants, ?_⟩
  rintro _ ⟨⟩
  exact hl

/-- Taking in one more field keeps the numbers finite: every field is read from the value that is
given for it, and at most one changes. -/
theorem Finite.put {k : String} {r : FieldReading} (hf : f.Finite) (hr : r.Finite)
    (h : f.put tag k r = .ok f') : f'.Finite := by
  have hgiven {given : Option (List Argument)} (hread : some <$> r.arguments () = .ok given) :
      ∀ as ∈ given, AllFinite (Argument.listNumbers as) := by
    obtain ⟨as, has, rfl⟩ := map_eq_ok.1 hread
    rintro _ ⟨⟩
    exact hr.arguments as has
  unfold Fields.put at h
  split at h
  all_goals
    try simp only [bind_eq_ok, pure, Except.pure, Except.ok.injEq] at h
  case h_17 => exact h ▸ hf
  all_goals
    obtain ⟨a, ha, rfl⟩ := h
    replace ha := once_eq_ok ha
  case h_2 =>
    -- The value of a number.
    exact hf.with_number (Json.isFinite_of_asReal hr.value ha)
  case h_4 =>
    -- The selector of a selection.
    exact hf.with_selector (hr.expression a ha)
  case h_5 =>
    -- Its variants.
    exact hf.with_variants (hr.variants a ha)
  case h_7 =>
    -- The value of a named argument.
    exact hf.with_literal (hr.literal a ha)
  case h_10 =>
    -- The arguments of a term, which may be null.
    refine hf.with_arguments ?_
    split at ha
    · cases ha
      exact nofun
    · exact hgiven ha
  case h_11 =>
    -- The arguments of a call.
    exact hf.with_arguments (hgiven ha)
  all_goals exact ⟨hf.number, hf.arguments, hf.selector, hf.variants, hf.literal⟩

theorem Finite.of_arguments (hf : f.Finite) {as : List Argument}
    (h : f.arguments.getD none = some as) : AllFinite (Argument.listNumbers as) := by
  cases hgiven : f.arguments with
  | none => simp [hgiven] at h
  | some given =>
      rw [hgiven] at h
      exact hf.arguments given hgiven as h

/-- A node is made of the numbers in its fields. -/
theorem Finite.build {missing : String → Cause} {node : Node} (hf : f.Finite)
    (h : f.build tag missing = .ok node) : AllFinite node.numbers := by
  cases tag with
  | str | var | mesg =>
      obtain ⟨_, _, h⟩ := bind_eq_ok.1 h
      cases h
      exact allFinite_nil
  | num =>
      obtain ⟨x, hx, h⟩ := bind_eq_ok.1 h
      cases h
      have hfinite := hf.number x (need_eq_ok hx)
      intro y hy
      rw [List.mem_singleton.1 hy]
      exact hfinite
  | term | func =>
      obtain ⟨name, _, h⟩ := bind_eq_ok.1 h
      cases h
      cases hgiven : f.arguments.getD none with
      | none => exact allFinite_nil
      | some as => exact hf.of_arguments hgiven
  | select =>
      obtain ⟨selector, hselector, h⟩ := bind_eq_ok.1 h
      obtain ⟨variants, hvariants, h⟩ := bind_eq_ok.1 h
      obtain ⟨star, _, h⟩ := bind_eq_ok.1 h
      cases h
      exact allFinite_append.2
        ⟨hf.selector selector (need_eq_ok hselector), hf.variants variants (need_eq_ok hvariants)⟩
  | narg =>
      obtain ⟨name, _, h⟩ := bind_eq_ok.1 h
      obtain ⟨value, hvalue, h⟩ := bind_eq_ok.1 h
      cases h
      exact hf.literal value (need_eq_ok hvalue)

end Fields

structure VariantFields.Finite (f : VariantFields) : Prop where
  key : ∀ l ∈ f.key, AllFinite l.numbers
  value : ∀ p ∈ f.value, AllFinite p.numbers

theorem VariantFields.finite_empty : VariantFields.Finite {} := ⟨nofun, nofun⟩

theorem VariantFields.Finite.with_key {f : VariantFields} (hf : f.Finite) {l : Literal}
    (hl : AllFinite l.numbers) : VariantFields.Finite { f with key := some l } := by
  refine ⟨?_, hf.value⟩
  rintro _ ⟨⟩
  exact hl

theorem VariantFields.Finite.with_value {f : VariantFields} (hf : f.Finite) {p : Pattern}
    (hp : AllFinite p.numbers) : VariantFields.Finite { f with value := some p } := by
  refine ⟨hf.key, ?_⟩
  rintro _ ⟨⟩
  exact hp

theorem VariantFields.Finite.build {f : VariantFields} {v : Variant} (hf : f.Finite)
    (h : f.build = .ok v) : AllFinite v.numbers := by
  obtain ⟨key, hkey, h⟩ := bind_eq_ok.1 h
  obtain ⟨value, hvalue, h⟩ := bind_eq_ok.1 h
  cases h
  exact allFinite_append.2 ⟨hf.key key (need_eq_ok hkey), hf.value value (need_eq_ok hvalue)⟩

theorem Element.ofExpression_eq_ok {x : Except Cause Expression} {element : Element}
    (h : Element.ofExpression x = .ok element) : ∃ e, x = .ok e ∧ element = .placeable e := by
  cases x with
  | error cause => cases h
  | ok e =>
      cases h
      exact ⟨e, rfl, rfl⟩

/-! ## The tree -/

mutual

theorem Node.finite_ofJson : (v : Json) → v.Writable →
    ∀ node, Node.ofJson v = .ok node → AllFinite node.numbers
  | .object members, hv, node, h => by
    rw [Node.ofJson] at h
    obtain ⟨tag, _, h⟩ := bind_eq_ok.1 h
    obtain ⟨f, hf, h⟩ := bind_eq_ok.1 h
    exact (Fields.finite_ofMembers tag members hv Fields.finite_empty f hf).build h
  | .array [], _, _, h => by
    rw [Node.ofJson] at h
    cases h
  | .array (t :: items), hv, node, h => by
    rw [Node.ofJson] at h
    obtain ⟨tag, _, h⟩ := bind_eq_ok.1 h
    obtain ⟨f, hf, h⟩ := bind_eq_ok.1 h
    exact (Fields.finite_ofItems tag tag.fields items hv.2 Fields.finite_empty f hf).build h
  | .null, _, _, h | .bool _, _, _, h | .integer _, _, _, h | .real _, _, _, h
  | .string _, _, _, h => by
    rw [Node.ofJson] at h
    · cases h
    all_goals nofun

theorem Argument.finite_listOfJson : (vs : List Json) → ItemsWritable vs →
    ∀ as, Argument.listOfJson vs = .ok as → AllFinite (Argument.listNumbers as)
  | [], _, _, h => by
    rw [Argument.listOfJson] at h
    cases h
    exact allFinite_nil
  | v :: vs, hvs, _, h => by
    rw [Argument.listOfJson] at h
    obtain ⟨a, ha, h⟩ := bind_eq_ok.1 h
    obtain ⟨as, has, h⟩ := bind_eq_ok.1 h
    cases h
    exact allFinite_append.2
      ⟨Argument.finite_of_node (Node.finite_ofJson v hvs.1) a ha,
        Argument.finite_listOfJson vs hvs.2 as has⟩

theorem Fields.finite_ofMembers (tag : Tag) {f : Fields} : (members : List (String × Json)) →
    MembersWritable members → f.Finite →
      ∀ f', Fields.ofMembers tag f members = .ok f' → f'.Finite
  | [], _, hf, _, h => by
    rw [Fields.ofMembers] at h
    cases h
    exact hf
  | (k, v) :: rest, hms, hf, f', h => by
    rw [Fields.ofMembers] at h
    obtain ⟨g, hg, h⟩ := bind_eq_ok.1 h
    have hvalue : FieldReading.Finite
        ⟨v, fun _ => Node.ofJson v >>= Literal.ofNode, fun _ => Node.ofJson v >>= Expression.ofNode,
          fun _ => Argument.itemsOfJson v, fun _ => Variant.itemsOfJson v⟩ :=
      have hnode := Node.finite_ofJson v hms.1
      ⟨hms.1, Literal.finite_of_node hnode, Expression.finite_of_node hnode,
        Argument.finite_itemsOfJson v hms.1, Variant.finite_itemsOfJson v hms.1⟩
    exact Fields.finite_ofMembers tag rest hms.2 (hf.put hvalue hg) f' h

theorem Fields.finite_ofItems (tag : Tag) (names : List String) {f : Fields} :
    (items : List Json) → ItemsWritable items → f.Finite →
      ∀ f', Fields.ofItems tag names f items = .ok f' → f'.Finite
  | [], _, hf, _, h => by
    rw [Fields.ofItems] at h
    cases h
    exact hf
  | v :: rest, hvs, hf, f', h => by
    cases names with
    | nil => cases h
    | cons k names =>
        rw [Fields.ofItems] at h
        obtain ⟨g, hg, h⟩ := bind_eq_ok.1 h
        have hvalue : FieldReading.Finite
            ⟨v, fun _ => Node.ofJson v >>= Literal.ofNode,
              fun _ => Node.ofJson v >>= Expression.ofNode, fun _ => Argument.itemsOfJson v,
              fun _ => Variant.itemsOfJson v⟩ :=
          have hnode := Node.finite_ofJson v hvs.1
          ⟨hvs.1, Literal.finite_of_node hnode, Expression.finite_of_node hnode,
            Argument.finite_itemsOfJson v hvs.1, Variant.finite_itemsOfJson v hvs.1⟩
        exact Fields.finite_ofItems tag names rest hvs.2 (hf.put hvalue hg) f' h

theorem Argument.finite_itemsOfJson : (v : Json) → v.Writable →
    ∀ as, Argument.itemsOfJson v = .ok as → AllFinite (Argument.listNumbers as)
  | .array vs, hv, as, h => by
    rw [Argument.itemsOfJson] at h
    exact Argument.finite_listOfJson vs hv as h
  | .null, _, _, h | .bool _, _, _, h | .integer _, _, _, h | .real _, _, _, h
  | .string _, _, _, h | .object _, _, _, h => by
    rw [Argument.itemsOfJson] at h
    · cases h
    all_goals nofun

theorem Variant.finite_itemsOfJson : (v : Json) → v.Writable →
    ∀ vs, Variant.itemsOfJson v = .ok vs → AllFinite (Variant.listNumbers vs)
  | .array vs, hv, as, h => by
    rw [Variant.itemsOfJson] at h
    exact Variant.finite_listOfJson vs hv as h
  | .null, _, _, h | .bool _, _, _, h | .integer _, _, _, h | .real _, _, _, h
  | .string _, _, _, h | .object _, _, _, h => by
    rw [Variant.itemsOfJson] at h
    · cases h
    all_goals nofun

theorem Variant.finite_listOfJson : (vs : List Json) → ItemsWritable vs →
    ∀ variants, Variant.listOfJson vs = .ok variants → AllFinite (Variant.listNumbers variants)
  | [], _, _, h => by
    rw [Variant.listOfJson] at h
    cases h
    exact allFinite_nil
  | v :: vs, hvs, _, h => by
    rw [Variant.listOfJson] at h
    obtain ⟨a, ha, h⟩ := bind_eq_ok.1 h
    obtain ⟨as, has, h⟩ := bind_eq_ok.1 h
    cases h
    exact allFinite_append.2
      ⟨Variant.finite_ofJson v hvs.1 a ha, Variant.finite_listOfJson vs hvs.2 as has⟩

theorem Variant.finite_ofJson : (v : Json) → v.Writable →
    ∀ variant, Variant.ofJson v = .ok variant → AllFinite variant.numbers
  | .object members, hv, variant, h => by
    rw [Variant.ofJson] at h
    obtain ⟨f, hf, h⟩ := bind_eq_ok.1 h
    exact (VariantFields.finite_ofMembers members hv VariantFields.finite_empty f hf).build h
  | .array [], _, _, h => by
    rw [Variant.ofJson] at h
    cases h
  | .array [k], _, _, h => by
    rw [Variant.ofJson] at h
    obtain ⟨_, _, h⟩ := bind_eq_ok.1 h
    cases h
  | .array (k :: v :: rest), hv, variant, h => by
    rw [Variant.ofJson] at h
    obtain ⟨key, hkey, h⟩ := bind_eq_ok.1 h
    obtain ⟨value, hvalue, h⟩ := bind_eq_ok.1 h
    have hfirst := Literal.finite_of_node (Node.finite_ofJson k hv.1) key hkey
    have hsecond := Pattern.finite_ofJson v hv.2.1 value hvalue
    split at h
    · cases h
      exact allFinite_append.2 ⟨hfirst, hsecond⟩
    · cases h
  | .null, _, _, h | .bool _, _, _, h | .integer _, _, _, h | .real _, _, _, h
  | .string _, _, _, h => by
    rw [Variant.ofJson] at h
    · cases h
    all_goals nofun

theorem VariantFields.finite_ofMembers {f : VariantFields} : (members : List (String × Json)) →
    MembersWritable members → f.Finite →
      ∀ f', VariantFields.ofMembers f members = .ok f' → f'.Finite
  | [], _, hf, _, h => by
    rw [VariantFields.ofMembers] at h
    cases h
    exact hf
  | (k, v) :: rest, hms, hf, f', h => by
    rw [VariantFields.ofMembers] at h
    split at h
    · obtain ⟨key, hkey, h⟩ := bind_eq_ok.1 h
      have hfinite :=
        Literal.finite_of_node (Node.finite_ofJson v hms.1) key (once_eq_ok hkey)
      exact VariantFields.finite_ofMembers rest hms.2 (hf.with_key hfinite) f' h
    split at h
    · obtain ⟨value, hvalue, h⟩ := bind_eq_ok.1 h
      have hfinite := Pattern.finite_ofJson v hms.1 value (once_eq_ok hvalue)
      exact VariantFields.finite_ofMembers rest hms.2 (hf.with_value hfinite) f' h
    · exact VariantFields.finite_ofMembers rest hms.2 hf f' h

/-- The pattern that a writable document decodes to has only finite numbers. -/
theorem Pattern.finite_ofJson : (v : Json) → v.Writable →
    ∀ p, Pattern.ofJson v = .ok p → AllFinite p.numbers
  | .string _, _, _, h => by
    rw [Pattern.ofJson] at h
    cases h
    exact allFinite_nil
  | .array vs, hv, p, h => by
    rw [Pattern.ofJson] at h
    split at h
    · next elements helements =>
      cases h
      exact Element.finite_listOfJson vs hv elements helements
    · cases h
  | .null, _, _, h | .bool _, _, _, h | .integer _, _, _, h | .real _, _, _, h
  | .object _, _, _, h => by
    rw [Pattern.ofJson] at h
    · cases h
    all_goals nofun

theorem Element.finite_listOfJson : (vs : List Json) → ItemsWritable vs →
    ∀ elements, Element.listOfJson vs = .ok elements → AllFinite (Element.listNumbers elements)
  | [], _, _, h => by
    rw [Element.listOfJson] at h
    cases h
    exact allFinite_nil
  | v :: vs, hvs, _, h => by
    have htail := Element.finite_listOfJson vs hvs.2
    unfold Element.listOfJson at h
    split at h
    · cases h
      exact allFinite_nil
    · next heq =>
      cases heq
      obtain ⟨es, hes, h⟩ := bind_eq_ok.1 h
      cases h
      exact htail es hes
    · next heq =>
      cases heq
      obtain ⟨e, he, h⟩ := bind_eq_ok.1 h
      obtain ⟨es, hes, h⟩ := bind_eq_ok.1 h
      cases h
      obtain ⟨expression, hread, rfl⟩ := Element.ofExpression_eq_ok he
      have hhead := Expression.finite_of_node (Node.finite_ofJson v hvs.1) expression hread
      exact allFinite_append.2 ⟨hhead, htail es hes⟩

end

end Phrasebook
