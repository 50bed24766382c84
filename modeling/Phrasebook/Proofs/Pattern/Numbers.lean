import Phrasebook.Pattern.Writing
import Phrasebook.Proofs.Json.RoundTrip

/-!
# The numbers in a pattern

The number literals of a tree, wherever they stand in it. Where all of them are finite, the document
that the tree is written as has a notation for each of its numbers.
-/

namespace Phrasebook

def Binary64.AllFinite (xs : List Binary64) : Prop := ∀ x ∈ xs, x.isFinite = true

theorem Binary64.allFinite_nil : AllFinite [] := nofun

theorem Binary64.allFinite_append {xs ys : List Binary64} :
    AllFinite (xs ++ ys) ↔ AllFinite xs ∧ AllFinite ys :=
  List.forall_mem_append

def Literal.numbers : Literal → List Binary64
  | .text _ => []
  | .number x _ => [x]

mutual

def Expression.numbers : Expression → List Binary64
  | .literal l => l.numbers
  | .variable _ => []
  | .message .. => []
  | .term _ _ none => []
  | .term _ _ (some arguments) => Argument.listNumbers arguments
  | .call _ arguments => Argument.listNumbers arguments
  | .select selector variants _ => selector.numbers ++ Variant.listNumbers variants

def Argument.numbers : Argument → List Binary64
  | .positional e => e.numbers
  | .named _ value => value.numbers

def Argument.listNumbers : List Argument → List Binary64
  | [] => []
  | a :: rest => a.numbers ++ Argument.listNumbers rest

def Variant.numbers : Variant → List Binary64
  | .mk key value => key.numbers ++ value.numbers

def Variant.listNumbers : List Variant → List Binary64
  | [] => []
  | v :: rest => v.numbers ++ Variant.listNumbers rest

def Pattern.numbers : Pattern → List Binary64
  | .text _ => []
  | .complex elements => Element.listNumbers elements

def Element.numbers : Element → List Binary64
  | .text _ => []
  | .placeable e => e.numbers

def Element.listNumbers : List Element → List Binary64
  | [] => []
  | e :: rest => e.numbers ++ Element.listNumbers rest

end

open Binary64 (AllFinite allFinite_append)

namespace Json

theorem writable_count (n : UInt64) : (integer n.toNat).Writable := by
  have hlt : n.toNat < twoPow 64 := n.toNat_lt
  constructor
  · exact Int.le_trans (Int.neg_nonpos_of_nonneg (Int.natCast_nonneg _)) (Int.natCast_nonneg _)
  · exact_mod_cast hlt

theorem membersWritable_attr (attr : Option String) : MembersWritable (attrMember attr) := by
  cases attr with
  | none => trivial
  | some a => exact ⟨trivial, trivial⟩

theorem MembersWritable.append {ms ms' : List (String × Json)} (h : MembersWritable ms)
    (h' : MembersWritable ms') : MembersWritable (ms ++ ms') := by
  rw [membersWritable_iff] at h h' ⊢
  exact List.forall_mem_append.2 ⟨h, h'⟩

end Json

open Json (writable_count membersWritable_attr MembersWritable.append)

theorem Literal.writable_toJson {l : Literal} (h : AllFinite l.numbers) : l.toJson.Writable := by
  cases l with
  | text s => exact ⟨trivial, trivial, trivial⟩
  | number x precision =>
      have hx : x.isFinite = true := h x List.mem_cons_self
      exact ⟨trivial, hx, writable_count precision, trivial⟩

mutual

theorem Expression.writable_toJson : (e : Expression) → AllFinite e.numbers → e.toJson.Writable
  | .literal _, h => Literal.writable_toJson h
  | .variable _, _ => ⟨trivial, trivial, trivial⟩
  | .message _ attr, _ => ⟨trivial, trivial, membersWritable_attr attr⟩
  | .term _ attr none, _ => ⟨trivial, trivial, membersWritable_attr attr⟩
  | .term _ attr (some arguments), h =>
    ⟨trivial, trivial, (membersWritable_attr attr).append
      ⟨Argument.writable_listToJson arguments h, trivial⟩⟩
  | .call _ arguments, h =>
    ⟨trivial, trivial, Argument.writable_listToJson arguments h, trivial⟩
  | .select selector variants star, h =>
    have hparts := allFinite_append.1 h
    ⟨trivial, selector.writable_toJson hparts.1, Variant.writable_listToJson variants hparts.2,
      writable_count star, trivial⟩

theorem Argument.writable_toJson : (a : Argument) → AllFinite a.numbers → a.toJson.Writable
  | .positional e, h => e.writable_toJson h
  | .named _ _, h => ⟨trivial, trivial, Literal.writable_toJson h, trivial⟩

theorem Argument.writable_listToJson : (arguments : List Argument) →
    AllFinite (Argument.listNumbers arguments) →
      Json.ItemsWritable (Argument.listToJson arguments)
  | [], _ => trivial
  | a :: rest, h =>
    have hparts := allFinite_append.1 h
    ⟨a.writable_toJson hparts.1, Argument.writable_listToJson rest hparts.2⟩

theorem Variant.writable_toJson : (v : Variant) → AllFinite v.numbers → v.toJson.Writable
  | .mk _ value, h =>
    have hparts := allFinite_append.1 h
    ⟨Literal.writable_toJson hparts.1, value.writable_toJson hparts.2, trivial⟩

theorem Variant.writable_listToJson : (variants : List Variant) →
    AllFinite (Variant.listNumbers variants) → Json.ItemsWritable (Variant.listToJson variants)
  | [], _ => trivial
  | v :: rest, h =>
    have hparts := allFinite_append.1 h
    ⟨v.writable_toJson hparts.1, Variant.writable_listToJson rest hparts.2⟩

theorem Pattern.writable_toJson : (p : Pattern) → AllFinite p.numbers → p.toJson.Writable
  | .text _, _ => trivial
  | .complex elements, h => Element.writable_listToJson elements h

theorem Element.writable_toJson : (e : Element) → AllFinite e.numbers → e.toJson.Writable
  | .text _, _ => trivial
  | .placeable e, h => e.writable_toJson h

theorem Element.writable_listToJson : (elements : List Element) →
    AllFinite (Element.listNumbers elements) → Json.ItemsWritable (Element.listToJson elements)
  | [], _ => trivial
  | e :: rest, h =>
    have hparts := allFinite_append.1 h
    ⟨e.writable_toJson hparts.1, Element.writable_listToJson rest hparts.2⟩

end

end Phrasebook
