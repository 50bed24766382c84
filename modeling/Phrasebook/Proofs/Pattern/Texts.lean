import Phrasebook.Pattern

/-!
# The texts in a pattern

The literal texts of a tree are its plain patterns and its text elements, wherever they stand:
also in the variants of a select expression inside an argument. Changing all of them leaves
everything else as it is: literals, the keys of variants, names, and the shape of the tree.
-/

namespace Phrasebook

mutual

def Expression.mapText (f : String → String) : Expression → Expression
  | .literal l => .literal l
  | .variable name => .variable name
  | .message id attr => .message id attr
  | .term name attr none => .term name attr none
  | .term name attr (some arguments) => .term name attr (some (Argument.listMapText f arguments))
  | .call name arguments => .call name (Argument.listMapText f arguments)
  | .select selector variants star =>
    .select (selector.mapText f) (Variant.listMapText f variants) star

def Argument.mapText (f : String → String) : Argument → Argument
  | .positional e => .positional (e.mapText f)
  | .named name value => .named name value

def Argument.listMapText (f : String → String) : List Argument → List Argument
  | [] => []
  | a :: rest => a.mapText f :: Argument.listMapText f rest

def Variant.mapText (f : String → String) : Variant → Variant
  | .mk key value => .mk key (value.mapText f)

def Variant.listMapText (f : String → String) : List Variant → List Variant
  | [] => []
  | v :: rest => v.mapText f :: Variant.listMapText f rest

def Pattern.mapText (f : String → String) : Pattern → Pattern
  | .text s => .text (f s)
  | .complex elements => .complex (Element.listMapText f elements)

def Element.mapText (f : String → String) : Element → Element
  | .text s => .text (f s)
  | .placeable e => .placeable (e.mapText f)

def Element.listMapText (f : String → String) : List Element → List Element
  | [] => []
  | e :: rest => e.mapText f :: Element.listMapText f rest

end

section Lists

variable (f : String → String)

theorem Argument.listMapText_eq (arguments : List Argument) :
    Argument.listMapText f arguments = arguments.map (Argument.mapText f) := by
  induction arguments with
  | nil => rfl
  | cons a rest ih => simp only [listMapText, List.map_cons, ih]

theorem Variant.listMapText_eq (variants : List Variant) :
    Variant.listMapText f variants = variants.map (Variant.mapText f) := by
  induction variants with
  | nil => rfl
  | cons v rest ih => simp only [listMapText, List.map_cons, ih]

theorem Element.listMapText_eq (elements : List Element) :
    Element.listMapText f elements = elements.map (Element.mapText f) := by
  induction elements with
  | nil => rfl
  | cons e rest ih => simp only [listMapText, List.map_cons, ih]

@[simp] theorem Variant.key_mapText (v : Variant) : (v.mapText f).key = v.key := by
  cases v
  rfl

@[simp] theorem Variant.value_mapText (v : Variant) : (v.mapText f).value = v.value.mapText f := by
  cases v
  rfl

end Lists

mutual

theorem Expression.mapText_id : (e : Expression) → e.mapText id = e
  | .literal _ => rfl
  | .variable _ => rfl
  | .message .. => rfl
  | .term _ _ none => rfl
  | .term name attr (some arguments) => by
      rw [Expression.mapText, Argument.listMapText_id arguments]
  | .call name arguments => by rw [Expression.mapText, Argument.listMapText_id arguments]
  | .select selector variants star => by
      rw [Expression.mapText, selector.mapText_id, Variant.listMapText_id variants]

theorem Argument.mapText_id : (a : Argument) → a.mapText id = a
  | .positional e => by rw [Argument.mapText, e.mapText_id]
  | .named .. => rfl

theorem Argument.listMapText_id : (arguments : List Argument) →
    Argument.listMapText id arguments = arguments
  | [] => rfl
  | a :: rest => by rw [Argument.listMapText, a.mapText_id, Argument.listMapText_id rest]

theorem Variant.mapText_id : (v : Variant) → v.mapText id = v
  | .mk key value => by rw [Variant.mapText, value.mapText_id]

theorem Variant.listMapText_id : (variants : List Variant) →
    Variant.listMapText id variants = variants
  | [] => rfl
  | v :: rest => by rw [Variant.listMapText, v.mapText_id, Variant.listMapText_id rest]

theorem Pattern.mapText_id : (p : Pattern) → p.mapText id = p
  | .text _ => rfl
  | .complex elements => by rw [Pattern.mapText, Element.listMapText_id elements]

theorem Element.mapText_id : (e : Element) → e.mapText id = e
  | .text _ => rfl
  | .placeable e => by rw [Element.mapText, e.mapText_id]

theorem Element.listMapText_id : (elements : List Element) →
    Element.listMapText id elements = elements
  | [] => rfl
  | e :: rest => by rw [Element.listMapText, e.mapText_id, Element.listMapText_id rest]

end

end Phrasebook
