import Phrasebook.Resolver

/-!
# Patterns built anew

Every pattern in a tree can be built anew from its elements, the innermost first. Elements that are
all text become one text; all else stays as it is: literals, the keys of variants, names, the number
of elements around a placeable, and what a reference refers to.
-/

namespace Phrasebook

mutual

def Expression.rebuilt : Expression → Expression
  | .literal l => .literal l
  | .variable name => .variable name
  | .message id attr => .message id attr
  | .term name attr none => .term name attr none
  | .term name attr (some arguments) => .term name attr (some (Argument.listRebuilt arguments))
  | .call name arguments => .call name (Argument.listRebuilt arguments)
  | .select selector variants star =>
    .select selector.rebuilt (Variant.listRebuilt variants) star

def Argument.rebuilt : Argument → Argument
  | .positional e => .positional e.rebuilt
  | .named name value => .named name value

def Argument.listRebuilt : List Argument → List Argument
  | [] => []
  | a :: rest => a.rebuilt :: Argument.listRebuilt rest

def Variant.rebuilt : Variant → Variant
  | .mk key value => .mk key value.rebuilt

def Variant.listRebuilt : List Variant → List Variant
  | [] => []
  | v :: rest => v.rebuilt :: Variant.listRebuilt rest

def Pattern.rebuilt : Pattern → Pattern
  | .text s => .text s
  | .complex elements => .ofElements (Element.listRebuilt elements)

def Element.rebuilt : Element → Element
  | .text s => .text s
  | .placeable e => .placeable e.rebuilt

def Element.listRebuilt : List Element → List Element
  | [] => []
  | e :: rest => e.rebuilt :: Element.listRebuilt rest

end

theorem Argument.listRebuilt_eq (arguments : List Argument) :
    Argument.listRebuilt arguments = arguments.map Argument.rebuilt := by
  induction arguments with
  | nil => rfl
  | cons a rest ih => simp only [listRebuilt, List.map_cons, ih]

theorem Variant.listRebuilt_eq (variants : List Variant) :
    Variant.listRebuilt variants = variants.map Variant.rebuilt := by
  induction variants with
  | nil => rfl
  | cons v rest ih => simp only [listRebuilt, List.map_cons, ih]

theorem Element.listRebuilt_eq (elements : List Element) :
    Element.listRebuilt elements = elements.map Element.rebuilt := by
  induction elements with
  | nil => rfl
  | cons e rest ih => simp only [listRebuilt, List.map_cons, ih]

@[simp] theorem Variant.key_rebuilt (v : Variant) : v.rebuilt.key = v.key := by
  cases v
  rfl

@[simp] theorem Variant.value_rebuilt (v : Variant) : v.rebuilt.value = v.value.rebuilt := by
  cases v
  rfl

@[simp] theorem Element.text?_rebuilt (e : Element) : e.rebuilt.text? = e.text? := by
  cases e <;> rfl

theorem namedValues_rebuilt {γ : Type} (arguments : List Argument) :
    (namedValues (Argument.listRebuilt arguments) : Arguments γ) = namedValues arguments := by
  unfold namedValues
  rw [Argument.listRebuilt_eq, List.filterMap_map]
  congr 2
  funext a
  cases a <;> rfl

theorem Variant.find?_listRebuilt (q : Literal → Bool) (variants : List Variant) :
    (Variant.listRebuilt variants).find? (fun v => q v.key) =
      (variants.find? fun v => q v.key).map Variant.rebuilt := by
  rw [Variant.listRebuilt_eq, List.find?_map]
  congr 2
  funext v
  simp

namespace Pattern

/-- A pattern without placeables is one text when it is built anew. -/
theorem rebuilt_of_plain {elements : List Element} (h : (complex elements).isPlain = true) :
    (complex elements).rebuilt = .text (String.join (elements.filterMap Element.text?)) := by
  have hplain : (Element.listRebuilt elements).all (fun e => e.text?.isSome) = true := by
    simpa [Element.listRebuilt_eq, Function.comp_def, isPlain] using h
  have htexts : (Element.listRebuilt elements).filterMap Element.text? =
      elements.filterMap Element.text? := by
    rw [Element.listRebuilt_eq, List.filterMap_map]
    exact congrArg (elements.filterMap ·) (funext Element.text?_rebuilt)
  rw [rebuilt, ofElements, if_pos hplain, htexts]

/-- Any other pattern keeps its elements one by one. -/
theorem rebuilt_of_not_plain {elements : List Element} (h : (complex elements).isPlain = false) :
    (complex elements).rebuilt = .complex (Element.listRebuilt elements) := by
  have hplain : (Element.listRebuilt elements).all (fun e => e.text?.isSome) = false := by
    simpa [Element.listRebuilt_eq, Function.comp_def, isPlain] using h
  rw [rebuilt, ofElements, hplain]
  rfl

end Pattern

end Phrasebook
