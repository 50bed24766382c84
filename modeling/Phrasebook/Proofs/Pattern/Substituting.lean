import Phrasebook.Pattern

/-!
# Literals in place of variables

A variable can be replaced by a literal wherever it stands for a value: in elements, selectors,
variants and positional arguments of functions. Nothing is replaced across a reference. The
arguments that a term is called with are literals already, or are not looked at.
-/

namespace Phrasebook

mutual

def Expression.subst (σ : String → Option Literal) : Expression → Expression
  | .literal l => .literal l
  | .variable name =>
    match σ name with
    | some l => .literal l
    | none => .variable name
  | .message id attr => .message id attr
  | .term name attr arguments => .term name attr arguments
  | .call name arguments => .call name (Argument.listSubst σ arguments)
  | .select selector variants star =>
    .select (selector.subst σ) (Variant.listSubst σ variants) star

def Argument.subst (σ : String → Option Literal) : Argument → Argument
  | .positional e => .positional (e.subst σ)
  | .named name value => .named name value

def Argument.listSubst (σ : String → Option Literal) : List Argument → List Argument
  | [] => []
  | a :: rest => a.subst σ :: Argument.listSubst σ rest

def Variant.subst (σ : String → Option Literal) : Variant → Variant
  | .mk key value => .mk key (value.subst σ)

def Variant.listSubst (σ : String → Option Literal) : List Variant → List Variant
  | [] => []
  | v :: rest => v.subst σ :: Variant.listSubst σ rest

def Pattern.subst (σ : String → Option Literal) : Pattern → Pattern
  | .text s => .text s
  | .complex elements => .complex (Element.listSubst σ elements)

def Element.subst (σ : String → Option Literal) : Element → Element
  | .text s => .text s
  | .placeable e => .placeable (e.subst σ)

def Element.listSubst (σ : String → Option Literal) : List Element → List Element
  | [] => []
  | e :: rest => e.subst σ :: Element.listSubst σ rest

end

def noLiteral (_ : String) : Option Literal := none

mutual

theorem Expression.subst_noLiteral : (e : Expression) → e.subst noLiteral = e
  | .literal _ => rfl
  | .variable _ => rfl
  | .message .. => rfl
  | .term .. => rfl
  | .call name arguments => by rw [Expression.subst, Argument.listSubst_noLiteral arguments]
  | .select selector variants star => by
      rw [Expression.subst, selector.subst_noLiteral, Variant.listSubst_noLiteral variants]

theorem Argument.subst_noLiteral : (a : Argument) → a.subst noLiteral = a
  | .positional e => by rw [Argument.subst, e.subst_noLiteral]
  | .named .. => rfl

theorem Argument.listSubst_noLiteral : (arguments : List Argument) →
    Argument.listSubst noLiteral arguments = arguments
  | [] => rfl
  | a :: rest => by rw [Argument.listSubst, a.subst_noLiteral, Argument.listSubst_noLiteral rest]

theorem Variant.subst_noLiteral : (v : Variant) → v.subst noLiteral = v
  | .mk key value => by rw [Variant.subst, value.subst_noLiteral]

theorem Variant.listSubst_noLiteral : (variants : List Variant) →
    Variant.listSubst noLiteral variants = variants
  | [] => rfl
  | v :: rest => by rw [Variant.listSubst, v.subst_noLiteral, Variant.listSubst_noLiteral rest]

theorem Pattern.subst_noLiteral : (p : Pattern) → p.subst noLiteral = p
  | .text _ => rfl
  | .complex elements => by rw [Pattern.subst, Element.listSubst_noLiteral elements]

theorem Element.subst_noLiteral : (e : Element) → e.subst noLiteral = e
  | .text _ => rfl
  | .placeable e => by rw [Element.subst, e.subst_noLiteral]

theorem Element.listSubst_noLiteral : (elements : List Element) →
    Element.listSubst noLiteral elements = elements
  | [] => rfl
  | e :: rest => by rw [Element.listSubst, e.subst_noLiteral, Element.listSubst_noLiteral rest]

end

end Phrasebook
