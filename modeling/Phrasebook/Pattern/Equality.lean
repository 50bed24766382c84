import Phrasebook.Pattern

/-!
# Equality of patterns

Equality of the tree types is decidable, by recursion on both trees.
-/

namespace Phrasebook

mutual

def Expression.decEq : (a b : Expression) → Decidable (a = b)
  | .literal a, .literal b => decidable_of_iff (a = b) (by simp)
  | .variable a, .variable b => decidable_of_iff (a = b) (by simp)
  | .message a x, .message b y => decidable_of_iff (a = b ∧ x = y) (by simp)
  | .term a x none, .term b y none => decidable_of_iff (a = b ∧ x = y) (by simp)
  | .term _ _ none, .term _ _ (some _) => .isFalse (by simp)
  | .term _ _ (some _), .term _ _ none => .isFalse (by simp)
  | .term a x (some s), .term b y (some t) =>
    have := Argument.listDecEq s t
    decidable_of_iff (a = b ∧ x = y ∧ s = t) (by simp)
  | .call a s, .call b t =>
    have := Argument.listDecEq s t
    decidable_of_iff (a = b ∧ s = t) (by simp)
  | .select a s i, .select b t j =>
    have := Expression.decEq a b
    have := Variant.listDecEq s t
    decidable_of_iff (a = b ∧ s = t ∧ i = j) (by simp)
  | .literal _, .variable _ | .literal _, .message .. | .literal _, .term .. | .literal _, .call ..
  | .literal _, .select .. | .variable _, .literal _ | .variable _, .message ..
  | .variable _, .term .. | .variable _, .call .. | .variable _, .select ..
  | .message .., .literal _ | .message .., .variable _ | .message .., .term ..
  | .message .., .call .. | .message .., .select ..
  | .term .., .literal _ | .term .., .variable _ | .term .., .message .. | .term .., .call ..
  | .term .., .select .. | .call .., .literal _ | .call .., .variable _ | .call .., .message ..
  | .call .., .term .. | .call .., .select .. | .select .., .literal _ | .select .., .variable _
  | .select .., .message .. | .select .., .term .. | .select .., .call .. => .isFalse (by simp)

def Argument.decEq : (a b : Argument) → Decidable (a = b)
  | .positional a, .positional b =>
    have := Expression.decEq a b
    decidable_of_iff (a = b) (by simp)
  | .named a x, .named b y => decidable_of_iff (a = b ∧ x = y) (by simp)
  | .positional _, .named .. | .named .., .positional _ => .isFalse (by simp)

def Argument.listDecEq : (a b : List Argument) → Decidable (a = b)
  | [], [] => .isTrue rfl
  | [], _ :: _ | _ :: _, [] => .isFalse (by simp)
  | a :: as, b :: bs =>
    have := Argument.decEq a b
    have := Argument.listDecEq as bs
    decidable_of_iff (a = b ∧ as = bs) (by simp)

def Variant.decEq : (a b : Variant) → Decidable (a = b)
  | .mk a x, .mk b y =>
    have := Pattern.decEq x y
    decidable_of_iff (a = b ∧ x = y) (by simp)

def Variant.listDecEq : (a b : List Variant) → Decidable (a = b)
  | [], [] => .isTrue rfl
  | [], _ :: _ | _ :: _, [] => .isFalse (by simp)
  | a :: as, b :: bs =>
    have := Variant.decEq a b
    have := Variant.listDecEq as bs
    decidable_of_iff (a = b ∧ as = bs) (by simp)

def Pattern.decEq : (a b : Pattern) → Decidable (a = b)
  | .text a, .text b => decidable_of_iff (a = b) (by simp)
  | .complex a, .complex b =>
    have := Element.listDecEq a b
    decidable_of_iff (a = b) (by simp)
  | .text _, .complex _ | .complex _, .text _ => .isFalse (by simp)

def Element.decEq : (a b : Element) → Decidable (a = b)
  | .text a, .text b => decidable_of_iff (a = b) (by simp)
  | .placeable a, .placeable b =>
    have := Expression.decEq a b
    decidable_of_iff (a = b) (by simp)
  | .text _, .placeable _ | .placeable _, .text _ => .isFalse (by simp)

def Element.listDecEq : (a b : List Element) → Decidable (a = b)
  | [], [] => .isTrue rfl
  | [], _ :: _ | _ :: _, [] => .isFalse (by simp)
  | a :: as, b :: bs =>
    have := Element.decEq a b
    have := Element.listDecEq as bs
    decidable_of_iff (a = b ∧ as = bs) (by simp)

end

instance : DecidableEq Expression := Expression.decEq
instance : DecidableEq Argument := Argument.decEq
instance : DecidableEq Variant := Variant.decEq
instance : DecidableEq Pattern := Pattern.decEq
instance : DecidableEq Element := Element.decEq

end Phrasebook
