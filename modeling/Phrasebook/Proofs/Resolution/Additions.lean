import Phrasebook.Proofs.Registration.History
import Phrasebook.Proofs.Resolution.Mirroring

/-!
# Answers outlive additions

Entries and functions that are added without leave to take the place of others hide nothing: what
was found is found again, and the same. So a call that found all that it looked for gives the same
answer after any additions. Only a name that was not found may be found then.
-/

namespace Phrasebook

/-! ## What stays found -/

/-- What is found in the first map is found in the second. -/
def NameMap.Keeps {α : Type} (m m' : NameMap α) : Prop :=
  ∀ name a, m.get? name = some a → m'.get? name = some a

theorem NameMap.Keeps.refl {α : Type} (m : NameMap α) : m.Keeps m := fun _ _ h => h

theorem NameMap.Keeps.trans {α : Type} {m₁ m₂ m₃ : NameMap α} (h₁ : m₁.Keeps m₂)
    (h₂ : m₂.Keeps m₃) : m₁.Keeps m₃ :=
  fun name a h => h₂ name a (h₁ name a h)

theorem NameMap.keeps_insert {α : Type} {m : NameMap α} {name : String}
    (hfree : m.contains name = false) (value : α) : m.Keeps (m.insert name value) := by
  intro k a hk
  have hne : ¬name = k := by
    rintro rfl
    simp [contains, hk] at hfree
  rw [get?_insert, if_neg hne, hk]

namespace Entries

structure Keeps (es es' : Entries) : Prop where
  messages : es.messages.Keeps es'.messages
  terms : es.terms.Keeps es'.terms

theorem Keeps.refl (es : Entries) : es.Keeps es := ⟨.refl _, .refl _⟩

theorem Keeps.trans {es₁ es₂ es₃ : Entries} (h₁ : es₁.Keeps es₂) (h₂ : es₂.Keeps es₃) :
    es₁.Keeps es₃ :=
  ⟨h₁.messages.trans h₂.messages, h₁.terms.trans h₂.terms⟩

theorem keeps_put {es : Entries} {e : Entry} (hfree : es.holds e = false) :
    es.Keeps (es.put e) := by
  unfold holds at hfree
  unfold put
  cases hterm : e.isTerm with
  | false =>
      have hid : es.messages.contains e.id = false := by simpa [hterm] using hfree
      exact ⟨NameMap.keeps_insert hid _, .refl _⟩
  | true =>
      have hid : es.terms.contains e.id = false := by simpa [hterm] using hfree
      cases e.toTerm? with
      | none => exact .refl es
      | some t => exact ⟨.refl _, NameMap.keeps_insert hid t⟩

theorem keeps_insert {es es' : Entries} {e : Entry} (h : es.insert false e = .ok es') :
    es.Keeps es' := by
  rw [insert_eq] at h
  split at h
  · cases h
  · split at h
    · cases h
    · next hfree =>
      cases h
      exact keeps_put (by simpa using hfree)

theorem keeps_insertAll (es : Entries) (body : List Entry) :
    es.Keeps (es.insertAll false body).1 := by
  induction body generalizing es with
  | nil => exact .refl es
  | cons e rest ih =>
      cases h : es.insert false e with
      | error err =>
          simp only [insertAll, h]
          exact ih es
      | ok es' =>
          simp only [insertAll, h]
          exact (keeps_insert h).trans (ih es')

end Entries

theorem Functions.keeps_register {γ : Type} {fs fs' : Functions γ} {name : String}
    {f : Function γ} (h : fs.register name f = .ok fs') : NameMap.Keeps fs fs' := by
  unfold register at h
  split at h
  · cases h
  · next hfree =>
    cases h
    exact NameMap.keeps_insert (by simpa using hfree) f

/-! ## Additions to a bundle -/

inductive Addition (γ : Type) where
  | resource (r : Resource)
  | function (name : String) (f : Function γ)

namespace Bundle

variable [FormatterSource] {γ : Type}

/-- The bundle after an addition, of which is refused what would take the place of another. -/
def add (b : Bundle γ) : Addition γ → Bundle γ
  | .resource r => (b.addResource false r).1
  | .function name f =>
    match b.addFunction name f with
    | .ok b' => b'
    | .error _ => b

def addAll (b : Bundle γ) (additions : List (Addition γ)) : Bundle γ := additions.foldl add b

/-- The second bundle finds what the first one finds. It is the same in all else, but for the
formatters that were built meanwhile. -/
structure Extends (b b' : Bundle γ) : Prop where
  entries : b.entries.Keeps b'.entries
  functions : b.functions.Keeps b'.functions
  locale : b'.formatters.locale = b.formatters.locale
  rest : b' =
    { b with entries := b'.entries, functions := b'.functions, formatters := b'.formatters }

theorem Extends.refl (b : Bundle γ) : b.Extends b := ⟨.refl _, .refl _, rfl, rfl⟩

theorem Extends.trans {b₁ b₂ b₃ : Bundle γ} (h₁ : b₁.Extends b₂) (h₂ : b₂.Extends b₃) :
    b₁.Extends b₃ where
  entries := h₁.entries.trans h₂.entries
  functions := h₁.functions.trans h₂.functions
  locale := h₂.locale.trans h₁.locale
  rest := by
    rw [h₂.rest, h₁.rest]

theorem extends_add (b : Bundle γ) (a : Addition γ) : b.Extends (b.add a) := by
  cases a with
  | resource r => exact ⟨b.entries.keeps_insertAll r.body, .refl _, rfl, rfl⟩
  | function name f =>
      cases h : b.functions.register name f with
      | error _ =>
          simp only [add, addFunction, h]
          exact .refl b
      | ok fs =>
          simp only [add, addFunction, h]
          exact ⟨.refl _, Functions.keeps_register h, rfl, rfl⟩

theorem extends_addAll (b : Bundle γ) (additions : List (Addition γ)) :
    b.Extends (b.addAll additions) := by
  induction additions generalizing b with
  | nil => exact .refl b
  | cons a rest ih => exact (b.extends_add a).trans (ih (b.add a))

theorem extends_withFormatters (b : Bundle γ) {kept : Formatters}
    (hkept : kept.locale = b.formatters.locale) : b.Extends { b with formatters := kept } :=
  ⟨.refl _, .refl _, hkept, rfl⟩

end Bundle

/-- That something is not there under its name, which may be added later. -/
def ResolverError.isUnknownName : ResolverError → Bool
  | .unknownMessage _ | .unknownTerm _ | .unknownFunction _ => true
  | _ => false

namespace Bundle

section

variable [FormatterSource] {γ : Type} {b b' : Bundle γ}

/-- A pattern is found as before, unless its message or term was not there. -/
theorem Extends.targetPattern (h : b.Extends b') (t : Target) :
    b'.targetPattern t = b.targetPattern t ∨
      ∃ e, b.targetPattern t = .error e ∧ e.isUnknownName := by
  cases t with
  | message id attr =>
      show b'.messagePattern id attr = b.messagePattern id attr ∨
        ∃ e, b.messagePattern id attr = .error e ∧ e.isUnknownName
      unfold messagePattern
      cases hm : b.message? id with
      | none => exact .inr ⟨_, rfl, rfl⟩
      | some m =>
          have hm' : b'.message? id = some m := h.entries.messages id m hm
          rw [hm']
          exact .inl rfl
  | term id attr =>
      show b'.termPattern id attr = b.termPattern id attr ∨
        ∃ e, b.termPattern id attr = .error e ∧ e.isUnknownName
      unfold termPattern
      cases ht : b.term? id with
      | none => exact .inr ⟨_, rfl, rfl⟩
      | some t =>
          have ht' : b'.term? id = some t := h.entries.terms id t ht
          rw [ht']
          exact .inl rfl

theorem Extends.mirrored (h : b.Extends b') :
    b.Mirrored id (fun e => e.isUnknownName) b' where
  text _ := by
    rw [h.rest]
    rfl
  useIsolating := by rw [h.rest]
  formatter := by rw [h.rest]
  function name := by
    cases hf : b.function? name with
    | none => exact .inr ⟨rfl, rfl⟩
    | some f => exact .inl (h.functions name f hf)
  pattern t := by
    refine (h.targetPattern t).imp_left fun hsame => ?_
    rw [hsame]
    cases b.targetPattern t with
    | error e => rfl
    | ok p => exact congrArg Except.ok p.mapText_id.symm

variable [CustomValue γ]

/-- A bundle that is the same but for what it finds is seen alike, where the values of the host look
for no messages and no functions. -/
theorem Extends.looksLike (h : b.Extends b')
    (hblind : ∀ messages functions, CustomValue.Ignores γ fun view =>
      { view with messages := messages, functions := functions })
    (arguments : Option (Arguments γ)) {s s' : Scope γ} (hs : s.Twin s') :
    ((Environment.mk b arguments).view s).LooksLike ((Environment.mk b' arguments).view s') := by
  have hargument : (Environment.mk b' arguments).argument? s' =
      (Environment.mk b arguments).argument? s :=
    Environment.argument?_mk b b' arguments hs.localArguments
  have hview : (Environment.mk b' arguments).view s' =
      { (Environment.mk b arguments).view s with
        messages := b'.entries.messages, functions := b'.functions } := by
    simp only [Environment.view, hargument, hs.locale, Scope.inTerm, hs.localArguments]
    rw [h.rest]
    rfl
  rw [hview]
  exact (hblind _ _).looksLike rfl rfl rfl

/-- A call that found all that it looked for is answered alike where more is found. -/
theorem Extends.sameAnswer (h : b.Extends b')
    (hblind : ∀ messages functions, CustomValue.Ignores γ fun view =>
      { view with messages := messages, functions := functions })
    {id : String} {attr : Option String} {arguments : Option (Arguments γ)}
    {errors : Option (List ResolverError)}
    (hfound : ∀ e, (b.formatEntry id attr arguments errors).Reports errors e →
      e.isUnknownName = false) :
    (b.formatEntry id attr arguments errors).SameAnswer
      (b'.formatEntry id attr arguments errors) := by
  have hdepth : b'.maxDepth = b.maxDepth := by rw [h.rest]
  let pairing : Pairing (Environment.mk b arguments) (Environment.mk b' arguments)
      (fun e => e.isUnknownName) :=
    .twins hdepth fun _ _ hs => h.looksLike hblind arguments hs
  have hpattern : b'.messagePattern id attr = b.messagePattern id attr ∨
      ∃ e, b.messagePattern id attr = .error e ∧ e.isUnknownName :=
    h.targetPattern (.message id attr)
  unfold formatEntry at hfound ⊢
  rcases hpattern with hsame | ⟨e, he, hunknown⟩
  · rw [hsame]
    cases hp : b.messagePattern id attr with
    | error e => exact ⟨rfl, rfl⟩
    | ok p =>
        simp only [hp] at hfound
        have hstart : pairing.Paired (.start b errors) (.start b' errors) :=
          ⟨⟨rfl, rfl, h.locale⟩, rfl⟩
        have hanswer := formatPattern_mapText h.mirrored pairing hstart p
          fun e he => Bool.eq_false_iff.1 (hfound e he)
        rw [p.mapText_id] at hanswer
        exact hanswer
  · simp only [he] at hfound
    have hknown : e.isUnknownName = false := hfound e (.inl rfl)
    simp [hknown] at hunknown

/-- Take a call for a message or an attribute that reports no message, term or function as unknown,
collecting errors or not. Where the values of the host look for no messages and no functions,
the call gives the same text and the same errors after any additions, also such that were refused,
and whatever formatters were built meanwhile. -/
theorem additions_keep_answers
    (hblind : ∀ messages functions, CustomValue.Ignores γ fun view =>
      { view with messages := messages, functions := functions })
    (b : Bundle γ) (id : String) (attr : Option String) (arguments : Option (Arguments γ))
    (errors : Option (List ResolverError))
    (hfound : ∀ e, (b.formatEntry id attr arguments errors).Reports errors e →
      e.isUnknownName = false)
    (additions : List (Addition γ)) (kept : Formatters)
    (hkept : kept.locale = b.formatters.locale) :
    (b.formatEntry id attr arguments errors).SameAnswer
      ((({ b with formatters := kept } : Bundle γ).addAll additions).formatEntry id attr arguments
        errors) := by
  have hextends := (b.extends_withFormatters hkept).trans (extends_addAll _ additions)
  exact hextends.sameAnswer hblind hfound

end

def greetingBundle : Bundle Badge :=
  ((ofOptions { functions := [("NAME", fun _ _ => .ok (.text "name"))] }).addResource false
    ⟨[⟨"m", some (.complex [.placeable (.variable "x"), .placeable (.variable "y"),
        .placeable (.message "n" none), .placeable (.call "NAME" [])]), .empty⟩,
      ⟨"n", some (.text "hello"), .empty⟩]⟩).1

def otherGreetings : List (Addition Badge) :=
  [.resource ⟨[⟨"n", some (.text "bye"), .empty⟩, ⟨"-t", some (.text "t"), .empty⟩,
      ⟨"m", none, .empty⟩]⟩,
    .function "NAME" fun _ _ => .error .missingArgument,
    .function "OTHER" fun _ _ => .error .missingArgument]

/-- An unknown variable does not count as a name that may be added. -/
theorem greetingBundle_keeps_answer :
    let given : Arguments Badge := .ofList [("y", .custom ⟨"Ada"⟩)]
    let call (b : Bundle Badge) : Outcome := b.formatEntry "m" none given (some [])
    (call greetingBundle).errors = some [.unknownVariable "x"] ∧
    (call greetingBundle).SameAnswer (call (greetingBundle.addAll otherGreetings)) := by
  intro given call
  have herrors : (call greetingBundle).errors = some [.unknownVariable "x"] := rfl
  refine ⟨herrors, additions_keep_answers (fun _ _ => Badge.ignores _) greetingBundle "m" none
    given (some []) (fun e he => ?_) otherGreetings greetingBundle.formatters rfl⟩
  obtain rfl : e = .unknownVariable "x" := List.mem_singleton.1 (he.mem rfl herrors)
  rfl

end Bundle

end Phrasebook
