import Phrasebook.Bundle

/-!
# Histories of registrations

Whatever was registered before, what a bundle holds under an id can be told from the entries that
were handed in: the last one that was allowed to take the place of others, or else the first one. A
term without a value never counts. Each entry that is refused is reported, for what was handed in
before it.
-/

namespace Phrasebook

/-! ## What is handed in -/

/-- An entry that is handed in, perhaps with leave to take the place of another. -/
structure Submission where
  override : Bool
  entry : Entry

structure Registration where
  override : Bool
  resource : Resource

def Registration.submissions (c : Registration) : List Submission :=
  c.resource.body.map (Submission.mk c.override)

def submissions (calls : List Registration) : List Submission :=
  calls.flatMap Registration.submissions

def Bundle.registerAll [FormatterSource] {γ : Type} (b : Bundle γ) (calls : List Registration) :
    Bundle γ :=
  calls.foldl (fun b c => (b.addResource c.override c.resource).1) b

namespace Entry

def isWellFormed (e : Entry) : Bool := !e.isTerm || e.value.isSome

def kind (e : Entry) : EntryKind := if e.isTerm then .term else .message

def toMessage (e : Entry) : Message := ⟨e.id, e.value, e.attributes⟩

def toTerm? (e : Entry) : Option Term := e.value.map fun value => ⟨e.id, value, e.attributes⟩

end Entry

/-! ## What stands -/

/-- The well-formed entries that were handed in with an id. -/
def candidates (id : String) (subs : List Submission) : List Submission :=
  subs.filter fun s => s.entry.id = id ∧ s.entry.isWellFormed

/-- The entry that stands for an id: the last that was allowed to take the place of others, or else
the first. -/
def standing? (id : String) (subs : List Submission) : Option Entry :=
  match ((candidates id subs).filter Submission.override).getLast? with
  | some s => some s.entry
  | none => (candidates id subs).head?.map Submission.entry

def Submission.refusal? (before : List Submission) (s : Submission) : Option RegistrationError :=
  if !s.entry.isWellFormed then some (.missingTermValue s.entry.id)
  else if !s.override && !(candidates s.entry.id before).isEmpty then
    some (.overriding s.entry.kind s.entry.id)
  else none

def refusals : List Submission → List Submission → List RegistrationError
  | _, [] => []
  | before, s :: rest => (s.refusal? before).toList ++ refusals (before ++ [s]) rest

def accepted : List Submission → List Submission → List Entry
  | _, [] => []
  | before, s :: rest =>
    (if (s.refusal? before).isNone then [s.entry] else []) ++ accepted (before ++ [s]) rest

section Standing

variable {id : String} {before subs : List Submission} {s : Submission} {e : Entry}

theorem candidates_snoc (id : String) (subs : List Submission) (s : Submission) :
    candidates id (subs ++ [s]) =
      candidates id subs ++ if s.entry.id = id ∧ s.entry.isWellFormed then [s] else [] := by
  by_cases h : s.entry.id = id ∧ s.entry.isWellFormed <;> simp [candidates, List.filter_append, h]

/-- An entry that is not well-formed, or has another id, disturbs nothing. -/
theorem standing?_snoc_other (h : ¬(s.entry.id = id ∧ s.entry.isWellFormed)) :
    standing? id (subs ++ [s]) = standing? id subs := by
  simp only [standing?, candidates_snoc, if_neg h, List.append_nil]

theorem standing?_snoc_of_override (h : s.entry.id = id ∧ s.entry.isWellFormed)
    (ho : s.override = true) : standing? id (subs ++ [s]) = some s.entry := by
  simp [standing?, candidates_snoc, h, ho]

/-- Without leave to take the place of another, an entry stands only if it is the first. -/
theorem standing?_snoc_of_not_override (h : s.entry.id = id ∧ s.entry.isWellFormed)
    (ho : s.override = false) :
    standing? id (subs ++ [s]) = (standing? id subs).or (some s.entry) := by
  have hfilter : [s].filter Submission.override = [] := by simp [ho]
  simp only [standing?, candidates_snoc, if_pos h, List.filter_append, hfilter, List.append_nil]
  cases ((candidates id subs).filter Submission.override).getLast? with
  | some t => rfl
  | none => cases candidates id subs <;> simp

theorem standing?_eq_none_iff : standing? id subs = none ↔ candidates id subs = [] := by
  unfold standing?
  constructor
  · intro h
    split at h
    · simp at h
    · simpa using h
  · intro h
    simp [h]

theorem exists_candidate_of_standing? (h : standing? id subs = some e) :
    ∃ s ∈ candidates id subs, s.entry = e := by
  unfold standing? at h
  split at h
  · next s hs =>
    exact ⟨s, (List.mem_filter.1 (List.mem_of_getLast? hs)).1, by simpa using h⟩
  · obtain ⟨s, hs, rfl⟩ := Option.map_eq_some_iff.1 h
    exact ⟨s, List.mem_of_head? hs, rfl⟩

theorem mem_candidates_of_standing? (h : standing? id subs = some e) :
    e.id = id ∧ e.isWellFormed := by
  obtain ⟨s, hs, rfl⟩ := exists_candidate_of_standing? h
  simpa [candidates] using (List.mem_filter.1 hs).2

/-- What is refused changes nothing of what stands. -/
theorem standing?_snoc_of_refused {err : RegistrationError} (h : s.refusal? subs = some err)
    (id : String) : standing? id (subs ++ [s]) = standing? id subs := by
  by_cases hs : s.entry.id = id ∧ s.entry.isWellFormed
  · -- Another entry with the id was handed in before.
    obtain ⟨rfl, hwell⟩ := hs
    have ho : s.override = false ∧ candidates s.entry.id subs ≠ [] := by
      unfold Submission.refusal? at h
      simp only [hwell, Bool.not_true, Bool.false_eq_true, if_false] at h
      split at h
      · next hc => simpa using hc
      · simp at h
    rw [standing?_snoc_of_not_override ⟨rfl, hwell⟩ ho.1]
    cases hstands : standing? s.entry.id subs with
    | some e => rfl
    | none => exact absurd (standing?_eq_none_iff.1 hstands) ho.2
  · exact standing?_snoc_other hs

/-- What is not refused stands under its id, and only there. -/
theorem standing?_snoc_of_accepted (h : s.refusal? subs = none) (id : String) :
    standing? id (subs ++ [s]) = if s.entry.id = id then some s.entry else standing? id subs := by
  unfold Submission.refusal? at h
  have hwell : s.entry.isWellFormed = true := by
    cases hw : s.entry.isWellFormed with
    | true => rfl
    | false => simp [hw] at h
  split
  · next hid =>
    cases ho : s.override with
    | true => exact standing?_snoc_of_override ⟨hid, hwell⟩ ho
    | false =>
        have hnone : candidates id subs = [] := by simpa [hwell, ho, hid] using h
        rw [standing?_snoc_of_not_override ⟨hid, hwell⟩ ho, standing?_eq_none_iff.2 hnone]
        rfl
  · next hid => exact standing?_snoc_other fun hs => hid hs.1

/-- An entry stands for an id exactly if one with the id was accepted. -/
theorem isSome_standing?_append (id : String) (before subs : List Submission) :
    (standing? id (before ++ subs)).isSome ↔
      (standing? id before).isSome ∨ ∃ e ∈ accepted before subs, e.id = id := by
  induction subs generalizing before with
  | nil => simp [accepted]
  | cons s rest ih =>
      have hsplit : before ++ s :: rest = (before ++ [s]) ++ rest := by simp
      rw [hsplit, ih]
      cases hs : s.refusal? before with
      | some err => simp [accepted, hs, standing?_snoc_of_refused hs]
      | none =>
          rw [standing?_snoc_of_accepted hs]
          by_cases hid : s.entry.id = id
          · simp [accepted, hs, hid]
          · simp [accepted, hs, hid]

end Standing

/-! ## What the tables hold -/

namespace Entries

def holds (es : Entries) (e : Entry) : Bool :=
  if e.isTerm then es.terms.contains e.id else es.messages.contains e.id

def put (es : Entries) (e : Entry) : Entries :=
  if e.isTerm then
    match e.toTerm? with
    | some t => { es with terms := es.terms.insert e.id t }
    | none => es
  else { es with messages := es.messages.insert e.id e.toMessage }

theorem insert_eq (es : Entries) (override : Bool) (e : Entry) :
    es.insert override e =
      if !e.isWellFormed then .error (.missingTermValue e.id)
      else if !override && es.holds e then .error (.overriding e.kind e.id)
      else .ok (es.put e) := by
  unfold insert put holds Entry.isWellFormed Entry.kind Entry.toTerm?
  cases e.isTerm with
  | true => cases e.value <;> rfl
  | false => rfl

variable {es : Entries} {subs : List Submission} {s : Submission}

/-- The tables hold what stands: terms in the one, and all else in the other. -/
structure Reflects (es : Entries) (subs : List Submission) : Prop where
  messages : ∀ id, es.messages.get? id =
    if isTermId id then none else (standing? id subs).map Entry.toMessage
  terms : ∀ id, es.terms.get? id =
    if isTermId id then (standing? id subs).bind Entry.toTerm? else none

theorem reflects_empty : Reflects {} [] where
  messages id := by simp [standing?, candidates]
  terms id := by simp [standing?, candidates]

theorem Reflects.holds_eq (h : es.Reflects subs) (e : Entry) :
    es.holds e = !(candidates e.id subs).isEmpty := by
  have hstands : (standing? e.id subs).isSome = !(candidates e.id subs).isEmpty := by
    cases hc : candidates e.id subs with
    | nil => simp [standing?_eq_none_iff.2 hc]
    | cons t ts =>
        cases hs : standing? e.id subs with
        | some e' => rfl
        | none => simp [standing?_eq_none_iff.1 hs] at hc
  rw [← hstands]
  unfold holds NameMap.contains Entry.isTerm
  cases hterm : isTermId e.id with
  | false => simp [h.messages, hterm]
  | true =>
      simp only [h.terms, hterm, if_true]
      cases hs : standing? e.id subs with
      | none => rfl
      | some e' =>
          -- What stands under the id of a term has a value.
          obtain ⟨hid, hwell'⟩ := mem_candidates_of_standing? hs
          have hvalue : e'.value.isSome := by
            simpa [Entry.isWellFormed, Entry.isTerm, hid, hterm] using hwell'
          simpa [Entry.toTerm?] using hvalue

theorem Reflects.insert_eq (h : es.Reflects subs) (s : Submission) :
    es.insert s.override s.entry =
      match s.refusal? subs with
      | some err => .error err
      | none => .ok (es.put s.entry) := by
  rw [Entries.insert_eq]
  unfold Submission.refusal?
  cases hwell : s.entry.isWellFormed with
  | false => rfl
  | true =>
      rw [h.holds_eq s.entry]
      simp only [Bool.not_true, Bool.false_eq_true, if_false]
      split <;> rfl

theorem Reflects.of_refused (h : es.Reflects subs) {err : RegistrationError}
    (hs : s.refusal? subs = some err) : es.Reflects (subs ++ [s]) where
  messages id := by rw [standing?_snoc_of_refused hs, h.messages]
  terms id := by rw [standing?_snoc_of_refused hs, h.terms]

theorem Reflects.of_accepted (h : es.Reflects subs) (hs : s.refusal? subs = none) :
    (es.put s.entry).Reflects (subs ++ [s]) := by
  have hwell : s.entry.isWellFormed = true := by
    cases hw : s.entry.isWellFormed with
    | true => rfl
    | false => simp [Submission.refusal?, hw] at hs
  unfold put
  cases hterm : s.entry.isTerm with
  | true =>
      have hvalue : s.entry.value.isSome := by simpa [Entry.isWellFormed, hterm] using hwell
      obtain ⟨value, hv⟩ := Option.isSome_iff_exists.1 hvalue
      have ht : s.entry.toTerm? = some ⟨s.entry.id, value, s.entry.attributes⟩ := by
        simp [Entry.toTerm?, hv]
      simp only [if_true, ht]
      refine ⟨fun id => ?_, fun id => ?_⟩
      · rw [standing?_snoc_of_accepted hs, h.messages]
        split
        · rfl
        · next hid =>
          have hne : ¬s.entry.id = id := fun heq => hid (heq ▸ hterm)
          rw [if_neg hne]
      · rw [standing?_snoc_of_accepted hs, NameMap.get?_insert, h.terms]
        split
        · next heq =>
          have hid : isTermId id = true := heq ▸ hterm
          simp [hid, ht]
        · rfl
  | false =>
      simp only [Bool.false_eq_true, if_false]
      refine ⟨fun id => ?_, fun id => ?_⟩
      · rw [standing?_snoc_of_accepted hs, NameMap.get?_insert, h.messages]
        split
        · next heq =>
          have hid : isTermId id = false := heq ▸ hterm
          simp [hid]
        · rfl
      · rw [standing?_snoc_of_accepted hs, h.terms]
        split
        · next hid =>
          have hne : ¬s.entry.id = id := fun heq => by
            rw [← heq, show isTermId s.entry.id = false from hterm] at hid
            cases hid
          rw [if_neg hne]
        · rfl

/-- Registering entries after a history reports what is refused of them and ends with what stands
then. -/
theorem Reflects.insertAll (h : es.Reflects subs) (override : Bool) (body : List Entry) :
    (es.insertAll override body).2 = refusals subs (body.map (Submission.mk override)) ∧
      (es.insertAll override body).1.Reflects (subs ++ body.map (Submission.mk override)) := by
  induction body generalizing es subs with
  | nil => simpa [Entries.insertAll, refusals] using h
  | cons e rest ih =>
      let s : Submission := ⟨override, e⟩
      have hstep : es.insert override e = _ := h.insert_eq s
      cases hs : s.refusal? subs with
      | some err =>
          obtain ⟨herrs, hrest⟩ := ih (h.of_refused hs)
          simp only [hs] at hstep
          simp only [Entries.insertAll, hstep, List.map_cons, refusals]
          refine ⟨?_, by simpa using hrest⟩
          rw [herrs, show (Submission.mk override e).refusal? subs = some err from hs]
          rfl
      | none =>
          obtain ⟨herrs, hrest⟩ := ih (h.of_accepted hs)
          simp only [hs] at hstep
          simp only [Entries.insertAll, hstep, List.map_cons, refusals]
          refine ⟨?_, by simpa using hrest⟩
          rw [herrs, show (Submission.mk override e).refusal? subs = none from hs]
          rfl

/-- Entries are registered one after the other, however they are grouped. -/
theorem insertAll_append (es : Entries) (override : Bool) (xs ys : List Entry) :
    es.insertAll override (xs ++ ys) =
      let first := es.insertAll override xs
      let second := first.1.insertAll override ys
      (second.1, first.2 ++ second.2) := by
  induction xs generalizing es with
  | nil => rfl
  | cons e rest ih =>
      simp only [List.cons_append, Entries.insertAll]
      cases es.insert override e with
      | ok es' => exact ih es'
      | error err =>
          simp only [ih es]
          rfl

end Entries

/-! ## Bundles -/

namespace Bundle

section

variable [FormatterSource] {γ : Type}

theorem reflects_registerAll {b : Bundle γ} {before : List Submission}
    (h : b.entries.Reflects before) (calls : List Registration) :
    (b.registerAll calls).entries.Reflects (before ++ submissions calls) := by
  induction calls generalizing b before with
  | nil => simpa [registerAll, submissions] using h
  | cons c rest ih =>
      have hcall : (b.addResource c.override c.resource).1.entries.Reflects
          (before ++ c.submissions) := (h.insertAll c.override c.resource.body).2
      simpa [registerAll, submissions] using ih hcall

section Reflecting

variable {b : Bundle γ} {handed : List Submission} {id : String}

theorem isSome_message?_iff (h : b.entries.Reflects handed) :
    (b.message? id).isSome ↔ isTermId id = false ∧ (standing? id handed).isSome := by
  unfold message?
  rw [h.messages]
  cases isTermId id <;> simp

theorem isSome_term?_iff (h : b.entries.Reflects handed) :
    (b.term? id).isSome ↔ isTermId id = true ∧ (standing? id handed).isSome := by
  unfold term?
  rw [h.terms]
  cases hterm : isTermId id with
  | false => simp
  | true =>
      cases hs : standing? id handed with
      | none => simp
      | some e =>
          obtain ⟨rfl, hwell⟩ := mem_candidates_of_standing? hs
          have hvalue : e.value.isSome := by
            simpa [Entry.isWellFormed, Entry.isTerm, hterm] using hwell
          simpa [Entry.toTerm?] using hvalue

theorem id_of_message? (h : b.entries.Reflects handed) {m : Message} (hm : b.message? id = some m) :
    m.id = id := by
  unfold message? at hm
  rw [h.messages] at hm
  split at hm
  · simp at hm
  · obtain ⟨e, he, rfl⟩ := Option.map_eq_some_iff.1 hm
    exact (mem_candidates_of_standing? he).1

theorem id_of_term? (h : b.entries.Reflects handed) {t : Term} (ht : b.term? id = some t) :
    t.id = id := by
  unfold term? at ht
  rw [h.terms] at ht
  split at ht
  · obtain ⟨e, he, het⟩ := Option.bind_eq_some_iff.1 ht
    obtain ⟨value, -, rfl⟩ := Option.map_eq_some_iff.1 het
    exact (mem_candidates_of_standing? he).1
  · simp at ht

end Reflecting

theorem addResource_append (b : Bundle γ) (override : Bool) (xs ys : List Entry) :
    b.addResource override ⟨xs ++ ys⟩ =
      let first := b.addResource override ⟨xs⟩
      let second := first.1.addResource override ⟨ys⟩
      (second.1, first.2 ++ second.2) := by
  simp only [addResource, Entries.insertAll_append]

theorem addResource_of_not_wellFormed (b : Bundle γ) (override : Bool) {e : Entry}
    (he : e.isWellFormed = false) :
    b.addResource override ⟨[e]⟩ = (b, [.missingTermValue e.id]) := by
  simp [addResource, Entries.insertAll, Entries.insert_eq, he]

/-- After any history of registrations on a new bundle, with or without leave to override: a message
or term is found exactly under the ids that stand, as messages for ids that are no term's and as
terms for the others, each with its own id; the ids that are found are those of the entries that
were accepted, and the message ids are listed in strictly ascending order. Every further call
reports the entries that are refused, and a term without a value is refused and changes nothing.
Entries may be handed in together or in two calls. -/
theorem registration_history (o : BundleOptions γ) (calls : List Registration) :
    let b := (ofOptions o).registerAll calls
    let handed := submissions calls
    (∀ id,
      b.message? id = (if isTermId id then none else (standing? id handed).map Entry.toMessage) ∧
      b.term? id = (if isTermId id then (standing? id handed).bind Entry.toTerm? else none)) ∧
    (∀ id,
      ((b.message? id).isSome ↔ isTermId id = false ∧ ∃ e ∈ accepted [] handed, e.id = id) ∧
      ((b.term? id).isSome ↔ isTermId id = true ∧ ∃ e ∈ accepted [] handed, e.id = id)) ∧
    (∀ id, (∀ m, b.message? id = some m → m.id = id) ∧ ∀ t, b.term? id = some t → t.id = id) ∧
    (b.messageIds.Pairwise (· < ·) ∧ ∀ id, id ∈ b.messageIds ↔ (b.message? id).isSome) ∧
    (∀ c : Registration,
      (b.addResource c.override c.resource).2 = refusals handed c.submissions) ∧
    (∀ override e, e.isWellFormed = false →
      b.addResource override ⟨[e]⟩ = (b, [.missingTermValue e.id])) ∧
    ∀ override xs ys, b.addResource override ⟨xs ++ ys⟩ =
      let first := b.addResource override ⟨xs⟩
      let second := first.1.addResource override ⟨ys⟩
      (second.1, first.2 ++ second.2) := by
  intro b handed
  have h : b.entries.Reflects ([] ++ handed) := reflects_registerAll Entries.reflects_empty calls
  rw [List.nil_append] at h
  have hstands : ∀ id, (standing? id handed).isSome ↔ ∃ e ∈ accepted [] handed, e.id = id := by
    intro id
    have happend := isSome_standing?_append id [] handed
    simpa [standing?, candidates] using happend
  refine ⟨fun id => ⟨h.messages id, h.terms id⟩, fun id => ⟨?_, ?_⟩,
    fun id => ⟨fun _ => id_of_message? h, fun _ => id_of_term? h⟩,
    ⟨b.entries.messages.names_ascending, fun _ => NameMap.mem_names⟩,
    fun c => (h.insertAll c.override c.resource.body).1,
    fun override _ => b.addResource_of_not_wellFormed override, b.addResource_append⟩
  · rw [isSome_message?_iff h, hstands]
  · rw [isSome_term?_iff h, hstands]

end

example :
    let entry (id text : String) : Entry := ⟨id, some (.text text), .empty⟩
    let calls : List Registration :=
      [⟨false, ⟨[entry "a" "1", entry "-t" "1", entry "b" "1", entry "b" "2"]⟩⟩,
        ⟨true, ⟨[entry "a" "2", ⟨"-t", none, .empty⟩]⟩⟩, ⟨false, ⟨[entry "a" "3"]⟩⟩]
    let b := (ofOptions ({} : BundleOptions Empty)).registerAll calls
    b.messageIds = ["a", "b"] ∧
      (b.message? "a").bind Message.value = some (.text "2") ∧
      (b.message? "b").bind Message.value = some (.text "1") ∧
      (b.term? "-t").map Term.value = some (.text "1") :=
  ⟨by decide, rfl, rfl, rfl⟩

end Bundle

end Phrasebook
