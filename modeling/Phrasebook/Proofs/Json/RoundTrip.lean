import Mathlib.Data.List.Forall2
import Phrasebook.Proofs.Json.Yielding

/-!
# Written documents read back

A reader of parts reads the text of a document as some value if it yields that value wherever such a
part may stand. Lists and objects are read when their items and members are, so the reader of parts
of any shape reads back every document whose numbers can be written, as far as its brackets are not
nested too deeply.
-/

namespace Phrasebook.Json

/-! ## What can be written and read -/

mutual

/-- How many brackets are open at once in the text of a document. -/
def nesting : Json → Nat
  | .array vs => itemsNesting vs + 1
  | .object ms => membersNesting ms + 1
  | _ => 0

def itemsNesting : List Json → Nat
  | [] => 0
  | v :: vs => max v.nesting (itemsNesting vs)

def membersNesting : List (String × Json) → Nat
  | [] => 0
  | (_, v) :: ms => max v.nesting (membersNesting ms)

end

mutual

/-- Every number has a notation: integers of 64 bits, and finite reals. -/
def Writable : Json → Prop
  | .integer n => -(twoPow 63 : Int) ≤ n ∧ n < twoPow 64
  | .real x => x.isFinite
  | .array vs => ItemsWritable vs
  | .object ms => MembersWritable ms
  | _ => True

def ItemsWritable : List Json → Prop
  | [] => True
  | v :: vs => v.Writable ∧ ItemsWritable vs

def MembersWritable : List (String × Json) → Prop
  | [] => True
  | (_, v) :: ms => v.Writable ∧ MembersWritable ms

end

theorem itemsWritable_iff {vs : List Json} : ItemsWritable vs ↔ ∀ v ∈ vs, v.Writable := by
  induction vs with
  | nil => simp [ItemsWritable]
  | cons v vs ih => simp [ItemsWritable, ih]

theorem membersWritable_iff {ms : List (String × Json)} :
    MembersWritable ms ↔ ∀ m ∈ ms, m.2.Writable := by
  induction ms with
  | nil => simp [MembersWritable]
  | cons m ms ih => simp only [MembersWritable, ih, List.forall_mem_cons]

theorem nesting_le_itemsNesting {vs : List Json} {v : Json} (hv : v ∈ vs) :
    v.nesting ≤ itemsNesting vs := by
  induction vs with
  | nil => cases hv
  | cons w ws ih =>
      unfold itemsNesting
      rcases List.mem_cons.1 hv with rfl | hv
      · exact Nat.le_max_left _ _
      · exact Nat.le_trans (ih hv) (Nat.le_max_right _ _)

theorem nesting_le_membersNesting {ms : List (String × Json)} {m : String × Json} (hm : m ∈ ms) :
    m.2.nesting ≤ membersNesting ms := by
  induction ms with
  | nil => cases hm
  | cons w ws ih =>
      unfold membersNesting
      rcases List.mem_cons.1 hm with rfl | hm
      · exact Nat.le_max_left _ _
      · exact Nat.le_trans (ih hm) (Nat.le_max_right _ _)

/-- An object is read under one bracket more than the values in it. -/
theorem exists_level_of_object {ms : List (String × Json)} {level : Nat}
    (h : (object ms).nesting ≤ level) : ∃ inner, level = inner + 1 ∧ membersNesting ms ≤ inner := by
  have hnesting : (object ms).nesting = membersNesting ms + 1 := rfl
  exact ⟨level - 1, by omega, by omega⟩

theorem exists_level_of_array {vs : List Json} {level : Nat} (h : (array vs).nesting ≤ level) :
    ∃ inner, level = inner + 1 ∧ itemsNesting vs ≤ inner := by
  have hnesting : (array vs).nesting = itemsNesting vs + 1 := rfl
  exact ⟨level - 1, by omega, by omega⟩

def listChars : List Json → List Char
  | [] => [']']
  | v :: vs => v.chars ++ itemChars vs

def objectChars : List (String × Json) → List Char
  | [] => ['\x7d']
  | (k, v) :: ms => stringChars k ++ ':' :: v.chars ++ memberChars ms

theorem chars_array (vs : List Json) : (array vs).chars = '[' :: listChars vs := by
  cases vs <;> simp [chars, listChars]

theorem chars_object (ms : List (String × Json)) :
    (object ms).chars = '\x7b' :: objectChars ms := by
  cases ms <;> simp [chars, objectChars]

namespace Reader

variable {α β σ : Type} {item : Reader α} {v : Json} {a : α}

/-! ## Reading parts -/

/-- The reader reads the text of a document as a value, whatever stands behind it that does not go
on with a number. -/
def Reads (reader : Reader α) (v : Json) (a : α) : Prop :=
  ∀ rest, EndsNumber rest → Yields reader (v.chars ++ rest) a rest

theorem endsNumber_nil : EndsNumber [] := ⟨rfl, nofun, rfl⟩

theorem endsNumber_itemChars (vs : List Json) (rest : List Char) :
    EndsNumber (itemChars vs ++ rest) := by
  cases vs <;> exact ⟨rfl, by simp [itemChars], rfl⟩

theorem endsNumber_memberChars (ms : List (String × Json)) (rest : List Char) :
    EndsNumber (memberChars ms ++ rest) := by
  rcases ms with - | ⟨m, ms⟩ <;> exact ⟨rfl, by simp [memberChars], rfl⟩

theorem Reads.bind {next : β → Reader α} {m : Reader β} {b : β} (hm : Reads m v b)
    (hnext : ∀ rest, Yields (next b) rest a rest) : Reads (m >>= next) v a :=
  fun rest hrest => (hm rest hrest).bind (hnext rest)

theorem Reads.map (f : β → α) {m : Reader β} {b : β} (hm : Reads m v b) :
    Reads (f <$> m) v (f b) :=
  fun rest hrest => (hm rest hrest).map f

theorem Reads.ofExcept {r : β → Except Cause α} {m : Reader β} {b : β} (hm : Reads m v b)
    (hr : r b = .ok a) : Reads (m >>= fun b => ofExcept (r b)) v a :=
  hm.bind fun rest => yields_ofExcept hr rest

theorem isDigit_of_ofChar? {c : Char} {d : Digit} (h : Digit.ofChar? c = some d) :
    c.isDigit = true := by
  unfold Digit.ofChar? at h
  split at h
  · next hc => exact hc
  · cases h

/-- A text that is read as a number begins with a digit. -/
theorem Yields.exists_digit [NumberSource] {negative : Bool} {before after : List Char}
    (h : Yields (number negative) before v after) :
    ∃ c more, before = c :: more ∧ c.isDigit = true := by
  obtain ⟨t, hrun, -⟩ := h ⟨before, 1, 0⟩ rfl
  cases before with
  | nil => cases hrun
  | cons c more =>
      refine ⟨c, more, rfl, ?_⟩
      cases hdigit : Digit.ofChar? c with
      | some d => exact isDigit_of_ofChar? hdigit
      | none =>
          unfold number at hrun
          rw [bind_peek?] at hrun
          simp only [List.head?_cons, hdigit] at hrun
          cases hrun

theorem ne_of_isDigit {c : Char} (hc : c.isDigit = true) {d : Char} (hd : d.isDigit = false) :
    c ≠ d := by
  rintro rfl
  rw [hd] at hc
  cases hc

theorem isGap_of_isDigit {c : Char} (hc : c.isDigit = true) : isGap c = false := by
  have hspace := ne_of_isDigit hc (d := ' ') rfl
  have hline := ne_of_isDigit hc (d := '\n') rfl
  have htab := ne_of_isDigit hc (d := '\t') rfl
  have hreturn := ne_of_isDigit hc (d := '\r') rfl
  simp [isGap, hspace, hline, htab, hreturn]

/-- Neither with a sign nor without one does a number begin with a gap or as a list ends. -/
theorem exists_head_number {ds : List Digit} (h : Digit.Whole ds) (negative : Bool)
    (behind : List Char) :
    ∃ c more, (if negative then ['-'] else []) ++ (ds.map Digit.toChar ++ behind) = c :: more ∧
      isGap c = false ∧ c ≠ ']' := by
  cases negative with
  | true => exact ⟨'-', _, rfl, rfl, by decide⟩
  | false =>
      obtain ⟨first, more, rfl, -⟩ := h
      have hfirst := Digit.isDigit_toChar first
      exact ⟨first.toChar, _, rfl, isGap_of_isDigit hfirst, ne_of_isDigit hfirst rfl⟩

theorem exists_head_figures {f : Figures} (h : Digit.Whole f.integer) (negative : Bool) :
    ∃ c more, (if negative then ['-'] else []) ++ f.chars = c :: more ∧ isGap c = false ∧
      c ≠ ']' := by
  have hhead := exists_head_number h negative
  simpa [Figures.chars, Numeral.chars] using hhead _

/-- The text of a document begins at once, and not as a list ends. -/
theorem exists_head (h : v.Writable) :
    ∃ c more, v.chars = c :: more ∧ isGap c = false ∧ c ≠ ']' := by
  cases v with
  | null => exact ⟨'n', _, rfl, rfl, by decide⟩
  | bool b => cases b <;> exact ⟨_, _, rfl, rfl, by decide⟩
  | integer n =>
      have hhead := exists_head_number (Digit.whole_ofNat n.natAbs) (decide (n < 0)) []
      simpa [chars, integerChars] using hhead
  | real x =>
      cases x with
      | finite s x => exact exists_head_figures (legible_magnitudeFigures x).whole s
      | nan => cases h
      | infinite s => cases h
  | string s => exact ⟨'"', _, rfl, rfl, by decide⟩
  | array vs =>
      rw [chars_array]
      exact ⟨'[', _, rfl, rfl, by decide⟩
  | object ms =>
      rw [chars_object]
      exact ⟨'\x7b', _, rfl, rfl, by decide⟩

/-! ## Lists -/

theorem yields_endList (rest : List Char) : Yields endList (']' :: rest) () rest :=
  (yields_next? rfl rest).bind (yields_skip _ _)

/-- Before the closing bracket no item follows. -/
theorem yields_anotherItem_end (first : Bool) (rest : List Char) :
    Yields (anotherItem first) (']' :: rest) false (']' :: rest) :=
  (yields_next? rfl rest).bind (yields_pure false _)

theorem yields_anotherItem_first (h : v.Writable) (rest : List Char) :
    Yields (anotherItem true) (v.chars ++ rest) true (v.chars ++ rest) := by
  obtain ⟨c, more, hhead, hgap, hclosing⟩ := exists_head h
  rw [hhead, List.cons_append]
  refine (yields_next? hgap _).bind ?_
  split
  · next heq => cases heq
  · next heq => exact absurd (Option.some.inj heq) hclosing
  · exact yields_pure true _

theorem yields_anotherItem_next (h : v.Writable) (rest : List Char) :
    Yields (anotherItem false) (',' :: (v.chars ++ rest)) true (v.chars ++ rest) := by
  obtain ⟨c, more, hhead, hgap, hclosing⟩ := exists_head h
  rw [hhead, List.cons_append]
  refine (yields_next? rfl _).bind ((yields_skip _ _).bind ((yields_next? hgap _).bind ?_))
  split
  · next heq => cases heq
  · next heq => exact absurd (Option.some.inj heq) hclosing
  · exact yields_pure true _

theorem yields_itemsUpTo {vs : List Json} {as : List α} (h : List.Forall₂ (Reads item) vs as)
    (hvs : ItemsWritable vs) {fuel : Nat} (hfuel : vs.length ≤ fuel) (rest : List Char) :
    Yields (itemsUpTo item fuel false) (itemChars vs ++ rest) as (']' :: rest) := by
  induction h generalizing fuel with
  | nil =>
      cases fuel with
      | zero => exact yields_pure [] _
      | succ fuel => exact (yields_anotherItem_end false rest).bind (yields_pure [] _)
  | @cons v a vs as hv _ ih =>
      obtain ⟨fuel, rfl⟩ := Nat.exists_eq_succ_of_ne_zero
        (Nat.ne_of_gt (Nat.lt_of_lt_of_le (Nat.succ_pos _) hfuel))
      have hrest := ih hvs.2 (Nat.le_of_succ_le_succ hfuel)
      have hitem := hv _ (endsNumber_itemChars vs rest)
      simp only [itemChars, List.cons_append, List.append_assoc]
      exact (yields_anotherItem_next hvs.1 _).bind (hitem.bind (hrest.bind (yields_pure _ _)))

theorem length_le_length_itemChars (vs : List Json) : vs.length ≤ (itemChars vs).length := by
  induction vs with
  | nil => simp
  | cons v vs ih =>
      simp only [itemChars, List.length_cons, List.length_append]
      omega

/-- The items of a written list, up to its closing bracket. -/
theorem yields_items {vs : List Json} {as : List α} (h : List.Forall₂ (Reads item) vs as)
    (hvs : ItemsWritable vs) (rest : List Char) :
    Yields (items item) (listChars vs ++ rest) as (']' :: rest) := by
  refine (yields_steps _).bind ?_
  cases h with
  | nil => exact (yields_anotherItem_end true rest).bind (yields_pure [] _)
  | @cons v a vs as hv htail =>
      have hlength := length_le_length_itemChars vs
      have hitem := hv _ (endsNumber_itemChars vs rest)
      rw [listChars, List.append_assoc]
      refine (yields_anotherItem_first hvs.1 _).bind (hitem.bind ?_)
      refine (yields_itemsUpTo htail hvs.2 ?_ rest).bind (yields_pure _ _)
      simp only [List.length_append]
      omega

/-! ## Objects -/

theorem yields_endObject (rest : List Char) : Yields endObject ('\x7d' :: rest) () rest :=
  (yields_next? rfl rest).bind (yields_skip _ _)

theorem yields_colon (rest : List Char) : Yields colon (':' :: rest) () rest :=
  (yields_next? rfl rest).bind (yields_skip _ _)

/-- A reader of members takes the value so far to the next one over the colon and the text of a
member. -/
def ReadsMember (member : σ → String → Reader σ) (acc : σ) (m : String × Json) (acc' : σ) : Prop :=
  ∀ rest, EndsNumber rest → Yields (member acc m.1) (':' :: (m.2.chars ++ rest)) acc' rest

inductive ReadsMembers (member : σ → String → Reader σ) : σ → List (String × Json) → σ → Prop where
  | nil (acc : σ) : ReadsMembers member acc [] acc
  | cons {acc acc' last : σ} {m : String × Json} {ms : List (String × Json)} :
      ReadsMember member acc m acc' → ReadsMembers member acc' ms last →
        ReadsMembers member acc (m :: ms) last

theorem ReadsMember.of_colon {member : σ → String → Reader σ} {acc acc' : σ} {m : String × Json}
    {reader : Reader σ} (heq : member acc m.1 = do colon; reader) (h : Reads reader m.2 acc') :
    ReadsMember member acc m acc' := by
  intro rest hrest
  rw [heq]
  exact (yields_colon _).bind (h rest hrest)

variable {member : σ → String → Reader σ}

theorem yields_membersUpTo {acc last : σ} {ms : List (String × Json)}
    (h : ReadsMembers member acc ms last) {fuel : Nat} (hfuel : ms.length ≤ fuel)
    (rest : List Char) :
    Yields (membersUpTo member fuel false acc) (memberChars ms ++ rest) last ('\x7d' :: rest) := by
  induction h generalizing fuel with
  | nil acc =>
      cases fuel with
      | zero => exact yields_pure acc _
      | succ fuel =>
          have hend : Yields (anotherMember false) ('\x7d' :: rest) false ('\x7d' :: rest) :=
            (yields_next? rfl rest).bind (yields_pure false _)
          exact hend.bind (yields_pure acc _)
  | @cons acc acc' last m ms hm _ ih =>
      obtain ⟨fuel, rfl⟩ := Nat.exists_eq_succ_of_ne_zero
        (Nat.ne_of_gt (Nat.lt_of_lt_of_le (Nat.succ_pos _) hfuel))
      have hrest := ih (Nat.le_of_succ_le_succ hfuel)
      have hmember := hm _ (endsNumber_memberChars ms rest)
      have hanother (more : List Char) :
          Yields (anotherMember false) (',' :: '"' :: more) true ('"' :: more) :=
        (yields_next? rfl _).bind ((yields_skip _ _).bind ((yields_next? rfl _).bind
          (yields_pure true _)))
      obtain ⟨k, v⟩ := m
      simp only [memberChars, stringChars, List.cons_append, List.append_assoc, List.nil_append]
      exact (hanother _).bind ((yields_skip _ _).bind ((yields_string k _).bind
        (hmember.bind hrest)))

theorem length_le_length_memberChars (ms : List (String × Json)) :
    ms.length ≤ (memberChars ms).length := by
  induction ms with
  | nil => simp
  | cons m ms ih =>
      obtain ⟨k, v⟩ := m
      simp only [memberChars, List.length_cons, List.length_append]
      omega

/-- The members of a written object, up to its closing brace. -/
theorem yields_foldMembers {acc last : σ} {ms : List (String × Json)}
    (h : ReadsMembers member acc ms last) (rest : List Char) :
    Yields (foldMembers member acc) (objectChars ms ++ rest) last ('\x7d' :: rest) := by
  refine (yields_steps _).bind ?_
  cases h with
  | nil =>
      have hend : Yields (anotherMember true) ('\x7d' :: rest) false ('\x7d' :: rest) :=
        (yields_next? rfl rest).bind (yields_pure false _)
      exact hend.bind (yields_pure acc _)
  | @cons _ acc' _ m ms hm htail =>
      have hlength := length_le_length_memberChars ms
      have hmember := hm _ (endsNumber_memberChars ms rest)
      have hanother (more : List Char) :
          Yields (anotherMember true) ('"' :: more) true ('"' :: more) :=
        (yields_next? rfl _).bind (yields_pure true _)
      obtain ⟨k, v⟩ := m
      simp only [objectChars, stringChars, List.cons_append, List.append_assoc, List.nil_append]
      refine (hanother _).bind ((yields_skip _ _).bind ((yields_string k _).bind
        (hmember.bind (yields_membersUpTo htail ?_ rest))))
      simp only [List.length_cons, List.length_append]
      omega

/-! ## Records, maps, and parts of any shape -/

/-- A record or a map whose members are folded, from its opening brace on. -/
theorem yields_inObject {body : Nat → Reader α} {level : Nat} {before rest : List Char}
    (h : Yields (body level) before a ('\x7d' :: rest)) :
    Yields (inObject body (level + 1)) ('\x7b' :: before) a rest :=
  (yields_skip _ _).bind (yields_closedBy h (yields_endObject rest))

theorem yields_inList {body : Nat → Reader α} {level : Nat} {before rest : List Char}
    (h : Yields (body level) before a (']' :: rest)) :
    Yields (inList body (level + 1)) ('[' :: before) a rest :=
  (yields_skip _ _).bind (yields_closedBy h (yields_endList rest))

theorem readsMembers_pushMember {value : Reader Json} {ms : List (String × Json)}
    (h : ∀ m ∈ ms, Reads value m.2 m.2) (acc : List (String × Json)) :
    ReadsMembers (pushMember value) acc ms (ms.reverse ++ acc) := by
  induction ms generalizing acc with
  | nil => exact .nil acc
  | cons m ms ih =>
      have hm : ReadsMember (pushMember value) acc m (m :: acc) := fun rest hrest =>
        (yields_colon _).bind ((h m List.mem_cons_self rest hrest).bind (yields_pure _ rest))
      have hrest := ih (fun m hm => h m (List.mem_cons_of_mem _ hm)) (m :: acc)
      rw [List.reverse_cons, List.append_assoc]
      exact .cons hm hrest

theorem reads_optional_none (reader : Reader α) : Reads (optional reader) .null none :=
  fun rest _ => (yields_next? rfl _).bind ((yields_skip _ _).bind
    ((yields_word ['u', 'l', 'l'] rest).bind (yields_pure none rest)))

/-- What does not begin like `null` is read as a part. -/
theorem reads_optional_some {reader : Reader α} (h : Reads reader v a) {c : Char}
    {more : List Char} (hchars : v.chars = c :: more) (hgap : isGap c = false) (hc : c ≠ 'n') :
    Reads (optional reader) v (some a) := by
  intro rest hrest
  have hpart := h rest hrest
  rw [hchars, List.cons_append] at hpart ⊢
  refine (yields_next? hgap _).bind ?_
  split
  · next heq => exact absurd (Option.some.inj heq) hc
  · exact hpart.map some

section

variable [NumberSource]

/-- A record is read from an object if its fields are. -/
theorem reads_record {expected : String} {ofList ofObject : Nat → Reader α} {level : Nat}
    {ms : List (String × Json)}
    (h : ∀ rest, Yields (ofObject level) (objectChars ms ++ rest) a ('\x7d' :: rest)) :
    Reads (record expected ofList ofObject (level + 1)) (.object ms) a := by
  intro rest _
  rw [chars_object]
  exact (yields_next? rfl _).bind (yields_inObject (h rest))

theorem reads_map {level : Nat} {member : Nat → σ → String → Reader σ} {acc last : σ}
    {ms : List (String × Json)} (h : ReadsMembers (member level) acc ms last) :
    Reads (map member acc (level + 1)) (.object ms) last := by
  intro rest _
  rw [chars_object]
  exact (yields_next? rfl _).bind (yields_inObject (yields_foldMembers h rest))

theorem reads_list {level : Nat} {item : Nat → Reader α} {vs : List Json} {as : List α}
    (h : List.Forall₂ (Reads (item level)) vs as) (hvs : ItemsWritable vs) :
    Reads (list item (level + 1)) (.array vs) as := by
  intro rest _
  rw [chars_array]
  exact (yields_next? rfl _).bind (yields_inList (yields_items h hvs rest))

theorem reads_text (expected s : String) : Reads (text expected) (.string s) s := by
  intro rest _
  have hchars : (Json.string s).chars ++ rest =
      '"' :: (s.toList.flatMap escapeChar ++ '"' :: rest) := by
    simp [chars, stringChars]
  rw [hchars]
  exact (yields_next? rfl _).bind ((yields_skip _ _).bind (yields_string s rest))

/-- What begins neither like a list nor like an object is a scalar. -/
theorem yields_part {atList atObject : Reader Json} {c : Char} {more rest : List Char}
    (hgap : isGap c = false) (hlist : c ≠ '[') (hobject : c ≠ '\x7b')
    (h : Yields (scalar c) (c :: more) v rest) :
    Yields (part atList atObject) (c :: more) v rest := by
  refine (yields_next? hgap _).bind ?_
  split
  · next heq => cases heq
  · next heq => exact absurd (Option.some.inj heq) hlist
  · next heq => exact absurd (Option.some.inj heq) hobject
  · next heq =>
    cases heq
    exact h

/-- A number with its sign. -/
theorem yields_part_number {atList atObject : Reader Json} {negative : Bool}
    {body rest after : List Char} (h : Yields (number negative) (body ++ rest) v after) :
    Yields (part atList atObject) ((if negative then ['-'] else []) ++ body ++ rest) v after := by
  cases negative with
  | true => exact yields_part rfl (by decide) (by decide) ((yields_skip _ _).bind h)
  | false =>
      obtain ⟨c, more, hmore, hc⟩ := h.exists_digit
      simp only [Bool.false_eq_true, if_false, List.nil_append]
      rw [hmore] at h ⊢
      refine yields_part (isGap_of_isDigit hc) (ne_of_isDigit hc rfl) (ne_of_isDigit hc rfl) ?_
      unfold scalar
      rw [if_neg (ne_of_isDigit hc rfl), if_neg (ne_of_isDigit hc rfl),
        if_neg (ne_of_isDigit hc rfl), if_neg (ne_of_isDigit hc rfl), if_pos hc]
      exact h

/-- A document without brackets. -/
theorem reads_part [NumberSource.Faithful] {atList atObject : Reader Json} (h : v.Writable)
    (hnesting : v.nesting = 0) :
    Reads (part atList atObject) v v := by
  intro rest hrest
  cases v with
  | null =>
      refine yields_part rfl (by decide) (by decide) ?_
      exact (yields_skip _ _).bind ((yields_word ['u', 'l', 'l'] rest).bind (yields_pure _ rest))
  | bool b =>
      cases b with
      | true =>
          refine yields_part rfl (by decide) (by decide) ?_
          exact (yields_skip _ _).bind
            ((yields_word ['r', 'u', 'e'] rest).bind (yields_pure _ rest))
      | false =>
          refine yields_part rfl (by decide) (by decide) ?_
          exact (yields_skip _ _).bind
            ((yields_word ['a', 'l', 's', 'e'] rest).bind (yields_pure _ rest))
  | integer n =>
      have hpart : Yields (part atList atObject) _ _ rest :=
        yields_part_number (yields_integerDigits h.1 h.2 hrest)
      simpa [chars, integerChars] using hpart
  | real x =>
      cases x with
      | finite s x => exact yields_part_number (yields_magnitudeFigures s x hrest)
      | nan => cases h
      | infinite s => cases h
  | string s =>
      have hchars : (Json.string s).chars ++ rest =
          '"' :: (s.toList.flatMap escapeChar ++ '"' :: rest) := by
        simp [chars, stringChars]
      rw [hchars]
      refine yields_part rfl (by decide) (by decide) ?_
      exact (yields_skip _ _).bind ((yields_string s rest).map Json.string)
  | array vs => simp [nesting] at hnesting
  | object ms => simp [nesting] at hnesting

/-- Every document with writable numbers reads back where its brackets are not nested too deeply. -/
theorem reads_valueAt [NumberSource.Faithful] (level : Nat) {v : Json} (hv : v.Writable)
    (hlevel : v.nesting ≤ level) :
    Reads (valueAt level) v v := by
  induction level generalizing v with
  | zero => exact reads_part hv (Nat.le_zero.1 hlevel)
  | succ level ih =>
      cases v with
      | array vs =>
          intro rest _
          have hitems : List.Forall₂ (Reads (valueAt level)) vs vs :=
            List.forall₂_same.2 fun v hmem => ih (itemsWritable_iff.1 hv v hmem)
              (Nat.le_trans (nesting_le_itemsNesting hmem) (Nat.le_of_succ_le_succ hlevel))
          rw [chars_array]
          refine (yields_next? rfl _).bind ((yields_skip _ _).bind ?_)
          exact yields_closedBy ((yields_items hitems hv rest).map Json.array) (yields_endList rest)
      | object ms =>
          intro rest _
          have hvalues : ∀ m ∈ ms, Reads (valueAt level) m.2 m.2 := fun m hmem =>
            ih (membersWritable_iff.1 hv m hmem)
              (Nat.le_trans (nesting_le_membersNesting hmem) (Nat.le_of_succ_le_succ hlevel))
          have hmembers := readsMembers_pushMember hvalues []
          rw [chars_object]
          refine (yields_next? rfl _).bind ((yields_skip _ _).bind ?_)
          have hbody := (yields_foldMembers hmembers rest).map fun acc => Json.object acc.reverse
          rw [List.append_nil, List.reverse_reverse] at hbody
          exact yields_closedBy hbody (yields_endObject rest)
      | null | bool | integer | real | string => exact reads_part hv rfl

end

theorem run_of_reads {reader : Nat → Reader α} (h : Reads (reader maxDepth) v a) :
    run reader v.chars = .ok a := by
  have halone : Yields (alone (reader maxDepth)) v.chars a [] := by
    have hpart := h [] endsNumber_nil
    rw [List.append_nil] at hpart
    exact hpart.bind (yields_next?_nil.bind (yields_pure a []))
  obtain ⟨t, hrun, -⟩ := halone (Cursor.start v.chars) rfl
  unfold run
  rw [hrun]

end Reader

end Phrasebook.Json
