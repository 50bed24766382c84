import Phrasebook.Resource.Fault

/-!
# Where labels point

The label of a fault is found by adding up the lines in front of it, with one byte for what ends
each. That is the place of the fault as long as line feeds end the lines. A carriage return in front
of a line feed is taken off with it and not counted, so behind such lines a label stands too early,
by one byte for each of them. Wherever it stands, a label stays within its text.
-/

namespace Phrasebook

open Text (byteSize)

/-- Lines, each with a line feed behind it. -/
def endedLines (lines : List (List Char)) : List Char := lines.flatMap (· ++ ['\n'])

/-- The lines of a text in front of one of its lines, which is counted from one. -/
structure LinesBefore (text : List Char) (line : Nat) (lines : List (List Char)) : Prop where
  begins : ∃ rest, text = endedLines lines ++ rest
  length : lines.length = line - 1
  single : ∀ l ∈ lines, '\n' ∉ l

def returns (lines : List (List Char)) : Nat := lines.countP fun l => l.getLast? = some '\r'

@[simp] theorem endedLines_cons (line : List Char) (lines : List (List Char)) :
    endedLines (line :: lines) = line ++ '\n' :: endedLines lines := by simp [endedLines]

theorem returns_cons (line : List Char) (lines : List (List Char)) :
    returns (line :: lines) = returns lines + if line.getLast? = some '\r' then 1 else 0 := by
  simp [returns, List.countP_cons]

theorem Text.byteSize_append (cs ds : List Char) :
    byteSize (cs ++ ds) = byteSize cs + byteSize ds := by
  induction cs with
  | nil => simp [byteSize]
  | cons c cs ih => simp [byteSize, ih, Nat.add_assoc]

/-- In front of a line there are as many lines as line feeds. -/
theorem exists_linesBefore {text : List Char} {line : Nat} (h : line - 1 ≤ text.count '\n') :
    ∃ lines, LinesBefore text line lines := by
  generalize hn : line - 1 = n at h
  induction n generalizing text line with
  | zero => exact ⟨[], ⟨text, rfl⟩, hn.symm, by simp⟩
  | succ n ih =>
      have hmem : '\n' ∈ text := List.count_pos_iff.1 (Nat.lt_of_lt_of_le n.succ_pos h)
      obtain ⟨first, rest, rfl, hfirst⟩ := List.eq_append_cons_of_mem hmem
      have hrest : n ≤ rest.count '\n' := by
        rw [List.count_append, List.count_eq_zero_of_not_mem hfirst, List.count_cons_self] at h
        omega
      obtain ⟨lines, ⟨behind, rfl⟩, hlength, hlines⟩ := ih (n.add_sub_cancel 1) hrest
      refine ⟨first :: lines, ⟨behind, by simp⟩, ?_, List.forall_mem_cons.2 ⟨hfirst, hlines⟩⟩
      rw [List.length_cons, hlength]
      omega

theorem splitOn_endedLines {lines : List (List Char)} (hlines : ∀ l ∈ lines, '\n' ∉ l)
    (rest : List Char) : (endedLines lines ++ rest).splitOn '\n' = lines ++ rest.splitOn '\n' := by
  induction lines with
  | nil => rfl
  | cons line lines ih =>
      obtain ⟨hline, hlines⟩ := List.forall_mem_cons.1 hlines
      rw [endedLines_cons, List.append_assoc, List.cons_append,
        List.splitOn_append_cons_self_of_not_mem hline, ih hlines]
      rfl

/-- The lines of a text begin with the lines that are ended in it. -/
theorem take_textLines {lines : List (List Char)} (hlines : ∀ l ∈ lines, '\n' ∉ l)
    (rest : List Char) :
    (textLines (endedLines lines ++ rest)).take lines.length = lines.map withoutReturn := by
  have hne : (rest.splitOn '\n').reverse ≠ [] := by simp
  obtain ⟨last, before, hlast⟩ := List.exists_cons_of_ne_nil hne
  have hreverse : ((endedLines lines ++ rest).splitOn '\n').reverse =
      last :: (before ++ lines.reverse) := by
    rw [splitOn_endedLines hlines, List.reverse_append, hlast]
    rfl
  unfold textLines
  rw [hreverse]
  simp

theorem byteSize_withoutReturn (line : List Char) :
    byteSize (withoutReturn line) + (if line.getLast? = some '\r' then 1 else 0) =
      byteSize line := by
  unfold withoutReturn
  split
  · next hlast =>
    obtain ⟨front, rfl⟩ := List.getLast?_eq_some_iff.1 hlast
    rw [List.dropLast_concat, Text.byteSize_append]
    rfl
  · rfl

/-- One byte is counted for what ends a line, so of two bytes one is left out. -/
theorem foldl_byteSize_withoutReturn (lines : List (List Char)) (n : Nat) :
    (lines.map withoutReturn).foldl (fun n l => n + byteSize l + 1) n + returns lines =
      n + byteSize (endedLines lines) := by
  induction lines generalizing n with
  | nil => rfl
  | cons line lines ih =>
      have hline := byteSize_withoutReturn line
      have hrest := ih (n + byteSize (withoutReturn line) + 1)
      have hbytes : byteSize (endedLines (line :: lines)) =
          byteSize line + (1 + byteSize (endedLines lines)) := by
        rw [endedLines_cons, Text.byteSize_append]
        rfl
      rw [List.map_cons, List.foldl_cons, returns_cons, hbytes]
      omega

theorem labelAt_within (text : List Char) (line column : Nat) :
    (labelAt text line column).offset + (labelAt text line column).length ≤ byteSize text := by
  unfold labelAt
  dsimp only
  split <;> omega

/-- For each line in front that ends in a return a label stands one byte too early. -/
theorem LinesBefore.offset_labelAt {text : List Char} {line : Nat} {lines : List (List Char)}
    (h : LinesBefore text line lines) (column : Nat) :
    (labelAt text line column).offset + returns lines =
      min (byteSize (endedLines lines) + (column - 1)) (byteSize text + returns lines) := by
  obtain ⟨⟨rest, rfl⟩, hlength, hlines⟩ := h
  have hstart := foldl_byteSize_withoutReturn lines 0
  unfold labelAt
  dsimp only
  rw [← hlength, take_textLines hlines]
  omega

/-- A label never reaches beyond its text. The place of a fault is where the lines in front of it
end and the columns behind them; a label stands there, or at the end of the text, but for one byte
in front of it for each of these lines that a carriage return and a line feed end. So it points at a
place in the text exactly where no such line is in front. -/
theorem labels_lag_by_returns (text : List Char) (e : Json.Error) :
    let label := (ResourceFault.ofError text e).label
    label.offset + label.length ≤ byteSize text ∧
    (e.line - 1 ≤ text.count '\n' → ∃ lines, LinesBefore text e.line lines) ∧
    ∀ lines, LinesBefore text e.line lines →
      let place := byteSize (endedLines lines) + (e.column - 1)
      returns lines ≤ byteSize (endedLines lines) ∧
      label.offset = min (place - returns lines) (byteSize text) ∧
      (returns lines = 0 → label.offset = min place (byteSize text)) ∧
      (place ≤ byteSize text → (label.offset = place ↔ returns lines = 0)) := by
  intro label
  refine ⟨labelAt_within text e.line e.column, exists_linesBefore, fun lines h => ?_⟩
  have hoffset := h.offset_labelAt e.column
  have hreturns := foldl_byteSize_withoutReturn lines 0
  change label.offset + returns lines = _ at hoffset
  dsimp only
  omega

/-- A line feed alone is counted right. -/
theorem second_line_labelled :
    let text := "\x7b\n]".toList
    let e : Json.Error := ⟨.keyNotString, some ⟨2, 1⟩⟩
    let label := (ResourceFault.ofError text e).label
    Resource.ofText text = .error e ∧ LinesBefore text e.line ["\x7b".toList] ∧
      e.line - 1 ≤ text.count '\n' ∧ label.offset + label.length ≤ byteSize text ∧
      returns ["\x7b".toList] = 0 ∧ label.offset = byteSize (endedLines ["\x7b".toList]) := by
  intro text e label
  have hlines : LinesBefore text e.line ["\x7b".toList] := ⟨⟨"]".toList, rfl⟩, rfl, by decide⟩
  obtain ⟨hwithin, -, hplace⟩ := labels_lag_by_returns text e
  obtain ⟨-, -, -, hpoints⟩ := hplace _ hlines
  exact ⟨rfl, hlines, by decide, hwithin, rfl, (hpoints (by decide)).2 rfl⟩

/-- Behind a carriage return and a line feed the label is at the line feed, in front of the
fault. -/
theorem return_misplaces_label :
    let text := "\x7b\r\n]".toList
    let e : Json.Error := ⟨.keyNotString, some ⟨2, 1⟩⟩
    let label := (ResourceFault.ofError text e).label
    let place := byteSize (endedLines ["\x7b\r".toList]) + (e.column - 1)
    Resource.ofText text = .error e ∧ LinesBefore text e.line ["\x7b\r".toList] ∧
      place = 3 ∧ place < byteSize text ∧ label.offset = 2 ∧
      label.offset ≠ min place (byteSize text) := by
  intro text e label place
  have hlines : LinesBefore text e.line ["\x7b\r".toList] := ⟨⟨"]".toList, rfl⟩, rfl, by decide⟩
  exact ⟨rfl, hlines, by decide, by decide, by decide, by decide⟩

end Phrasebook
