import Majuscule.Proofs.Scan.Spans
import Majuscule.Proofs.Text.Lines

/-!
# A text scanned in two parts

Where a character stands that belongs to no word, a text can be scanned in two parts : its
diagnostics are those of what comes before that character, followed by those of what comes after it,
moved to where that now begins (`diagnose_append_gap`). It makes no difference whether the character
is a line feed. If it is, the second part begins a new line and its columns stay; if it is not, the
first line of the second part goes on where the last line of the first part and the character end,
and the columns on that line move (`Diagnostic.translate`).

On one line the words of the two parts do not touch (`shouts_append_gap`), and the lines of the
whole are known from those of the parts, so the diagnostics of the whole are, too
(`diagnoseLines_append_gap`). What is left is arithmetic on lines and columns in 32 bits, which does
not overflow in a text that is short enough (`moves_translate`).
-/

namespace Majuscule

open Text Scan

/-! ## Moving diagnostics -/

/-- A place in a text, in a longer one where that text begins on line `n` at column `m` : only its
first line moves to the right. -/
def Position.translate (n m : Nat) (p : Position) : Position :=
  ⟨p.line + n.toUInt32, p.character + if p.line = 0 then m.toUInt32 else 0⟩

/-- A diagnostic of a text, in a longer one where that text begins on line `n` at column `m`. -/
def Diagnostic.translate (n m : Nat) (d : Diagnostic) : Diagnostic :=
  { d with range := ⟨d.range.start.translate n m, d.range.stop.translate n m⟩ }

/-- The place `q` is `n` lines further down than `p`, and if that is on the first line, `m`
columns further right. -/
structure Position.Moves (n m : Nat) (p q : Position) : Prop where
  line_eq : q.line.toNat = p.line.toNat + n
  character_eq : q.character.toNat = p.character.toNat + if p.line = 0 then m else 0

/-- Where nothing overflows, a place is moved by as much as it should. -/
theorem Position.moves_translate {n m : Nat} {p : Position} (hline : p.line.toNat + n < 2 ^ 32)
    (hcharacter : p.character.toNat + (if p.line = 0 then m else 0) < 2 ^ 32) :
    p.Moves n m (p.translate n m) := by
  have hn : n.toUInt32.toNat = n := Nat.mod_eq_of_lt (by omega)
  constructor
  · rw [translate, UInt32.toNat_add, hn]
    exact Nat.mod_eq_of_lt hline
  · unfold translate
    split at hcharacter <;> rename_i hfirst
    · have hm : m.toUInt32.toNat = m := Nat.mod_eq_of_lt (by omega)
      rw [if_pos hfirst, if_pos hfirst, UInt32.toNat_add, hm]
      exact Nat.mod_eq_of_lt hcharacter
    · rw [if_neg hfirst, if_neg hfirst, UInt32.add_zero, Nat.add_zero]

namespace Scan

/-- On the first line, moving a diagnostic is moving its word. -/
theorem translate_diagnostic_first (n m : Nat) (s : Shout) :
    (s.diagnostic 0).translate n m = (s.move m).diagnostic n := by
  have hcolumn : (m + s.column).toUInt32 = s.column.toUInt32 + m.toUInt32 := by
    rw [Nat.add_comm]
    exact UInt32.ofNat_add _ _
  have hstop : s.column.toUInt32 + m.toUInt32 + (Utf16.length s.letters).toUInt32 =
      s.column.toUInt32 + (Utf16.length s.letters).toUInt32 + m.toUInt32 := by
    rw [UInt32.add_assoc, UInt32.add_comm m.toUInt32, ← UInt32.add_assoc]
  have hzero : (0 : Nat).toUInt32 = 0 := rfl
  simp only [Diagnostic.translate, Position.translate, Shout.diagnostic, Shout.range, Shout.move,
    hcolumn, hstop, hzero, UInt32.zero_add, if_true]

/-- On a later line, a diagnostic keeps its columns. -/
theorem translate_diagnostic_later (n m : Nat) {i : Nat} (hi : 0 < i) (hi' : i < 2 ^ 32)
    (s : Shout) : (s.diagnostic i).translate n m = s.diagnostic (i + n) := by
  have hline : (i + n).toUInt32 = i.toUInt32 + n.toUInt32 := UInt32.ofNat_add _ _
  have hlater : i.toUInt32 ≠ 0 := by
    intro hzero
    have hmod : i.toUInt32.toNat = i := Nat.mod_eq_of_lt hi'
    rw [hzero] at hmod
    exact absurd hmod (by simp; omega)
  simp [Diagnostic.translate, Position.translate, Shout.diagnostic, Shout.range, hline, hlater]

theorem map_translate_later (n m : Nat) {k : Nat} {ls : List (List Char)} (hk : 0 < k)
    (hls : k + ls.length ≤ 2 ^ 32) :
    (diagnoseLines k ls).map (Diagnostic.translate n m) = diagnoseLines (k + n) ls := by
  induction ls generalizing k with
  | nil => rfl
  | cons l ls ih =>
    rw [List.length_cons] at hls
    have hfirst : (Diagnostic.translate n m) ∘ (Shout.diagnostic k) = Shout.diagnostic (k + n) :=
      funext fun s => translate_diagnostic_later n m hk (by omega) s
    rw [diagnoseLines, diagnoseLines, List.map_append, List.map_map, hfirst,
      ih (by omega) (by omega), Nat.add_right_comm]

/-- The diagnostics of a text, moved : those of its first line move with their words, and those of
the others keep their columns. -/
theorem map_translate (n m : Nat) {first : List Char} {below : List (List Char)}
    (hls : 1 + below.length ≤ 2 ^ 32) :
    (diagnoseLines 0 (first :: below)).map (Diagnostic.translate n m) =
      ((shouts first).map (Shout.move m)).map (Shout.diagnostic n) ++
        diagnoseLines (n + 1) below := by
  have hfirst : (Diagnostic.translate n m) ∘ (Shout.diagnostic 0) =
      Shout.diagnostic n ∘ Shout.move m :=
    funext fun s => translate_diagnostic_first n m s
  rw [diagnoseLines, List.map_append, List.map_map, hfirst, List.map_map,
    map_translate_later n m (by omega) hls, Nat.add_comm n]

/-! ## Two parts of a line, two parts of a text -/

/-- Words do not reach across a character that belongs to none. -/
theorem shouts_append_gap {c : Char} (hc : isWordChar c = false) (as bs : List Char) :
    shouts (as ++ c :: bs) =
      shouts as ++ (shouts bs).map (Shout.move (Utf16.length as + Utf16.width c)) := by
  have hend : NoWordAtEnd (as ++ [c]) := by simpa [NoWordAtEnd] using hc
  have hstart : NoWordAtStart [c] := by simpa [NoWordAtStart] using hc
  have hgap : shouts [c] = [] := by
    rw [shouts, pieces_cons_of_gap hc]
    rfl
  have hwidth : Utf16.length (as ++ [c]) = Utf16.length as + Utf16.width c := by
    rw [Utf16.length_append]
    rfl
  rw [List.append_cons, shouts_append (Or.inl hend), shouts_append (Or.inr hstart), hgap, hwidth]
  simp

/-- How many lines a text moves down that is put after `as` and the character `c`. -/
def linesBefore (as : List Char) (c : Char) : Nat :=
  (as ++ [c]).count '\n'

/-- How many columns the first line of a text moves to the right that is put after `as`
and the character `c`. -/
def columnsBefore (as : List Char) (c : Char) : Nat :=
  if c = '\n' then 0 else Utf16.length (lastLine as) + Utf16.width c

theorem map_move_zero (ss : List Shout) : ss.map (Shout.move 0) = ss := by
  have hid : Shout.move 0 = id := funext fun s => by simp [Shout.move]
  rw [hid, List.map_id]

/-- The diagnostics on both sides of a character that belongs to no word. -/
theorem diagnoseLines_append_gap {c : Char} (hc : isWordChar c = false) (as : List Char)
    {bs first : List Char} {below : List (List Char)} (hbs : lines bs = first :: below) :
    diagnoseLines 0 (lines (as ++ c :: bs)) =
      diagnoseLines 0 (lines as) ++
        (((shouts first).map (Shout.move (columnsBefore as c))).map
          (Shout.diagnostic (linesBefore as c)) ++
          diagnoseLines (linesBefore as c + 1) below) := by
  by_cases hfeed : c = '\n'
  · subst hfeed
    have hlines : linesBefore as '\n' = (lines as).length := by
      rw [linesBefore, List.count_append, length_lines]
      rfl
    rw [lines_append_feed, diagnoseLines_append, hbs, diagnoseLines, Nat.zero_add, hlines,
      columnsBefore, if_pos rfl, map_move_zero]
  · obtain ⟨above, hlast, -⟩ := exists_lastLine as
    have hlines : linesBefore as c = above.length := by
      have hlength := length_lines as
      rw [hlast, List.length_append, List.length_singleton] at hlength
      rw [linesBefore, List.count_append, List.count_singleton]
      simp [hfeed]
      omega
    rw [lines_append_of_ne hfeed hlast hbs, hlast, diagnoseLines_append, diagnoseLines_append,
      diagnoseLines, diagnoseLines, diagnoseLines, shouts_append_gap hc, columnsBefore,
      if_neg hfeed, hlines, Nat.zero_add, List.map_append]
    simp

/-! ## No overflow -/

theorem linesBefore_le (as : List Char) (c : Char) : linesBefore as c ≤ Utf16.length (as ++ [c]) :=
  Nat.le_trans List.count_le_length (Utf16.length_le_length _)

theorem columnsBefore_le (as : List Char) (c : Char) :
    columnsBefore as c ≤ Utf16.length (as ++ [c]) := by
  obtain ⟨above, -, has, -, -⟩ := exists_lastLine as
  have hlength := congrArg Utf16.length has
  rw [Utf16.length_append] at hlength
  rw [columnsBefore, Utf16.length_append, Utf16.length, Utf16.length]
  split <;> omega

/-- In a text that is short enough, the diagnostics of its second part are moved by
as much as they should. -/
theorem moves_translate {as bs : List Char} {c : Char}
    (hsize : Utf16.length (as ++ c :: bs) < 2 ^ 32) {d : Diagnostic}
    (hd : d ∈ diagnoseLines 0 (lines bs)) :
    d.range.start.Moves (linesBefore as c) (columnsBefore as c)
        (d.translate (linesBefore as c) (columnsBefore as c)).range.start ∧
      d.range.stop.Moves (linesBefore as c) (columnsBefore as c)
        (d.translate (linesBefore as c) (columnsBefore as c)).range.stop := by
  obtain ⟨i, line, s, hline, hs, rfl⟩ := mem_diagnoseLines_iff.mp hd
  have hplace := add_length_le_of_lines hline
  have hstop := stop_column_le hs
  have hn := linesBefore_le as c
  have hm := columnsBefore_le as c
  rw [List.append_cons, Utf16.length_append] at hsize
  obtain ⟨⟨hstartLine, hstartColumn⟩, hstopLine, hstopColumn⟩ :=
    s.toNat_range (i := 0 + i) (by omega) (by omega)
  have hrange : (s.diagnostic (0 + i)).range = s.range (0 + i) := rfl
  constructor <;> refine Position.moves_translate ?_ ?_
  · rw [hrange, hstartLine]
    omega
  · rw [hrange, hstartColumn]
    split <;> omega
  · rw [hrange, hstopLine]
    omega
  · rw [hrange, hstopColumn]
    split <;> omega

end Scan

/-- Where a character belongs to no word, the diagnostics of a text are those of what comes before
it, followed by those of what comes after it, moved to where that now begins; and they are moved by
as much as that, without overflow. -/
theorem diagnose_append_gap (a b : String) (c : Char) (hc : isWordChar c = false)
    (hsize : (Utf16.encode (a ++ String.singleton c ++ b).toList).length < 2 ^ 32) :
    diagnose (a ++ String.singleton c ++ b) =
        diagnose a ++ (diagnose b).map (Diagnostic.translate (linesBefore a.toList c)
          (columnsBefore a.toList c)) ∧
      ∀ d ∈ diagnose b,
        d.range.start.Moves (linesBefore a.toList c) (columnsBefore a.toList c)
          (d.translate (linesBefore a.toList c) (columnsBefore a.toList c)).range.start ∧
        d.range.stop.Moves (linesBefore a.toList c) (columnsBefore a.toList c)
          (d.translate (linesBefore a.toList c) (columnsBefore a.toList c)).range.stop := by
  have htext : (a ++ String.singleton c ++ b).toList = a.toList ++ c :: b.toList := by simp
  rw [htext, Utf16.length_encode] at hsize
  refine ⟨?_, fun d hd => moves_translate hsize hd⟩
  obtain ⟨first, below, hlines⟩ := List.exists_cons_of_ne_nil (lines_ne_nil b.toList)
  have hbelow : 1 + below.length ≤ 2 ^ 32 := by
    have hcount := length_lines_le b.toList
    have hlength := Utf16.length_le_length b.toList
    rw [hlines, List.length_cons] at hcount
    rw [List.append_cons, Utf16.length_append] at hsize
    omega
  rw [diagnose, diagnose, diagnose, htext, hlines, map_translate _ _ hbelow]
  exact diagnoseLines_append_gap hc a.toList hlines

/-- Of the words after the emoji, the one on its line moves by five columns and the other one keeps
its place on the next. -/
theorem diagnose_append_gap_emoji :
    isWordChar '😀' = false ∧ (Utf16.encode "HI\nOK 😀ABBA\nCD".toList).length < 2 ^ 32 ∧
      diagnose "HI\nOK 😀ABBA\nCD" =
        diagnose "HI\nOK " ++ (diagnose "ABBA\nCD").map (Diagnostic.translate 1 5) := by
  have hgap : isWordChar '😀' = false := by decide
  have hsize : (Utf16.encode "HI\nOK 😀ABBA\nCD".toList).length < 2 ^ 32 := by decide
  exact ⟨hgap, hsize, (diagnose_append_gap "HI\nOK " "ABBA\nCD" '😀' hgap hsize).1⟩

end Majuscule
