import Majuscule.Proofs.Text.Utf16

/-!
# Lines of a text

A text is its lines with a line feed between them. What comes before a line is the earlier lines,
each of them ended (`ended`), and what comes after it is nothing or a line feed and the later lines
(`Continues`). A line can therefore be exchanged for another one and the other lines stay as they
are (`exists_of_lines_eq`). Two texts with a line feed between them keep their lines, and with any
other character between them just two of these become one (`lines_append_feed`,
`lines_append_of_ne`).

In a document of code units, the line with a number starts after as many line feeds (`lineStart`),
and it makes no difference whether a text is cut into lines before it is encoded or after
(`splitOn_encode`).
-/

namespace Majuscule.Text

/-! ## One line among the others -/

/-- Lines with a line feed at the end of each. -/
def ended (ls : List (List Char)) : List Char :=
  ls.flatMap (· ++ ['\n'])

theorem ended_cons (l : List Char) (ls : List (List Char)) :
    ended (l :: ls) = l ++ '\n' :: ended ls := by
  simp [ended]

/-- What may stand after a line that is followed by the lines `ls`. -/
def Continues (rest : List Char) (ls : List (List Char)) : Prop :=
  rest = [] ∧ ls = [] ∨ ∃ cs, rest = '\n' :: cs ∧ lines cs = ls

theorem lines_cons_of_ne {c : Char} (h : c ≠ '\n') (cs : List Char) :
    lines (c :: cs) = consLine c (lines cs) := by
  rw [lines, if_neg h]

theorem lines_cons_feed (cs : List Char) : lines ('\n' :: cs) = [] :: lines cs := by
  rw [lines, if_pos rfl]

/-- A line and what continues it are cut where the line ends. -/
theorem lines_of_continues {line rest : List Char} {ls : List (List Char)} (hline : '\n' ∉ line)
    (h : Continues rest ls) : lines (line ++ rest) = line :: ls := by
  induction line with
  | nil =>
    obtain ⟨rfl, rfl⟩ | ⟨cs, rfl, rfl⟩ := h
    · rfl
    · exact lines_cons_feed cs
  | cons c line ih =>
    rw [List.mem_cons, not_or] at hline
    rw [List.cons_append, lines_cons_of_ne (Ne.symm hline.1), ih hline.2]
    rfl

/-- The first line of a text is continued by the others. -/
theorem exists_of_lines_eq_cons {cs line : List Char} {ls : List (List Char)}
    (h : lines cs = line :: ls) : ∃ rest, cs = line ++ rest ∧ '\n' ∉ line ∧ Continues rest ls := by
  induction cs generalizing line with
  | nil =>
    obtain ⟨rfl, rfl⟩ := List.cons.inj h
    exact ⟨[], rfl, List.not_mem_nil, Or.inl ⟨rfl, rfl⟩⟩
  | cons c cs ih =>
    by_cases hc : c = '\n'
    · rw [hc, lines_cons_feed] at h
      obtain ⟨rfl, rfl⟩ := List.cons.inj h
      exact ⟨'\n' :: cs, by rw [hc, List.nil_append], List.not_mem_nil, Or.inr ⟨cs, rfl, rfl⟩⟩
    · obtain ⟨first, later, hlines⟩ := List.exists_cons_of_ne_nil (lines_ne_nil cs)
      rw [lines_cons_of_ne hc, hlines] at h
      obtain ⟨rfl, rfl⟩ := List.cons.inj h
      obtain ⟨rest, hcs, hfeed, hrest⟩ := ih hlines
      exact ⟨rest, by rw [hcs, List.cons_append], by simp [Ne.symm hc, hfeed], hrest⟩

theorem lines_ended_append {ls : List (List Char)} (hls : ∀ line ∈ ls, '\n' ∉ line)
    (cs : List Char) : lines (ended ls ++ cs) = ls ++ lines cs := by
  induction ls with
  | nil => rfl
  | cons l ls ih =>
    have hrest : Continues ('\n' :: (ended ls ++ cs)) (ls ++ lines cs) :=
      Or.inr ⟨_, rfl, ih fun line hline => hls line (List.mem_cons_of_mem l hline)⟩
    rw [ended_cons, List.append_assoc]
    exact lines_of_continues (hls l List.mem_cons_self) hrest

/-- A line of a text stands between the lines before it, each of them ended, and what continues
it with the later ones. -/
theorem exists_of_lines_eq {cs line : List Char} {pre post : List (List Char)}
    (h : lines cs = pre ++ line :: post) :
    ∃ rest, cs = ended pre ++ (line ++ rest) ∧ (∀ l ∈ pre, '\n' ∉ l) ∧ '\n' ∉ line ∧
      Continues rest post := by
  induction pre generalizing cs with
  | nil =>
    obtain ⟨rest, hcs, hfeed, hrest⟩ := exists_of_lines_eq_cons h
    exact ⟨rest, hcs, by simp, hfeed, hrest⟩
  | cons l pre ih =>
    obtain ⟨rest, hcs, hfeed, hrest⟩ := exists_of_lines_eq_cons h
    obtain ⟨-, hnil⟩ | ⟨cs', hcs', hlines⟩ := hrest
    · simp at hnil
    · obtain ⟨rest', hrest', hpre, hline, hcontinues⟩ := ih hlines
      refine ⟨rest', ?_, by simpa using ⟨hfeed, hpre⟩, hline, hcontinues⟩
      rw [hcs, hcs', hrest', ended_cons, List.append_assoc, List.cons_append]

theorem length_le_length_ended (ls : List (List Char)) : ls.length ≤ Utf16.length (ended ls) := by
  induction ls with
  | nil => exact Nat.le_refl 0
  | cons l ls ih =>
    have hfeed := Utf16.width_pos '\n'
    rw [ended_cons, Utf16.length_append, Utf16.length, List.length_cons]
    omega

/-- A line has as many line feeds before it as its number says. -/
theorem add_length_le_of_lines {cs line : List Char} {i : Nat} (h : (lines cs)[i]? = some line) :
    i + Utf16.length line ≤ Utf16.length cs := by
  obtain ⟨hi, rfl⟩ := List.getElem?_eq_some_iff.mp h
  have hsplit : lines cs = (lines cs).take i ++ (lines cs)[i] :: (lines cs).drop (i + 1) := by simp
  obtain ⟨rest, hcs, -, -, -⟩ := exists_of_lines_eq hsplit
  have hbefore := length_le_length_ended ((lines cs).take i)
  have hlength := congrArg Utf16.length hcs
  rw [Utf16.length_append, Utf16.length_append] at hlength
  rw [List.length_take] at hbefore
  omega

/-- There is one line more than there are line feeds. -/
theorem length_lines (cs : List Char) : (lines cs).length = cs.count '\n' + 1 := by
  induction cs with
  | nil => rfl
  | cons c cs ih =>
    by_cases hc : c = '\n'
    · rw [hc, lines_cons_feed, List.length_cons, ih, List.count_cons_self]
    · obtain ⟨first, later, hlines⟩ := List.exists_cons_of_ne_nil (lines_ne_nil cs)
      rw [hlines, List.length_cons] at ih
      rw [lines_cons_of_ne hc, hlines, consLine, List.length_cons, List.count_cons_of_ne hc, ih]

theorem length_lines_le (cs : List Char) : (lines cs).length ≤ cs.length + 1 := by
  have hfeeds := List.count_le_length (a := '\n') (l := cs)
  rw [length_lines]
  omega

/-! ## Two texts put together -/

/-- The last line of a text. -/
def lastLine (cs : List Char) : List Char :=
  (lines cs).getLast (lines_ne_nil cs)

/-- A text is the lines before its last one, each of them ended, and the last one. -/
theorem exists_lastLine (cs : List Char) :
    ∃ above, lines cs = above ++ [lastLine cs] ∧ cs = ended above ++ lastLine cs ∧
      (∀ line ∈ above, '\n' ∉ line) ∧ '\n' ∉ lastLine cs := by
  have hlines : lines cs = (lines cs).dropLast ++ [lastLine cs] :=
    (List.dropLast_concat_getLast _).symm
  obtain ⟨rest, hcs, habove, hlast, hrest⟩ := exists_of_lines_eq hlines
  obtain ⟨rfl, -⟩ | ⟨cs', -, hnil⟩ := hrest
  · rw [List.append_nil] at hcs
    exact ⟨_, hlines, hcs, habove, hlast⟩
  · exact absurd hnil (lines_ne_nil cs')

/-- With a line feed between them, two texts keep their lines. -/
theorem lines_append_feed (as bs : List Char) :
    lines (as ++ '\n' :: bs) = lines as ++ lines bs := by
  obtain ⟨above, hlines, has, habove, hlast⟩ := exists_lastLine as
  have hcut : lines (lastLine as ++ '\n' :: bs) = lastLine as :: lines bs :=
    lines_of_continues hlast (Or.inr ⟨bs, rfl, rfl⟩)
  rw [hlines, List.append_assoc, List.singleton_append, ← hcut, ← lines_ended_append habove,
    ← List.append_assoc, ← has]

/-- With another character between them, the last line of the one text and the first line of
the other become one. -/
theorem lines_append_of_ne {c : Char} (hc : c ≠ '\n') {as bs first : List Char}
    {above below : List (List Char)} (has : lines as = above ++ [lastLine as])
    (hbs : lines bs = first :: below) :
    lines (as ++ c :: bs) = above ++ (lastLine as ++ c :: first) :: below := by
  obtain ⟨above', hlines, hcs, habove, hlast⟩ := exists_lastLine as
  obtain rfl : above' = above := List.append_cancel_right (hlines.symm.trans has)
  obtain ⟨rest, hrest, hfirst, hcontinues⟩ := exists_of_lines_eq_cons hbs
  have hfeed : '\n' ∉ lastLine as ++ c :: first := by simp [hlast, hfirst, Ne.symm hc]
  have hcut : lines (lastLine as ++ c :: bs) = (lastLine as ++ c :: first) :: below := by
    rw [hrest, ← List.cons_append, ← List.append_assoc]
    exact lines_of_continues hfeed hcontinues
  rw [← hcut, ← lines_ended_append habove, ← List.append_assoc, ← hcs]

/-! ## Lines of a document -/

open Utf16

/-- Where the line with a number starts in a document : after as many line feeds. -/
def lineStart : Nat → List UInt16 → Nat
  | 0, _ => 0
  | _ + 1, [] => 0
  | n + 1, u :: us => if u = lineFeed then lineStart n us + 1 else lineStart (n + 1) us + 1

theorem lineStart_succ_append {us : List UInt16} (h : lineFeed ∉ us) (n : Nat) (vs : List UInt16) :
    lineStart (n + 1) (us ++ lineFeed :: vs) = us.length + 1 + lineStart n vs := by
  induction us with
  | nil => rw [List.nil_append, lineStart, if_pos rfl, List.length_nil, Nat.zero_add, Nat.add_comm]
  | cons u us ih =>
    rw [List.mem_cons, not_or] at h
    rw [List.cons_append, lineStart, if_neg (Ne.symm h.1), ih h.2, List.length_cons]
    omega

/-- A line starts where the lines before it, each of them ended, are over. -/
theorem lineStart_encode_ended {ls : List (List Char)} (hls : ∀ line ∈ ls, '\n' ∉ line)
    (us : List UInt16) :
    lineStart ls.length (encode (ended ls) ++ us) = Utf16.length (ended ls) := by
  induction ls with
  | nil => rw [List.length_nil, lineStart]; rfl
  | cons l ls ih =>
    have hfeed : lineFeed ∉ encode l := fun hmem =>
      hls l List.mem_cons_self (mem_encode_iff.mp hmem)
    have hrest := ih fun line hline => hls line (List.mem_cons_of_mem l hline)
    have hwidth : width '\n' = 1 := rfl
    rw [ended_cons, encode_append, encode, units_lineFeed, List.append_assoc, List.singleton_append,
      List.cons_append, List.length_cons, lineStart_succ_append hfeed, hrest, length_encode,
      length_append, Utf16.length, hwidth,
      Nat.add_assoc]

/-- The units of a text, cut at each line feed, are those of its lines. -/
theorem splitOn_encode (cs : List Char) : (encode cs).splitOn lineFeed = (lines cs).map encode := by
  induction hls : lines cs generalizing cs with
  | nil => exact absurd hls (lines_ne_nil cs)
  | cons line ls ih =>
    obtain ⟨rest, rfl, hfeed, hrest⟩ := exists_of_lines_eq_cons hls
    have hline : (encode line).splitOn lineFeed = [encode line] :=
      List.splitOn_eq_singleton fun hmem => hfeed (mem_encode_iff.mp hmem)
    obtain ⟨rfl, rfl⟩ | ⟨cs, rfl, hlines⟩ := hrest
    · rw [List.append_nil, hline]
      rfl
    · have hcut : (encode line ++ lineFeed :: encode cs).splitOn lineFeed =
          (encode line).splitOn lineFeed ++ (encode cs).splitOn lineFeed :=
        List.splitOnP_append_cons _ _ (by simp)
      rw [encode_append, encode, units_lineFeed, List.singleton_append, hcut, hline, ih cs hlines]
      rfl

end Majuscule.Text
