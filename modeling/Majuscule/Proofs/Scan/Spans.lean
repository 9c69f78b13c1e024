import Majuscule.Proofs.Scan.Search
import Majuscule.Proofs.Text.Utf16
import Mathlib.Algebra.Group.Nat.Defs

/-!
# What the scan reports

A word in capitals can be told from the characters of its line alone : `IsShoutAt cs start stop`
holds when the stretch from `start` up to `stop` has two letters or more, all of them capitals, and
no word character stands right before or right after it. The words that the scan finds in a line are
exactly these (`mem_shouts_iff`), and each of them ends before the next one starts
(`pairwise_shouts`).

Lines and columns of a diagnostic are unsigned 32-bit integers. While they are large enough for a
text (`Shout.toNat_range`), its diagnostics mark each such stretch once and nothing else (`Marks`,
`countP_marks`), and stand in the order of the text (`Precedes`, `pairwise_diagnoseLines`).
-/

namespace Majuscule.Scan

open Text

/-! ## Stretches of a line -/

/-- From `start` up to `stop` the characters of a line are two letters or more, all capitals, and no
word character stands at either side. -/
structure IsShoutAt (cs : List Char) (start stop : Nat) : Prop where
  long : start + 2 ≤ stop
  within : stop ≤ cs.length
  capitals : ∀ k c, start ≤ k → k < stop → cs[k]? = some c → 'A' ≤ c ∧ c ≤ 'Z'
  before : ∀ k c, k + 1 = start → cs[k]? = some c → isWordChar c = false
  after : ∀ c, cs[stop]? = some c → isWordChar c = false

/-- The word in a stretch of a line, with the column where it starts. -/
def shoutAt (line : List Char) (start stop : Nat) : Shout :=
  ⟨Utf16.length (line.take start), (line.take stop).drop start⟩

theorem take_append_drop_take (line : List Char) {start stop : Nat} (h : start ≤ stop) :
    line.take start ++ (line.take stop).drop start ++ line.drop stop = line := by
  have htake : line.take start = (line.take stop).take start := by
    rw [List.take_take, Nat.min_eq_left h]
  rw [htake, List.take_append_drop, List.take_append_drop]

theorem isShout_iff {w : List Char} :
    isShout w = true ↔ 2 ≤ w.length ∧ ∀ c ∈ w, isCapital c = true := by
  simp [isShout]

theorem isCapital_iff {c : Char} : isCapital c = true ↔ 'A' ≤ c ∧ c ≤ 'Z' := by
  simp [isCapital]

/-- Such a stretch is a word in capitals that runs on at neither side. -/
theorem IsShoutAt.around {line : List Char} {start stop : Nat} (h : IsShoutAt line start stop) :
    isShout (shoutAt line start stop).letters = true ∧ NoWordAtEnd (line.take start) ∧
      NoWordAtStart (line.drop stop) := by
  refine ⟨isShout_iff.mpr ⟨?_, ?_⟩, ?_, ?_⟩
  · have hlong := h.long
    have hwithin := h.within
    simp only [shoutAt, List.length_drop, List.length_take]
    omega
  · intro c hc
    obtain ⟨k, hk, hget⟩ := List.mem_iff_getElem.mp hc
    simp only [shoutAt, List.length_drop, List.length_take] at hk
    simp only [shoutAt, List.getElem_drop, List.getElem_take] at hget
    have hchar : (line)[start + k]? = some c := List.getElem?_eq_some_iff.mpr ⟨by omega, hget⟩
    exact isCapital_iff.mpr (h.capitals (start + k) c (by omega) (by omega) hchar)
  · intro c hc
    rw [List.getLast?_take] at hc
    split at hc
    · cases hc
    · next hstart =>
      have hlt : start - 1 < line.length := by have := h.long; have := h.within; omega
      rw [List.getElem?_eq_getElem hlt, Option.some_or] at hc
      exact h.before (start - 1) c (by omega) (by rw [List.getElem?_eq_getElem hlt]; exact hc)
  · intro c hc
    rw [List.head?_drop] at hc
    exact h.after c hc

/-- A word in capitals that runs on at neither side is such a stretch. -/
theorem isShoutAt_of_around {as w bs : List Char} (hw : isShout w = true) (ha : NoWordAtEnd as)
    (hb : NoWordAtStart bs) : IsShoutAt (as ++ w ++ bs) as.length (as.length + w.length) := by
  obtain ⟨hlong, hcapitals⟩ := isShout_iff.mp hw
  refine ⟨by omega, by simp, ?_, ?_, ?_⟩
  · intro k c hk hk' hget
    rw [List.append_assoc, List.getElem?_append_right hk, List.getElem?_append_left (by omega)]
      at hget
    exact isCapital_iff.mp (hcapitals c (List.mem_of_getElem? hget))
  · intro k c hk hget
    rw [List.append_assoc, List.getElem?_append_left (by omega)] at hget
    refine ha c ?_
    rw [List.getLast?_eq_getElem?, ← hk, Nat.add_sub_cancel]
    exact hget
  · intro c hget
    rw [← List.length_append, List.getElem?_append_right (Nat.le_refl _), Nat.sub_self,
      ← List.head?_eq_getElem?] at hget
    exact hb c hget

/-- The words in capitals of a line are the stretches that are told from its characters alone. -/
theorem mem_shouts_iff {line : List Char} {s : Shout} :
    s ∈ shouts line ↔ ∃ start stop, IsShoutAt line start stop ∧ s = shoutAt line start stop := by
  constructor
  · intro hs
    obtain ⟨xs, ys, hsplit⟩ := List.append_of_mem hs
    obtain ⟨as, bs, hline, hshout, ha, hb, hcolumn, -, -⟩ := exists_of_shouts_eq hsplit
    refine ⟨as.length, as.length + s.letters.length, hline ▸ isShoutAt_of_around hshout ha hb, ?_⟩
    obtain ⟨column, letters⟩ := s
    simp only at hline hcolumn
    rw [shoutAt, hline, hcolumn, List.append_assoc, List.take_left, ← List.append_assoc,
      ← List.length_append, List.take_left, List.drop_left]
  · rintro ⟨start, stop, hat, rfl⟩
    obtain ⟨hshout, ha, hb⟩ := hat.around
    have hline := take_append_drop_take line (Nat.le_trans (Nat.le_add_right start 2) hat.long)
    have hshouts := shouts_around_shout hshout ha hb
    rw [show (shoutAt line start stop).letters = (line.take stop).drop start from rfl, hline]
      at hshouts
    rw [hshouts]
    exact List.mem_append_right _ List.mem_cons_self

/-! ## Order in a line -/

theorem le_column_of_mem {n : Nat} {ps : List Piece} {s : Shout} (h : s ∈ shoutsFrom n ps) :
    n ≤ s.column := by
  have hmove : shoutsFrom n ps = (shoutsFrom 0 ps).map (Shout.move n) := shoutsFrom_add n 0 ps
  rw [hmove] at h
  obtain ⟨t, -, rfl⟩ := List.mem_map.mp h
  exact Nat.le_add_right n t.column

/-- Where no word runs on, some character stands before the first word. -/
theorem lt_column_of_mem {n : Nat} {ps : List Piece} {s : Shout} (hcut : IsCut ps)
    (hstart : NoWordAtStart (unpieces ps)) (h : s ∈ shoutsFrom n ps) : n < s.column := by
  cases hcut with
  | nil => cases h
  | @gap c ps _ _ =>
    have hle := le_column_of_mem (n := n + Utf16.width c) h
    have hpos := Utf16.width_pos c
    omega
  | @word w ps hne hw _ _ =>
    obtain ⟨c, w', rfl⟩ := List.exists_cons_of_ne_nil hne
    have hc := hstart c (by simp)
    simp [hw c (by simp)] at hc

theorem pairwise_shoutsFrom (n : Nat) {ps : List Piece} (hcut : IsCut ps) :
    (shoutsFrom n ps).Pairwise fun s t => s.column + Utf16.length s.letters < t.column := by
  induction hcut generalizing n with
  | nil => exact .nil
  | gap _ _ ih => exact ih _
  | @word w ps _ _ hstart hcut ih =>
    rw [shoutsFrom]
    split
    · exact .cons (fun t ht => lt_column_of_mem hcut hstart ht) (ih _)
    · exact ih _

/-- Each word in capitals of a line ends before the next one starts. -/
theorem pairwise_shouts (line : List Char) :
    (shouts line).Pairwise fun s t => s.column + Utf16.length s.letters < t.column :=
  pairwise_shoutsFrom 0 (isCut_pieces line)

/-! ## Diagnostics in 32 bits -/

theorem IsShoutAt.stop_column {line : List Char} {start stop : Nat}
    (h : IsShoutAt line start stop) :
    (shoutAt line start stop).column + Utf16.length (shoutAt line start stop).letters =
      Utf16.length (line.take stop) := by
  have htake : line.take start = (line.take stop).take start := by
    rw [List.take_take, Nat.min_eq_left (Nat.le_trans (Nat.le_add_right start 2) h.long)]
  rw [shoutAt, htake, ← Utf16.length_append, List.take_append_drop]

theorem stop_column_le {line : List Char} {s : Shout} (h : s ∈ shouts line) :
    s.column + Utf16.length s.letters ≤ Utf16.length line := by
  obtain ⟨start, stop, hat, rfl⟩ := mem_shouts_iff.mp h
  rw [hat.stop_column]
  exact Utf16.length_take_le stop line

/-- The diagnostic is about the stretch of line `i` from `start` up to `stop`. -/
def Marks (i : Nat) (line : List Char) (start stop : Nat) (d : Diagnostic) : Prop :=
  (d.range.start.line.toNat = i ∧ d.range.start.character.toNat = Utf16.length (line.take start)) ∧
    d.range.stop.line.toNat = i ∧ d.range.stop.character.toNat = Utf16.length (line.take stop)

instance (i : Nat) (line : List Char) (start stop : Nat) (d : Diagnostic) :
    Decidable (Marks i line start stop d) :=
  inferInstanceAs (Decidable (_ ∧ _))

/-- Small enough line numbers and columns are not cut off. -/
theorem Shout.toNat_range {i : Nat} {s : Shout} (hi : i < 2 ^ 32)
    (hs : s.column + Utf16.length s.letters < 2 ^ 32) :
    ((s.range i).start.line.toNat = i ∧ (s.range i).start.character.toNat = s.column) ∧
      (s.range i).stop.line.toNat = i ∧
      (s.range i).stop.character.toNat = s.column + Utf16.length s.letters := by
  have hcolumn : s.column.toUInt32.toNat = s.column := Nat.mod_eq_of_lt (by omega)
  have hlength : (Utf16.length s.letters).toUInt32.toNat = Utf16.length s.letters :=
    Nat.mod_eq_of_lt (by omega)
  refine ⟨⟨Nat.mod_eq_of_lt hi, hcolumn⟩, Nat.mod_eq_of_lt hi, ?_⟩
  simp only [Shout.range, UInt32.toNat_add, hcolumn, hlength]
  exact Nat.mod_eq_of_lt hs

theorem marks_diagnostic {i : Nat} {line : List Char} {start stop : Nat}
    (hat : IsShoutAt line start stop) (hi : i < 2 ^ 32) (hline : Utf16.length line < 2 ^ 32) :
    Marks i line start stop ((shoutAt line start stop).diagnostic i) := by
  have hstop := Utf16.length_take_le stop line
  have hrange := (shoutAt line start stop).toNat_range hi (by rw [hat.stop_column]; omega)
  rw [hat.stop_column] at hrange
  exact hrange

/-! ## Diagnostics of a text -/

/-- The diagnostics of some lines are the matches of the search in one line after the other. -/
theorem diagnoseLines_eq_flatMap (n : Nat) (ls : List (List Char)) :
    diagnoseLines n ls = (ls.zipIdx n).flatMap fun l =>
      (search l.1).map (Shout.diagnostic l.2) := by
  induction ls generalizing n with
  | nil => rfl
  | cons l ls ih => rw [diagnoseLines, ih, List.zipIdx_cons, List.flatMap_cons, search_eq_shouts]

theorem diagnoseLines_append (n : Nat) (ls ms : List (List Char)) :
    diagnoseLines n (ls ++ ms) = diagnoseLines n ls ++ diagnoseLines (n + ls.length) ms := by
  induction ls generalizing n with
  | nil => rfl
  | cons l ls ih =>
    rw [List.cons_append, diagnoseLines, diagnoseLines, ih, List.append_assoc, List.length_cons,
      Nat.add_assoc, Nat.add_comm 1]

theorem mem_diagnoseLines_iff {n : Nat} {ls : List (List Char)} {d : Diagnostic} :
    d ∈ diagnoseLines n ls ↔ ∃ i line s, ls[i]? = some line ∧ s ∈ shouts line ∧
      d = s.diagnostic (n + i) := by
  induction ls generalizing n with
  | nil => simp [diagnoseLines]
  | cons l ls ih =>
    rw [diagnoseLines, List.mem_append, List.mem_map, ih]
    constructor
    · rintro (⟨s, hs, rfl⟩ | ⟨i, line, s, hline, hs, rfl⟩)
      · exact ⟨0, l, s, rfl, hs, rfl⟩
      · exact ⟨i + 1, line, s, hline, hs, by rw [Nat.add_right_comm, Nat.add_assoc]⟩
    · rintro ⟨i, line, s, hline, hs, rfl⟩
      cases i with
      | zero =>
        obtain rfl : l = line := by simpa using hline
        exact Or.inl ⟨s, hs, rfl⟩
      | succ i =>
        exact Or.inr
          ⟨i, line, s, by simpa using hline, hs, by rw [Nat.add_right_comm, Nat.add_assoc]⟩

/-- A diagnostic stands before another : on an earlier line, or on the same line and over
before the other starts. -/
def Precedes (d e : Diagnostic) : Prop :=
  d.range.start.line.toNat < e.range.start.line.toNat ∨
    d.range.start.line.toNat = e.range.start.line.toNat ∧
      d.range.start.character.toNat ≤ d.range.stop.character.toNat ∧
      d.range.stop.character.toNat < e.range.start.character.toNat

/-- The diagnostics of some lines stand in the order of the text. -/
theorem pairwise_diagnoseLines {n : Nat} {ls : List (List Char)} (hn : n + ls.length ≤ 2 ^ 32)
    (hls : ∀ line ∈ ls, Utf16.length line < 2 ^ 32) : (diagnoseLines n ls).Pairwise Precedes := by
  induction ls generalizing n with
  | nil => exact .nil
  | cons l ls ih =>
    rw [List.length_cons] at hn
    have hrange : ∀ s ∈ shouts l, _ := fun s hs =>
      s.toNat_range (i := n) (by omega) (Nat.lt_of_le_of_lt (stop_column_le hs)
        (hls l List.mem_cons_self))
    refine List.pairwise_append.mpr ⟨?_, ih (by omega) fun line hline =>
      hls line (List.mem_cons_of_mem l hline), ?_⟩
    · refine List.pairwise_map.mpr (List.Pairwise.imp_of_mem ?_ (pairwise_shouts l))
      intro s t hs ht hlt
      obtain ⟨⟨hsline, hscolumn⟩, -, hsstop⟩ := hrange s hs
      obtain ⟨⟨htline, htcolumn⟩, -⟩ := hrange t ht
      simp only [Precedes, Shout.diagnostic, hsline, hscolumn, hsstop, htline, htcolumn]
      exact Or.inr ⟨trivial, Nat.le_add_right _ _, hlt⟩
    · intro d hd e he
      obtain ⟨s, hs, rfl⟩ := List.mem_map.mp hd
      obtain ⟨i, line, t, hline, ht, rfl⟩ := mem_diagnoseLines_iff.mp he
      obtain ⟨⟨hsline, -⟩, -⟩ := hrange s hs
      obtain ⟨hi, -⟩ := List.getElem?_eq_some_iff.mp hline
      have htstop := Nat.lt_of_le_of_lt (stop_column_le ht)
        (hls line (List.mem_cons_of_mem l (List.mem_of_getElem? hline)))
      obtain ⟨⟨htline, -⟩, -⟩ := t.toNat_range (i := n + 1 + i) (by omega) htstop
      simp only [Precedes, Shout.diagnostic, hsline, htline]
      omega

/-- Of two diagnostics about the same stretch, neither stands before the other. -/
theorem Marks.not_precedes {i start stop : Nat} {line : List Char} {d e : Diagnostic}
    (hd : Marks i line start stop d) (he : Marks i line start stop e) : ¬ Precedes d e := by
  obtain ⟨⟨hdline, hdstart⟩, -⟩ := hd
  obtain ⟨⟨heline, hestart⟩, -⟩ := he
  unfold Precedes
  omega

/-- In an ordered list, a stretch that is marked is marked once. -/
theorem countP_marks {ds : List Diagnostic} {i start stop : Nat} {line : List Char}
    (hds : ds.Pairwise Precedes) {d : Diagnostic} (hd : d ∈ ds)
    (hmarks : Marks i line start stop d) : ds.countP (Marks i line start stop) = 1 := by
  obtain ⟨xs, ys, rfl⟩ := List.append_of_mem hd
  obtain ⟨-, hright, hacross⟩ := List.pairwise_append.mp hds
  have hbefore : xs.countP (Marks i line start stop) = 0 := by
    refine List.countP_eq_zero.mpr fun x hx hmark => ?_
    exact Marks.not_precedes (of_decide_eq_true hmark) hmarks (hacross x hx d List.mem_cons_self)
  have hafter : ys.countP (Marks i line start stop) = 0 := by
    refine List.countP_eq_zero.mpr fun y hy hmark => ?_
    exact hmarks.not_precedes (of_decide_eq_true hmark) ((List.pairwise_cons.mp hright).1 y hy)
  rw [List.countP_append, List.countP_cons, hbefore, hafter, if_pos (decide_eq_true hmarks)]

end Majuscule.Scan

namespace Majuscule

open Text Scan

/-- The scan reports what the search finds in one line after the other. That marks each word in
capitals of the text once and nothing else, in the order of the text; on a line, each diagnostic is
over before the next one starts. -/
theorem diagnose_marks_words (text : String) (hlines : (lines text.toList).length ≤ 2 ^ 32)
    (hcolumns : ∀ line ∈ lines text.toList, Utf16.length line < 2 ^ 32) :
    diagnose text = (lines text.toList).zipIdx.flatMap (fun l =>
      (search l.1).map (Shout.diagnostic l.2)) ∧
      (∀ i line start stop, (lines text.toList)[i]? = some line → IsShoutAt line start stop →
        (diagnose text).countP (Marks i line start stop) = 1) ∧
      (∀ d ∈ diagnose text, ∃ i line start stop,
        (lines text.toList)[i]? = some line ∧ IsShoutAt line start stop ∧
        Marks i line start stop d) ∧
      (diagnose text).Pairwise (fun d e => d.range.start.line < e.range.start.line ∨
        d.range.start.line = e.range.start.line ∧
          d.range.start.character < e.range.start.character) ∧
      (diagnose text).Pairwise (fun d e => d.range.start.line = e.range.start.line →
        d.range.stop.character < e.range.start.character) := by
  have hordered : (diagnose text).Pairwise Precedes := pairwise_diagnoseLines (by omega) hcolumns
  have hmark : ∀ {i line start stop}, (lines text.toList)[i]? = some line →
      IsShoutAt line start stop →
        Marks i line start stop ((shoutAt line start stop).diagnostic i) := by
    intro i line start stop hline hat
    obtain ⟨hi, -⟩ := List.getElem?_eq_some_iff.mp hline
    exact marks_diagnostic hat (by omega) (hcolumns line (List.mem_of_getElem? hline))
  refine ⟨diagnoseLines_eq_flatMap 0 _, ?_, ?_, ?_, ?_⟩
  · intro i line start stop hline hat
    have hmem : (shoutAt line start stop).diagnostic i ∈ diagnose text :=
      mem_diagnoseLines_iff.mpr
        ⟨i, line, _, hline, mem_shouts_iff.mpr ⟨start, stop, hat, rfl⟩, by rw [Nat.zero_add]⟩
    exact countP_marks hordered hmem (hmark hline hat)
  · intro d hd
    obtain ⟨i, line, s, hline, hs, rfl⟩ := mem_diagnoseLines_iff.mp hd
    obtain ⟨start, stop, hat, rfl⟩ := mem_shouts_iff.mp hs
    rw [Nat.zero_add]
    exact ⟨i, line, start, stop, hline, hat, hmark hline hat⟩
  · refine hordered.imp fun {d e} h => ?_
    simp only [Precedes] at h
    rw [UInt32.lt_iff_toNat_lt, UInt32.lt_iff_toNat_lt, ← UInt32.toNat_inj]
    omega
  · refine hordered.imp fun {d e} h => ?_
    simp only [Precedes] at h
    rw [UInt32.lt_iff_toNat_lt, ← UInt32.toNat_inj]
    omega

theorem diagnose_marks_words_after_emoji :
    (diagnose "say HI\n😀 ABBA!").countP (Marks 1 "😀 ABBA!".toList 2 6) = 1 := by
  have hat : IsShoutAt ("😀 ".toList ++ "ABBA".toList ++ "!".toList) 2 6 :=
    isShoutAt_of_around (by decide) (by simp [NoWordAtEnd]; decide)
      (by simp [NoWordAtStart]; decide)
  exact (diagnose_marks_words "say HI\n😀 ABBA!" (by decide) (by decide)).2.1 1 _ 2 6 (by decide) hat

end Majuscule
