import Majuscule.Command
import Majuscule.Proofs.Scan.Spans
import Majuscule.Proofs.Text.Lines
import Mathlib.Data.List.Forall2

/-!
# A quick fix removes its own problem

An editor holds a document as UTF-16 code units and applies an edit to it by offsets
(`TextEdit.applyTo`). The edit of a quick fix replaces the word of one diagnostic; this module
follows the text through it and scans the text again.

`Site` is a place in a text where a word in capitals stands, with the proofs that it is a word and a
place of its own. Each diagnostic of a text has one (`exists_site`). With the word or with another
one in its place, the text is scanned in the same way before and after (`Site.diagnose_word`,
`Site.diagnose_other`), and what comes later on the line has moved by the difference of the two
words (`Site.follows`). The edit puts the other word there, and nothing else changes
(`Site.applyTo`).
-/

namespace Majuscule

open Text Scan

/-! ## Edits of a document -/

/-- The offset of a position in a document of UTF-16 code units. -/
def Position.offset (p : Position) (document : List UInt16) : Nat :=
  lineStart p.line.toNat document + p.character.toNat

/-- The document after an edit : the code units in its range give way to those of the new text. -/
def TextEdit.applyTo (e : TextEdit) (document : List UInt16) : List UInt16 :=
  document.take (e.range.start.offset document) ++ Utf16.encode e.newText.toList ++
    document.drop (e.range.stop.offset document)

namespace Scan

/-! ## One diagnostic among the others -/

/-- A diagnostic of some lines belongs to a word in capitals of one of them, and its neighbours in
the list to the words around that one. -/
theorem exists_of_diagnoseLines_eq {n : Nat} {ls : List (List Char)} {ds es : List Diagnostic}
    {d : Diagnostic} (h : diagnoseLines n ls = ds ++ d :: es) :
    ∃ above line below xs s ys, ls = above ++ line :: below ∧ shouts line = xs ++ s :: ys ∧
      d = s.diagnostic (n + above.length) ∧
      ds = diagnoseLines n above ++ xs.map (Shout.diagnostic (n + above.length)) ∧
      es = ys.map (Shout.diagnostic (n + above.length)) ++
        diagnoseLines (n + above.length + 1) below := by
  induction ls generalizing n ds with
  | nil => simp [diagnoseLines] at h
  | cons l ls ih =>
    -- The diagnostic is one of the first line, or the list of the first line is over before it.
    have hcases :
        (∃ fs, (shouts l).map (Shout.diagnostic n) = ds ++ d :: fs ∧
          es = fs ++ diagnoseLines (n + 1) ls) ∨
        ∃ fs, ds = (shouts l).map (Shout.diagnostic n) ++ fs ∧
          diagnoseLines (n + 1) ls = fs ++ d :: es := by
      rw [diagnoseLines] at h
      obtain ⟨fs, hds, hrest⟩ | ⟨fs, hfirst, hrest⟩ := List.append_eq_append_iff.mp h
      · exact Or.inr ⟨fs, hds, hrest⟩
      · cases fs with
        | nil => exact Or.inr ⟨[], by simpa using hfirst.symm, hrest.symm⟩
        | cons f fs =>
          obtain ⟨rfl, hes⟩ := List.cons.inj hrest
          exact Or.inl ⟨fs, hfirst, hes⟩
    obtain ⟨fs, hfirst, hes⟩ | ⟨fs, hds, hrest⟩ := hcases
    · obtain ⟨xs, tail, hshouts, hxs, htail⟩ := List.map_eq_append_iff.mp hfirst
      obtain ⟨s, ys, rfl, hs, hys⟩ := List.map_eq_cons_iff.mp htail
      exact ⟨[], l, ls, xs, s, ys, rfl, hshouts, hs.symm, hxs.symm, by rw [hes, ← hys]; rfl⟩
    · obtain ⟨above, line, below, xs, s, ys, rfl, hshouts, hd, hfs, hes⟩ := ih hrest
      refine ⟨l :: above, line, below, xs, s, ys, rfl, hshouts, ?_, ?_, ?_⟩
      · rw [hd, List.length_cons, Nat.add_assoc, Nat.add_comm 1]
      · rw [hds, hfs, diagnoseLines, List.append_assoc, List.length_cons, Nat.add_assoc,
          Nat.add_comm 1]
      · rw [hes, List.length_cons, Nat.add_assoc, Nat.add_comm 1]

/-! ## The place of a word -/

/-- A place in a text where a word in capitals stands : the lines above it, what is left and right
of the word on its line, and what continues that line with the lines below. -/
structure Site where
  above : List (List Char)
  left : List Char
  word : List Char
  right : List Char
  rest : List Char
  below : List (List Char)
  feed_above : ∀ line ∈ above, '\n' ∉ line
  feed_left : '\n' ∉ left
  feed_right : '\n' ∉ right
  capitals : isShout word = true
  end_left : NoWordAtEnd left
  start_right : NoWordAtStart right
  continues : Continues rest below

namespace Site

variable (s : Site)

/-- The text with some word at the site. -/
def text (w : List Char) : List Char :=
  ended s.above ++ (s.left ++ w ++ s.right ++ s.rest)

/-- The word in capitals, where it stands on its line. -/
def shout : Shout :=
  ⟨Utf16.length s.left, s.word⟩

/-- The diagnostic for the word. -/
def problem : Diagnostic :=
  s.shout.diagnostic s.above.length

/-- The diagnostics before that for the word. -/
def earlier : List Diagnostic :=
  diagnoseLines 0 s.above ++ (shouts s.left).map (Shout.diagnostic s.above.length)

/-- The words in capitals on the line right of a word that takes `width` columns. -/
def beside (width : Nat) : List Shout :=
  (shouts s.right).map (Shout.move (Utf16.length s.left + width))

/-- The diagnostics after a word that takes `width` columns. -/
def later (width : Nat) : List Diagnostic :=
  (s.beside width).map (Shout.diagnostic s.above.length) ++
    diagnoseLines (s.above.length + 1) s.below

theorem feed_word : '\n' ∉ s.word := by
  intro hmem
  exact absurd ((word_of_isShout s.capitals).2 '\n' hmem) (by decide)

theorem lines_text {w : List Char} (hw : '\n' ∉ w) :
    lines (s.text w) = s.above ++ (s.left ++ w ++ s.right) :: s.below := by
  have hfeed : '\n' ∉ s.left ++ w ++ s.right := by simp [s.feed_left, hw, s.feed_right]
  rw [text, lines_ended_append s.feed_above, lines_of_continues hfeed s.continues]

theorem diagnose_text {w : List Char} (hw : '\n' ∉ w) :
    diagnose (String.ofList (s.text w)) = diagnoseLines 0 s.above ++
      ((shouts (s.left ++ w ++ s.right)).map (Shout.diagnostic s.above.length) ++
        diagnoseLines (s.above.length + 1) s.below) := by
  rw [diagnose, String.toList_ofList, s.lines_text hw, diagnoseLines_append, Nat.zero_add,
    diagnoseLines]

/-- With the word in its place, its diagnostic stands between the earlier and the later ones. -/
theorem diagnose_word :
    diagnose (String.ofList (s.text s.word)) =
      s.earlier ++ s.problem :: s.later (Utf16.length s.word) := by
  rw [s.diagnose_text s.feed_word, shouts_around_shout s.capitals s.end_left s.start_right,
    List.map_append, List.map_cons, earlier, later, beside, problem, shout]
  simp

/-- With a word that is not in capitals in its place, there are the earlier and the
later diagnostics only. -/
theorem diagnose_other {w : List Char} (hne : w ≠ []) (hword : ∀ c ∈ w, isWordChar c = true)
    (hw : isShout w = false) :
    diagnose (String.ofList (s.text w)) = s.earlier ++ s.later (Utf16.length w) := by
  have hfeed : '\n' ∉ w := fun hmem => absurd (hword '\n' hmem) (by decide)
  rw [s.diagnose_text hfeed, shouts_around_word hne hword hw s.end_left s.start_right,
    List.map_append, earlier, later, beside]
  simp

end Site

/-- Each diagnostic of a text has its site. -/
theorem exists_site {text : String} {k : Nat} {d : Diagnostic} (hd : (diagnose text)[k]? = some d) :
    ∃ s : Site, text.toList = s.text s.word ∧ s.problem = d ∧ s.earlier.length = k := by
  obtain ⟨hk, rfl⟩ := List.getElem?_eq_some_iff.mp hd
  have hsplit : diagnose text =
      (diagnose text).take k ++ (diagnose text)[k] :: (diagnose text).drop (k + 1) := by simp
  obtain ⟨above, line, below, xs, t, ys, hlines, hshouts, hproblem, hearlier, -⟩ :=
    exists_of_diagnoseLines_eq hsplit
  obtain ⟨rest, htext, hfeedAbove, hfeed, hcontinues⟩ := exists_of_lines_eq hlines
  obtain ⟨left, right, hline, hcapitals, hend, hstart, hcolumn, rfl, -⟩ :=
    exists_of_shouts_eq hshouts
  rw [hline, List.mem_append, List.mem_append, not_or, not_or] at hfeed
  rw [Nat.zero_add] at hproblem hearlier
  refine ⟨⟨above, left, t.letters, right, rest, below, hfeedAbove, hfeed.1.1, hfeed.2, hcapitals,
    hend, hstart, hcontinues⟩, ?_, ?_, ?_⟩
  · rw [htext, hline]
    rfl
  · rw [hproblem, Site.problem, Site.shout, ← hcolumn]
  · rw [Site.earlier, ← hearlier, List.length_take, Nat.min_eq_left (Nat.le_of_lt hk)]

/-! ## The text is short enough -/

theorem two_le_length_of_isShout {w : List Char} (h : isShout w = true) : 2 ≤ Utf16.length w :=
  Nat.le_trans (isShout_iff.mp h).1 (Utf16.length_le_length w)

namespace Site

variable (s : Site)

/-- The size of a text bounds the number of its lines and the columns of the word's line. -/
theorem bounds {n : Nat} (hsize : Utf16.length (s.text s.word) < n) :
    s.above.length + s.below.length < n ∧
      Utf16.length s.left + Utf16.length s.word + Utf16.length s.right < n := by
  have hlines := length_lines_le (s.text s.word)
  have hlength := Utf16.length_le_length (s.text s.word)
  rw [s.lines_text s.feed_word, List.length_append, List.length_cons] at hlines
  refine ⟨by omega, ?_⟩
  rw [text, Utf16.length_append, Utf16.length_append, Utf16.length_append, Utf16.length_append]
    at hsize
  omega

theorem toNat_problem_range (hsize : Utf16.length (s.text s.word) < 2 ^ 32 - 1) :
    (s.problem.range.start.line.toNat = s.above.length ∧
      s.problem.range.start.character.toNat = Utf16.length s.left) ∧
      s.problem.range.stop.line.toNat = s.above.length ∧
        s.problem.range.stop.character.toNat = Utf16.length s.left + Utf16.length s.word := by
  obtain ⟨hlines, hcolumns⟩ := s.bounds hsize
  exact s.shout.toNat_range (by omega) (by simp only [shout]; omega)

/-- The edit of the word's range puts the new text in its place. -/
theorem applyTo (hsize : Utf16.length (s.text s.word) < 2 ^ 32 - 1) (new : String) :
    TextEdit.applyTo ⟨s.problem.range, new⟩ (Utf16.encode (s.text s.word)) =
      Utf16.encode (s.text new.toList) := by
  obtain ⟨⟨hstartLine, hstart⟩, hstopLine, hstop⟩ := s.toNat_problem_range hsize
  have hdocument : ∀ w, Utf16.encode (s.text w) =
      Utf16.encode (ended s.above ++ s.left) ++
        (Utf16.encode w ++ Utf16.encode (s.right ++ s.rest)) := by
    intro w
    simp [text, Utf16.encode_append]
  have hlineStart : lineStart s.above.length (Utf16.encode (s.text s.word)) =
      Utf16.length (ended s.above) := by
    rw [text, Utf16.encode_append]
    exact lineStart_encode_ended s.feed_above _
  have hstartOffset : s.problem.range.start.offset (Utf16.encode (s.text s.word)) =
      (Utf16.encode (ended s.above ++ s.left)).length := by
    rw [Position.offset, hstartLine, hstart, hlineStart, Utf16.length_encode, Utf16.length_append]
  have hstopOffset : s.problem.range.stop.offset (Utf16.encode (s.text s.word)) =
      (Utf16.encode (ended s.above ++ s.left) ++ Utf16.encode s.word).length := by
    rw [Position.offset, hstopLine, hstop, hlineStart, List.length_append, Utf16.length_encode,
      Utf16.length_encode, Utf16.length_append, Nat.add_assoc]
  rw [TextEdit.applyTo, hstartOffset, hstopOffset, hdocument s.word, hdocument new.toList,
    List.take_left, ← List.append_assoc (Utf16.encode (ended s.above ++ s.left)), List.drop_left,
    List.append_assoc]

end Site

/-! ## What becomes of the later problems -/

/-- A column moved by as much as a line grows when three code units take the place of a range. -/
def MovedColumn (r : Range) (c c' : UInt32) : Prop :=
  (c'.toNat : Int) = c.toNat + (3 - ((r.stop.character.toNat : Int) - r.start.character.toNat))

/-- What becomes of a later diagnostic when the word at a range is fixed : on the line of that word
both columns move, and nothing else changes. -/
def Follows (r : Range) (d d' : Diagnostic) : Prop :=
  if d.range.start.line = r.start.line then
    ∃ start stop, MovedColumn r d.range.start.character start ∧
      MovedColumn r d.range.stop.character stop ∧
      d' = { d with range := ⟨⟨d.range.start.line, start⟩, ⟨d.range.stop.line, stop⟩⟩ }
  else d' = d

namespace Site

variable (s : Site)

theorem follows_beside (hsize : Utf16.length (s.text s.word) < 2 ^ 32 - 1) {t : Shout}
    (ht : t ∈ shouts s.right) :
    Follows s.problem.range
      ((t.move (Utf16.length s.left + Utf16.length s.word)).diagnostic s.above.length)
      ((t.move (Utf16.length s.left + 3)).diagnostic s.above.length) := by
  obtain ⟨hlines, hcolumns⟩ := s.bounds hsize
  obtain ⟨⟨-, hstart⟩, -, hstop⟩ := s.toNat_problem_range hsize
  have hword := two_le_length_of_isShout s.capitals
  have hright := stop_column_le ht
  -- The text grows by one code unit at most, so the columns fit after the fix as well.
  obtain ⟨⟨-, hold⟩, -, hold'⟩ :=
    (t.move (Utf16.length s.left + Utf16.length s.word)).toNat_range (i := s.above.length)
      (by omega) (by simp only [Shout.move]; omega)
  obtain ⟨⟨-, hnew⟩, -, hnew'⟩ :=
    (t.move (Utf16.length s.left + 3)).toNat_range (i := s.above.length)
      (by omega) (by simp only [Shout.move]; omega)
  have hline : ((t.move (Utf16.length s.left + Utf16.length s.word)).diagnostic
      s.above.length).range.start.line = s.problem.range.start.line := rfl
  rw [Follows, if_pos hline]
  refine ⟨((t.move (Utf16.length s.left + 3)).range s.above.length).start.character,
    ((t.move (Utf16.length s.left + 3)).range s.above.length).stop.character, ?_, ?_, rfl⟩
  · simp only [MovedColumn, Shout.diagnostic, hstart, hstop, hold, hnew]
    simp only [Shout.move]
    omega
  · simp only [MovedColumn, Shout.diagnostic, hstart, hstop, hold', hnew']
    simp only [Shout.move]
    omega

theorem follows_below (hsize : Utf16.length (s.text s.word) < 2 ^ 32 - 1) {d : Diagnostic}
    (hd : d ∈ diagnoseLines (s.above.length + 1) s.below) : Follows s.problem.range d d := by
  obtain ⟨hlines, -⟩ := s.bounds hsize
  obtain ⟨⟨hline, -⟩, -⟩ := s.toNat_problem_range hsize
  obtain ⟨i, line, t, hget, -, rfl⟩ := mem_diagnoseLines_iff.mp hd
  obtain ⟨hi, -⟩ := List.getElem?_eq_some_iff.mp hget
  have hother : (t.diagnostic (s.above.length + 1 + i)).range.start.line.toNat =
      s.above.length + 1 + i :=
    Nat.mod_eq_of_lt (by omega)
  rw [Follows, if_neg]
  intro heq
  rw [← UInt32.toNat_inj, hline, hother] at heq
  omega

/-- The later diagnostics move by the difference between the word and three code
units, on its line only. -/
theorem follows (hsize : Utf16.length (s.text s.word) < 2 ^ 32 - 1) :
    List.Forall₂ (Follows s.problem.range) (s.later (Utf16.length s.word)) (s.later 3) := by
  refine List.rel_append ?_ (List.forall₂_same.mpr fun d hd => s.follows_below hsize hd)
  rw [List.forall₂_map_left_iff, List.forall₂_map_right_iff, beside, beside,
    List.forall₂_map_left_iff, List.forall₂_map_right_iff]
  exact List.forall₂_same.mpr fun t ht => s.follows_beside hsize ht

end Site
end Scan

/-- What the command puts in the place of a word is a word, and not one in capitals. -/
theorem Command.word_replacement :
    replacement.toList ≠ [] ∧ (∀ c ∈ replacement.toList, isWordChar c = true) ∧
      isShout replacement.toList = false :=
  ⟨by decide, List.all_eq_true.mp (by decide), by decide⟩

/-- The edit that the command proposes for the `k`-th problem of a text removes that problem and no
other. The edited document is a text again; it has the earlier problems of the first one, and then
the later ones, moved if they stand on the line of the edit. -/
theorem lowerCase_removes_problem (uri : Url) (text : String)
    (hsize : Utf16.length text.toList < 2 ^ 32 - 1) (k : Nat) (d : Diagnostic)
    (hd : (diagnose text)[k]? = some d) :
    ∃ e text' later, (Command.lowerCase uri d.range).edit.changes = [(uri, [e])] ∧
      (∀ t : String, Utf16.encode t.toList = e.applyTo (Utf16.encode text.toList) ↔ t = text') ∧
      diagnose text' = (diagnose text).take k ++ later ∧
      List.Forall₂ (Follows d.range) ((diagnose text).drop (k + 1)) later ∧
      (diagnose text').length + 1 = (diagnose text).length := by
  obtain ⟨s, htext, rfl, rfl⟩ := exists_site hd
  rw [htext] at hsize
  obtain ⟨hne, hword, hlower⟩ := Command.word_replacement
  have hscan : diagnose text = s.earlier ++ s.problem :: s.later (Utf16.length s.word) := by
    rw [← s.diagnose_word, ← htext, String.ofList_toList]
  have hfixed : diagnose (String.ofList (s.text Command.replacement.toList)) =
      s.earlier ++ s.later 3 :=
    s.diagnose_other hne hword hlower
  have hfollows := s.follows hsize
  refine ⟨⟨s.problem.range, Command.replacement⟩, String.ofList (s.text Command.replacement.toList),
    s.later 3, rfl, ?_, ?_, ?_, ?_⟩
  · intro t
    rw [htext, s.applyTo hsize, Utf16.encode_inj, ← String.toList_inj, String.toList_ofList]
  · rw [hfixed, hscan, List.take_left]
  · rw [hscan, List.drop_append, List.drop_eq_nil_of_le (Nat.le_add_right _ 1),
      Nat.add_sub_cancel_left]
    exact hfollows
  · rw [hfixed, hscan, List.length_append, List.length_append, List.length_cons, hfollows.length_eq,
      Nat.add_assoc]

theorem lowerCase_removes_problem_after_emoji :
    Utf16.length "😀 ABBA CD".toList < 2 ^ 32 - 1 ∧
      (diagnose "😀 ABBA CD")[0]? = some (Shout.diagnostic 0 ⟨3, "ABBA".toList⟩) ∧
      ∃ text' later, Utf16.encode text'.toList =
          TextEdit.applyTo ⟨⟨⟨0, 3⟩, ⟨0, 7⟩⟩, "foo"⟩ (Utf16.encode "😀 ABBA CD".toList) ∧
        diagnose text' = later ∧
        List.Forall₂ (Follows ⟨⟨0, 3⟩, ⟨0, 7⟩⟩) [Shout.diagnostic 0 ⟨8, "CD".toList⟩] later := by
  have hsize : Utf16.length "😀 ABBA CD".toList < 2 ^ 32 - 1 := by decide
  have hfirst : (diagnose "😀 ABBA CD")[0]? = some (Shout.diagnostic 0 ⟨3, "ABBA".toList⟩) := rfl
  obtain ⟨e, text', later, hedit, htext, hproblems, hfollows, -⟩ :=
    lowerCase_removes_problem ⟨"file:///a"⟩ "😀 ABBA CD" hsize 0 _ hfirst
  obtain ⟨⟨-, rfl, -⟩, -⟩ : _ ∧ _ := by
    simpa only [Command.edit, List.cons.injEq, Prod.mk.injEq] using hedit
  exact ⟨hsize, hfirst, text', later, (htext text').mpr rfl, hproblems, hfollows⟩

end Majuscule
