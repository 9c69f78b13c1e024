import Majuscule.Proofs.Scan.QuickFix
import Mathlib.Data.List.SplitBy

/-!
# All quick fixes of a text

An editor may take the quick fixes for all problems of a text at once and apply their edits one
after the other. Their ranges come from one scan of the text before, and each edit makes its line
longer or shorter, so the order matters : on each line a later range has to be edited before an
earlier one (`LaterFirst`). Between lines any order will do, and all of them end with the same text,
in which each word in capitals is replaced and which has no problem left (`applyAll_fixes`).

That text is `lowered`, which knows nothing of lines, columns or diagnostics. `FixOrder` is what
holds between the edits : those left to apply are the fixes of the text as it is now, and it is
short enough. The first of them has no other one to its right on its line, so it moves none of the
others (`FixOrder.shouts_right_eq_nil`), and these are the fixes of the text after it
(`FixOrder.step`).
-/

namespace Majuscule

open Text Scan

namespace Scan

/-! ## The text with its words in capitals replaced -/

/-- A text as its runs of word characters, each of them as long as can be, and its other
characters one by one. -/
def runs (cs : List Char) : List (List Char) :=
  cs.splitBy fun c d => isWordChar c && isWordChar d

/-- The text with each run of two capitals or more replaced. -/
def lowered (cs : List Char) : List Char :=
  (runs cs).flatMap fun run => if isShout run then Command.replacement.toList else run

/-- Where no word runs on, both sides are replaced on their own. -/
theorem lowered_append {as bs : List Char} (h : NoWordAtEnd as ∨ NoWordAtStart bs) :
    lowered (as ++ bs) = lowered as ++ lowered bs := by
  have hruns : runs (as ++ bs) = runs as ++ runs bs := by
    refine List.splitBy_append fun c hc d hd => ?_
    obtain hend | hstart := h
    · rw [hend c hc, Bool.false_and]
    · rw [hstart d hd, Bool.and_false]
  rw [lowered, hruns, List.flatMap_append]
  rfl

/-- A word is one run. -/
theorem lowered_word {w : List Char} (hne : w ≠ []) (hword : ∀ c ∈ w, isWordChar c = true) :
    lowered w = if isShout w then Command.replacement.toList else w := by
  have hchain : w.IsChain fun c d => (isWordChar c && isWordChar d) = true := by
    refine List.Pairwise.isChain (List.pairwise_of_forall_mem_list fun c hc d hd => ?_)
    rw [hword c hc, hword d hd, Bool.and_true]
  rw [lowered, runs, List.splitBy_of_isChain hne hchain, List.flatMap_singleton]

theorem lowered_around_word {as w bs : List Char} (hne : w ≠ [])
    (hword : ∀ c ∈ w, isWordChar c = true) (ha : NoWordAtEnd as) (hb : NoWordAtStart bs) :
    lowered (as ++ w ++ bs) =
      lowered as ++ (if isShout w then Command.replacement.toList else w) ++ lowered bs := by
  rw [lowered_append (Or.inr hb), lowered_append (Or.inl ha), lowered_word hne hword]

/-- A text without words in capitals stays as it is. -/
theorem lowered_unpieces {ps : List Piece} (h : IsCut ps)
    (hps : ∀ w, .word w ∈ ps → isShout w = false) : lowered (unpieces ps) = unpieces ps := by
  induction h with
  | nil => rfl
  | @gap c ps hc _ ih =>
    have hgap : NoWordAtEnd [c] := by simpa [NoWordAtEnd] using hc
    have hrest := ih fun w hw => hps w (List.mem_cons_of_mem _ hw)
    rw [unpieces_gap, ← List.singleton_append, lowered_append (Or.inl hgap), hrest]
    rfl
  | @word w ps hne hw hstart _ ih =>
    have hlower := hps w List.mem_cons_self
    have hrest := ih fun v hv => hps v (List.mem_cons_of_mem _ hv)
    rw [unpieces_word, lowered_append (Or.inr hstart), lowered_word hne hw, hlower, hrest]
    rfl

/-! ## Sites in the whole text -/

theorem isWordChar_feed : isWordChar '\n' = false := by
  decide

theorem noWordAtEnd_ended (ls : List (List Char)) : NoWordAtEnd (ended ls) := by
  obtain rfl | ⟨ls, l, rfl⟩ := List.eq_nil_or_concat ls
  · simp [ended, NoWordAtEnd]
  · simpa [ended, NoWordAtEnd] using isWordChar_feed

namespace Site

variable (s : Site)

/-- Around the word of a site, a text has the earlier and the later diagnostics. -/
theorem diagnose_eq {text : String} (h : text.toList = s.text s.word) :
    diagnose text = s.earlier ++ s.problem :: s.later (Utf16.length s.word) := by
  rw [← s.diagnose_word, ← h, String.ofList_toList]

/-- No word runs on from the text before the word, in which the lines above are ended. -/
theorem end_before : NoWordAtEnd (ended s.above ++ s.left) := by
  by_cases hleft : s.left = []
  · rw [hleft, List.append_nil]
    exact noWordAtEnd_ended s.above
  · exact (noWordAtEnd_append hleft).mpr s.end_left

/-- No word runs on into the text after the word, where at most a line feed comes after its line. -/
theorem start_after : NoWordAtStart (s.right ++ s.rest) := by
  by_cases hright : s.right = []
  · rw [hright, List.nil_append]
    obtain ⟨hrest, -⟩ | ⟨cs, hrest, -⟩ := s.continues
    · simp [hrest, NoWordAtStart]
    · simpa [hrest, NoWordAtStart] using isWordChar_feed
  · exact (noWordAtStart_append hright).mpr s.start_right

theorem text_eq (w : List Char) :
    s.text w = ended s.above ++ s.left ++ w ++ (s.right ++ s.rest) := by
  simp [text]

/-- It makes no difference whether the word at a site has been replaced already. -/
theorem lowered_replacement :
    lowered (s.text Command.replacement.toList) = lowered (s.text s.word) := by
  obtain ⟨hne, hword, hlower⟩ := Command.word_replacement
  obtain ⟨hne', hword'⟩ := word_of_isShout s.capitals
  rw [text_eq, text_eq, lowered_around_word hne hword s.end_before s.start_after,
    lowered_around_word hne' hword' s.end_before s.start_after, hlower, s.capitals]
  rfl

end Site

/-- Each word in capitals of a text has its site. -/
theorem exists_site_of_around {as w bs : List Char} (hw : isShout w = true) (ha : NoWordAtEnd as)
    (hb : NoWordAtStart bs) : ∃ s : Site, s.text s.word = as ++ w ++ bs := by
  obtain ⟨above, -, has, habove, hlast⟩ := exists_lastLine as
  obtain ⟨first, below, hlines⟩ := List.exists_cons_of_ne_nil (lines_ne_nil bs)
  obtain ⟨rest, hbs, hfirst, hcontinues⟩ := exists_of_lines_eq_cons hlines
  have hend : NoWordAtEnd (lastLine as) := by
    by_cases hnil : lastLine as = []
    · simp [hnil, NoWordAtEnd]
    · exact (noWordAtEnd_append hnil).mp (has ▸ ha)
  have hstart : NoWordAtStart first := by
    by_cases hnil : first = []
    · simp [hnil, NoWordAtStart]
    · exact (noWordAtStart_append hnil).mp (hbs ▸ hb)
  refine ⟨⟨above, lastLine as, w, first, rest, below, habove, hlast, hfirst, hw, hend, hstart,
    hcontinues⟩, ?_⟩
  rw [Site.text_eq, ← has, ← hbs]

/-- A text without problems has nothing to replace. -/
theorem lowered_of_diagnose_eq_nil {text : String} (h : diagnose text = []) :
    lowered text.toList = text.toList := by
  have hwords : ∀ w, .word w ∈ pieces text.toList → isShout w = false := by
    intro w hmem
    refine Bool.eq_false_iff.mpr fun hw => ?_
    obtain ⟨ps, qs, hpieces⟩ := List.append_of_mem hmem
    obtain ⟨as, bs, htext, -, -, ha, hb⟩ := exists_of_pieces_eq hpieces
    obtain ⟨s, hs⟩ := exists_site_of_around hw ha hb
    have hscan := s.diagnose_eq (htext.trans hs.symm)
    rw [h] at hscan
    simp at hscan
  have hlowered := lowered_unpieces (isCut_pieces text.toList) hwords
  rwa [unpieces_pieces] at hlowered

/-! ## How many problems there are -/

theorem length_shoutsFrom_le (n : Nat) (ps : List Piece) :
    (shoutsFrom n ps).length ≤ Utf16.length (unpieces ps) := by
  induction ps generalizing n with
  | nil => exact Nat.le_refl 0
  | cons p ps ih =>
    cases p with
    | gap c =>
      have hrest := ih (n + Utf16.width c)
      rw [shoutsFrom, unpieces_gap, Utf16.length]
      omega
    | word w =>
      have hrest := ih (n + Utf16.length w)
      rw [shoutsFrom, unpieces_word, Utf16.length_append]
      split
      · next hw =>
        have hlong := two_le_length_of_isShout hw
        rw [List.length_cons]
        omega
      · omega

/-- A text has no more problems than code units. -/
theorem length_diagnoseLines_le (n : Nat) (cs : List Char) :
    (diagnoseLines n (lines cs)).length ≤ Utf16.length cs := by
  induction hls : lines cs generalizing n cs with
  | nil => exact Nat.zero_le _
  | cons line ls ih =>
    obtain ⟨rest, rfl, -, hrest⟩ := exists_of_lines_eq_cons hls
    have hfirst := length_shoutsFrom_le 0 (pieces line)
    rw [unpieces_pieces] at hfirst
    have hlater : (diagnoseLines (n + 1) ls).length ≤ Utf16.length rest := by
      obtain ⟨rfl, rfl⟩ | ⟨cs, rfl, hlines⟩ := hrest
      · exact Nat.le_refl 0
      · exact Nat.le_trans (ih (n + 1) cs hlines) (Nat.le_add_left _ _)
    rw [diagnoseLines, List.length_append, List.length_map, Utf16.length_append, shouts]
    omega

end Scan

/-! ## The edits of the quick fixes -/

/-- The edits to a document by the commands of all quick fixes for its problems. -/
def fixes (uri : Url) (text : String) : List TextEdit :=
  (QuickFix.offer uri (diagnose text)).flatMap fun fix =>
    (fix.command.edit.changes.lookup uri).getD []

/-- The edit that fixes a problem. -/
def Diagnostic.fix (d : Diagnostic) : TextEdit :=
  ⟨d.range, Command.replacement⟩

/-- A document after some edits, one after the other. -/
def applyAll (edits : List TextEdit) (document : List UInt16) : List UInt16 :=
  edits.foldl (fun document e => e.applyTo document) document

/-- If two edits are on the same line, the first one is further right. -/
def LaterFirst (e f : TextEdit) : Prop :=
  e.range.start.line = f.range.start.line → f.range.start.character < e.range.start.character

instance (e f : TextEdit) : Decidable (LaterFirst e f) :=
  inferInstanceAs (Decidable (_ → _))

/-- Each problem of a text is the server's own, so it has a fix. -/
theorem fixes_eq (uri : Url) (text : String) :
    fixes uri text = (diagnose text).map Diagnostic.fix := by
  have hsource : ∀ d ∈ diagnose text, decide (d.source = some Scan.source) = true := by
    intro d hd
    obtain ⟨i, line, s, -, -, rfl⟩ := mem_diagnoseLines_iff.mp hd
    exact decide_eq_true rfl
  have hedits : ∀ d, ((QuickFix.ofDiagnostic uri d).command.edit.changes.lookup uri).getD [] =
      [d.fix] := by
    intro d
    simp [QuickFix.ofDiagnostic, Command.edit, Diagnostic.fix]
  rw [fixes, QuickFix.offer, List.filter_eq_self.mpr hsource, List.flatMap_map, List.map_eq_flatMap]
  simp only [hedits]

/-! ## One edit after the other -/

/-- An order in which the problems of a text can be fixed : each has its edit there, on each line
the later ones come first, and no edit makes the text too long for its columns. -/
structure FixOrder (text : String) (order : List TextEdit) : Prop where
  perm : order.Perm ((diagnose text).map Diagnostic.fix)
  laterFirst : order.Pairwise LaterFirst
  size : Utf16.length text.toList + order.length < 2 ^ 32 - 1

namespace FixOrder

variable {text : String} {e : TextEdit} {order : List TextEdit}

/-- The first edit is that of some site, and the others are those of the
problems before and after it. -/
theorem exists_site (h : FixOrder text (e :: order)) :
    ∃ s : Site, text.toList = s.text s.word ∧ e = s.problem.fix ∧
      order.Perm ((s.earlier ++ s.later (Utf16.length s.word)).map Diagnostic.fix) := by
  obtain ⟨d, hd, rfl⟩ := List.mem_map.mp (h.perm.subset List.mem_cons_self)
  obtain ⟨k, hk⟩ := List.getElem?_of_mem hd
  obtain ⟨s, htext, rfl, -⟩ := Scan.exists_site hk
  refine ⟨s, htext, rfl, List.Perm.cons_inv (a := s.problem.fix) (h.perm.trans ?_)⟩
  rw [s.diagnose_eq htext, ← List.map_cons]
  exact List.perm_middle.map Diagnostic.fix

/-- No edit is left to the right of the first one. -/
theorem shouts_right_eq_nil {s : Site} (hsize : Utf16.length (s.text s.word) < 2 ^ 32 - 1)
    (horder : order.Perm ((s.earlier ++ s.later (Utf16.length s.word)).map Diagnostic.fix))
    (hfirst : ∀ f ∈ order, LaterFirst s.problem.fix f) : shouts s.right = [] := by
  refine List.eq_nil_iff_forall_not_mem.mpr fun t ht => ?_
  obtain ⟨hlines, hcolumns⟩ := s.bounds hsize
  have hright := stop_column_le ht
  obtain ⟨⟨-, hproblem⟩, -⟩ := s.toNat_problem_range hsize
  obtain ⟨⟨-, hbeside⟩, -⟩ :=
    (t.move (Utf16.length s.left + Utf16.length s.word)).toNat_range (i := s.above.length)
      (by omega) (by simp only [Shout.move]; omega)
  have hmem :
      ((t.move (Utf16.length s.left + Utf16.length s.word)).diagnostic s.above.length).fix ∈
        order := by
    refine horder.mem_iff.mpr (List.mem_map_of_mem
      (List.mem_append_right _ (List.mem_append_left _ ?_)))
    exact List.mem_map_of_mem (List.mem_map_of_mem ht)
  have hlt := hfirst _ hmem rfl
  simp only [Diagnostic.fix, Shout.diagnostic, UInt32.lt_iff_toNat_lt, hproblem, hbeside] at hlt
  simp only [Shout.move] at hlt
  omega

/-- After its first edit, an order is one for the text that the edit leaves, and what is to come of
that text is the same. -/
theorem step (h : FixOrder text (e :: order)) :
    ∃ text' : String, e.applyTo (Utf16.encode text.toList) = Utf16.encode text'.toList ∧
      lowered text'.toList = lowered text.toList ∧ FixOrder text' order := by
  obtain ⟨s, htext, rfl, horder⟩ := h.exists_site
  obtain ⟨hfirst, hrest⟩ := List.pairwise_cons.mp h.laterFirst
  have hsize := h.size
  rw [htext, List.length_cons] at hsize
  obtain ⟨hne, hword, hlower⟩ := Command.word_replacement
  -- Nothing is left to fix right of the word, so it does not matter how wide the
  -- text in its place is.
  have hlater : ∀ width, s.later width = diagnoseLines (s.above.length + 1) s.below := by
    intro width
    rw [Site.later, Site.beside, shouts_right_eq_nil (by omega) horder hfirst]
    rfl
  refine ⟨String.ofList (s.text Command.replacement.toList), ?_, ?_, ?_, hrest, ?_⟩
  · rw [htext, String.toList_ofList]
    exact s.applyTo (by omega) Command.replacement
  · rw [htext, String.toList_ofList, s.lowered_replacement]
  · rw [s.diagnose_other hne hword hlower, hlater, ← hlater (Utf16.length s.word)]
    exact horder
  · -- A word of two capitals or more gives way to three letters : the text grows by one at most,
    -- and one edit less is left.
    have hlong := two_le_length_of_isShout s.capitals
    have hnew : Utf16.length Command.replacement.toList = 3 := rfl
    rw [String.toList_ofList]
    simp only [Site.text, Utf16.length_append, hnew] at hsize ⊢
    omega

/-- All edits together replace all words in capitals, and no problem is left. -/
theorem run (h : FixOrder text order) :
    applyAll order (Utf16.encode text.toList) = Utf16.encode (lowered text.toList) ∧
      diagnose (String.ofList (lowered text.toList)) = [] := by
  induction order generalizing text with
  | nil =>
    have hnone : diagnose text = [] := List.map_eq_nil_iff.mp h.perm.nil_eq.symm
    rw [lowered_of_diagnose_eq_nil hnone, String.ofList_toList]
    exact ⟨rfl, hnone⟩
  | cons e order ih =>
    obtain ⟨text', hedit, hlowered, hrest⟩ := h.step
    rw [← hlowered, applyAll, List.foldl_cons, hedit]
    exact ih hrest

end FixOrder

/-- From the end of a text to its start, the later edits come first. -/
theorem pairwise_reverse_fix {text : String} (hsize : Utf16.length text.toList < 2 ^ 32) :
    ((diagnose text).map Diagnostic.fix).reverse.Pairwise LaterFirst := by
  have hlines := length_lines_le text.toList
  have hlength := Utf16.length_le_length text.toList
  have hcolumns : ∀ line ∈ lines text.toList, Utf16.length line < 2 ^ 32 := by
    intro line hline
    obtain ⟨i, hi⟩ := List.getElem?_of_mem hline
    have hplace := add_length_le_of_lines hi
    omega
  have hordered : (diagnose text).Pairwise Precedes := pairwise_diagnoseLines (by omega) hcolumns
  refine List.pairwise_reverse.mpr (List.pairwise_map.mpr (hordered.imp fun {d e} hde hline => ?_))
  simp only [Diagnostic.fix, ← UInt32.toNat_inj] at hline
  simp only [Diagnostic.fix, UInt32.lt_iff_toNat_lt]
  unfold Precedes at hde
  omega

/-- Whatever the order in which the edits of all quick fixes for a text are applied, as long as on
each line the later ones come first, they leave the text with each run of two capitals or more
replaced and everything else as it was; and that text has no problem. -/
theorem applyAll_fixes (uri : Url) (text : String)
    (hsize : (Utf16.encode text.toList).length < 2 ^ 31) :
    (∀ order, order.Perm (fixes uri text) → order.Pairwise LaterFirst →
      applyAll order (Utf16.encode text.toList) = Utf16.encode (lowered text.toList)) ∧
    diagnose (String.ofList (lowered text.toList)) = [] := by
  rw [Utf16.length_encode] at hsize
  have hcount : (diagnose text).length ≤ Utf16.length text.toList :=
    length_diagnoseLines_le 0 text.toList
  have horder : ∀ order, order.Perm ((diagnose text).map Diagnostic.fix) →
      order.Pairwise LaterFirst → FixOrder text order := by
    intro order hperm hlater
    refine ⟨hperm, hlater, ?_⟩
    rw [hperm.length_eq, List.length_map]
    omega
  rw [fixes_eq]
  constructor
  · intro order hperm hlater
    exact (horder order hperm hlater).run.1
  · exact (horder _ (List.reverse_perm _) (pairwise_reverse_fix (by omega))).run.2

/-- Fixed from the right on each line, with the lower line in between. -/
theorem applyAll_fixes_interleaved :
    ∃ order, order.map (fun e => e.range.start) = [⟨0, 3⟩, ⟨1, 3⟩, ⟨0, 0⟩] ∧
      order.Perm (fixes ⟨"file:///a"⟩ "AB CDEF\n😀 GH") ∧ order.Pairwise LaterFirst ∧
      applyAll order (Utf16.encode "AB CDEF\n😀 GH".toList) =
        Utf16.encode "foo foo\n😀 foo".toList := by
  have hsize : (Utf16.encode "AB CDEF\n😀 GH".toList).length < 2 ^ 31 := by decide
  have hperm : List.Perm
      [⟨⟨⟨0, 3⟩, ⟨0, 7⟩⟩, "foo"⟩, ⟨⟨⟨1, 3⟩, ⟨1, 5⟩⟩, "foo"⟩, ⟨⟨⟨0, 0⟩, ⟨0, 2⟩⟩, "foo"⟩]
      (fixes ⟨"file:///a"⟩ "AB CDEF\n😀 GH") := by decide
  have hlater : List.Pairwise LaterFirst
      [⟨⟨⟨0, 3⟩, ⟨0, 7⟩⟩, "foo"⟩, ⟨⟨⟨1, 3⟩, ⟨1, 5⟩⟩, "foo"⟩, ⟨⟨⟨0, 0⟩, ⟨0, 2⟩⟩, "foo"⟩] := by decide
  have hlowered : lowered "AB CDEF\n😀 GH".toList = "foo foo\n😀 foo".toList := by decide
  have hfixed := (applyAll_fixes ⟨"file:///a"⟩ "AB CDEF\n😀 GH" hsize).1 _ hperm hlater
  rw [hlowered] at hfixed
  exact ⟨_, rfl, hperm, hlater, hfixed⟩

end Majuscule
