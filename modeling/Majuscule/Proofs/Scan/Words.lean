import Majuscule.Scan

/-!
# Words of a line

A line falls into words and the characters between them. Everything about this cut follows from two
facts: it may be made on both sides of a place where no word runs on (`pieces_append`), and a run of
word characters is one piece (`pieces_of_word`). In the other direction, each word of the cut stands
between characters that belong to no word (`exists_of_pieces_eq`), so the cut of a line is the only
one that could be made.

The words in capitals of a line inherit both: they are those of its two parts where no word runs on,
with the columns of the second part moved (`shouts_append`), and each of them splits the line into
what stands before and after it (`exists_of_shouts_eq`).
-/

namespace Majuscule.Scan

open Text

/-! ## Capitals are word characters -/

theorem isWordChar_of_isCapital {c : Char} (h : isCapital c = true) : isWordChar c = true := by
  have hrange : WordChar.inRange c.toNat (0x41, 0x5A) = true := by
    simp only [isCapital, Bool.and_eq_true, decide_eq_true_eq, Char.le_def, UInt32.le_iff_toNat_le]
      at h
    simpa [WordChar.inRange] using h
  refine List.any_eq_true.mpr ⟨WordChar.latinToHebrew, by simp [WordChar.ranges], ?_⟩
  exact List.any_eq_true.mpr ⟨(0x41, 0x5A), by simp [WordChar.latinToHebrew], hrange⟩

/-! ## Where no word runs on -/

/-- No word character stands at the end. -/
def NoWordAtEnd (cs : List Char) : Prop :=
  ∀ c ∈ cs.getLast?, isWordChar c = false

/-- No word character stands at the start. -/
def NoWordAtStart (cs : List Char) : Prop :=
  ∀ c ∈ cs.head?, isWordChar c = false

theorem pieces_cons_of_word {c : Char} (h : isWordChar c = true) (cs : List Char) :
    pieces (c :: cs) = consLetter c (pieces cs) := by
  rw [pieces, if_pos h]

theorem pieces_cons_of_gap {c : Char} (h : isWordChar c = false) (cs : List Char) :
    pieces (c :: cs) = .gap c :: pieces cs := by
  rw [pieces, if_neg (by simp [h])]

theorem consLetter_append (c : Char) {ps : List Piece} (h : ps ≠ []) (qs : List Piece) :
    consLetter c (ps ++ qs) = consLetter c ps ++ qs := by
  cases ps with
  | nil => exact absurd rfl h
  | cons p ps => cases p <;> rfl

theorem consLetter_pieces_of_noWordAtStart (c : Char) {cs : List Char} (h : NoWordAtStart cs) :
    consLetter c (pieces cs) = .word [c] :: pieces cs := by
  cases cs with
  | nil => rfl
  | cons d cs =>
    have hd : isWordChar d = false := h d rfl
    rw [pieces_cons_of_gap hd]
    rfl

theorem pieces_ne_nil_of_ne_nil {cs : List Char} (h : cs ≠ []) : pieces cs ≠ [] := by
  intro hnil
  apply h
  rw [← flatten_pieces cs, hnil, List.flatMap_nil]

/-- Where no word runs on, the two sides are cut on their own. -/
theorem pieces_append {as bs : List Char} (h : NoWordAtEnd as ∨ NoWordAtStart bs) :
    pieces (as ++ bs) = pieces as ++ pieces bs := by
  induction as with
  | nil => rfl
  | cons a as ih =>
    -- The last character of the first part decides; before it, a character joins what follows it on
    -- either side.
    cases as with
    | nil =>
      cases ha : isWordChar a with
      | true =>
        have hb : NoWordAtStart bs := h.resolve_left fun hend => by simp [hend a rfl] at ha
        rw [List.singleton_append, pieces_cons_of_word ha, pieces_cons_of_word ha,
          consLetter_pieces_of_noWordAtStart a hb]
        rfl
      | false =>
        rw [List.singleton_append, pieces_cons_of_gap ha, pieces_cons_of_gap ha]
        rfl
    | cons b as =>
      have hrest := ih (h.imp_left fun hend c hc => hend c (by simpa using hc))
      cases ha : isWordChar a with
      | true =>
        rw [List.cons_append, pieces_cons_of_word ha, pieces_cons_of_word ha, hrest,
          consLetter_append a (pieces_ne_nil_of_ne_nil (by simp))]
      | false =>
        rw [List.cons_append, pieces_cons_of_gap ha, pieces_cons_of_gap ha, hrest, List.cons_append]

/-- A run of word characters is one word. -/
theorem pieces_of_word {cs : List Char} (hne : cs ≠ []) (h : ∀ c ∈ cs, isWordChar c = true) :
    pieces cs = [.word cs] := by
  induction cs with
  | nil => exact absurd rfl hne
  | cons c cs ih =>
    rw [pieces_cons_of_word (h c (by simp))]
    cases cs with
    | nil => rfl
    | cons d cs => rw [ih (by simp) fun x hx => h x (by simp [hx])]; rfl

/-! ## The only cut -/

/-- The characters of some pieces. -/
def unpieces (ps : List Piece) : List Char :=
  ps.flatMap Piece.chars

@[simp] theorem unpieces_nil : unpieces [] = [] := rfl

@[simp] theorem unpieces_gap (c : Char) (ps : List Piece) :
    unpieces (.gap c :: ps) = c :: unpieces ps := rfl

@[simp] theorem unpieces_word (w : List Char) (ps : List Piece) :
    unpieces (.word w :: ps) = w ++ unpieces ps := rfl

@[simp] theorem unpieces_append (ps qs : List Piece) :
    unpieces (ps ++ qs) = unpieces ps ++ unpieces qs :=
  List.flatMap_append

theorem unpieces_pieces (cs : List Char) : unpieces (pieces cs) = cs :=
  flatten_pieces cs

/-- Words hold word characters and no two of them stand side by side; the characters between
them belong to no word. -/
inductive IsCut : List Piece → Prop where
  | nil : IsCut []
  | gap {c : Char} {ps : List Piece} (hc : isWordChar c = false) (h : IsCut ps) :
    IsCut (.gap c :: ps)
  | word {w : List Char} {ps : List Piece} (hne : w ≠ []) (hw : ∀ c ∈ w, isWordChar c = true)
      (hstart : NoWordAtStart (unpieces ps)) (h : IsCut ps) : IsCut (.word w :: ps)

theorem isCut_consLetter {c : Char} {ps : List Piece} (hc : isWordChar c = true) (h : IsCut ps) :
    IsCut (consLetter c ps) := by
  cases h with
  | nil => exact .word (by simp) (by simpa using hc) (by simp [NoWordAtStart]) .nil
  | @gap d ps hd h =>
    refine .word (by simp) (by simpa using hc) ?_ (.gap hd h)
    simpa [NoWordAtStart] using hd
  | @word w ps hne hw hstart h => exact .word (by simp) (by simpa [hc] using hw) hstart h

theorem isCut_pieces (cs : List Char) : IsCut (pieces cs) := by
  induction cs with
  | nil => exact .nil
  | cons c cs ih =>
    cases hc : isWordChar c with
    | true =>
      rw [pieces_cons_of_word hc]
      exact isCut_consLetter hc ih
    | false =>
      rw [pieces_cons_of_gap hc]
      exact .gap hc ih

/-- A cut is what its characters are cut into. -/
theorem IsCut.pieces_unpieces {ps : List Piece} (h : IsCut ps) : pieces (unpieces ps) = ps := by
  induction h with
  | nil => rfl
  | @gap c ps hc _ ih => exact (pieces_cons_of_gap hc (unpieces ps)).trans (congrArg _ ih)
  | @word w ps hne hw hstart _ ih =>
    rw [unpieces_word, pieces_append (Or.inr hstart), pieces_of_word hne hw, ih,
      List.singleton_append]

theorem noWordAtEnd_append {as bs : List Char} (hne : bs ≠ []) :
    NoWordAtEnd (as ++ bs) ↔ NoWordAtEnd bs := by
  simp [NoWordAtEnd, hne]

theorem noWordAtStart_append {as bs : List Char} (hne : as ≠ []) :
    NoWordAtStart (as ++ bs) ↔ NoWordAtStart as := by
  simp [NoWordAtStart, hne]

/-- A word of a cut stands between two cuts, and no word runs on at either side of it. -/
theorem IsCut.split {ps qs : List Piece} {w : List Char} (h : IsCut (ps ++ .word w :: qs)) :
    (IsCut ps ∧ NoWordAtEnd (unpieces ps)) ∧ (w ≠ [] ∧ ∀ c ∈ w, isWordChar c = true) ∧
      NoWordAtStart (unpieces qs) ∧ IsCut qs := by
  induction ps with
  | nil =>
    cases h with
    | word hne hw hstart h => exact ⟨⟨.nil, by simp [NoWordAtEnd]⟩, ⟨hne, hw⟩, hstart, h⟩
  | cons p ps ih =>
    rw [List.cons_append] at h
    cases h with
    | @gap c _ hc h =>
      obtain ⟨⟨hps, hend⟩, hright⟩ := ih h
      refine ⟨⟨.gap hc hps, ?_⟩, hright⟩
      cases hnil : unpieces ps with
      | nil => simpa [NoWordAtEnd, hnil] using hc
      | cons d ds =>
        rw [unpieces_gap, ← List.singleton_append, noWordAtEnd_append (by simp [hnil])]
        exact hend
    | @word v _ hne hv hstart h =>
      obtain ⟨⟨hps, hend⟩, ⟨hwne, hw⟩, hright⟩ := ih h
      -- The two words do not stand side by side, so something stands between them.
      have hbetween : unpieces ps ≠ [] := by
        intro hnil
        obtain ⟨c, w', rfl⟩ := List.exists_cons_of_ne_nil hwne
        have hc := hstart c (by simp [hnil])
        simp [hw c (by simp)] at hc
      rw [unpieces_append, noWordAtStart_append hbetween] at hstart
      refine ⟨⟨.word hne hv hstart hps, ?_⟩, ⟨hwne, hw⟩, hright⟩
      rw [unpieces_word, noWordAtEnd_append hbetween]
      exact hend

/-- A word among the pieces of a line stands between two parts that are cut on their own, and
runs on into neither. -/
theorem exists_of_pieces_eq {line w : List Char} {ps qs : List Piece}
    (h : pieces line = ps ++ .word w :: qs) :
    ∃ as bs, line = as ++ w ++ bs ∧ pieces as = ps ∧ pieces bs = qs ∧ NoWordAtEnd as ∧
      NoWordAtStart bs := by
  obtain ⟨⟨hps, hend⟩, -, hstart, hqs⟩ := (h ▸ isCut_pieces line).split
  refine ⟨unpieces ps, unpieces qs, ?_, hps.pieces_unpieces, hqs.pieces_unpieces, hend, hstart⟩
  rw [← unpieces_pieces line, h]
  simp

/-! ## Words in capitals -/

/-- The same word, `n` columns further right. -/
def Shout.move (n : Nat) (s : Shout) : Shout :=
  ⟨n + s.column, s.letters⟩

theorem shoutsFrom_add (n m : Nat) (ps : List Piece) :
    shoutsFrom (n + m) ps = (shoutsFrom m ps).map (Shout.move n) := by
  induction ps generalizing m with
  | nil => rfl
  | cons p ps ih =>
    cases p with
    | gap c => rw [shoutsFrom, shoutsFrom, Nat.add_assoc, ih]
    | word w =>
      rw [shoutsFrom, shoutsFrom, Nat.add_assoc, ih]
      cases isShout w <;> rfl

theorem shoutsFrom_append (n : Nat) (ps qs : List Piece) :
    shoutsFrom n (ps ++ qs) =
      shoutsFrom n ps ++ shoutsFrom (n + Utf16.length (unpieces ps)) qs := by
  induction ps generalizing n with
  | nil => rfl
  | cons p ps ih =>
    cases p with
    | gap c =>
      rw [List.cons_append, shoutsFrom, shoutsFrom, ih, unpieces_gap, Utf16.length, Nat.add_assoc]
    | word w =>
      rw [List.cons_append, shoutsFrom, shoutsFrom, ih, unpieces_word, Utf16.length_append,
        Nat.add_assoc]
      cases isShout w <;> rfl

/-- Where no word runs on, the words in capitals are those of both sides, with the
columns of the second moved. -/
theorem shouts_append {as bs : List Char} (h : NoWordAtEnd as ∨ NoWordAtStart bs) :
    shouts (as ++ bs) = shouts as ++ (shouts bs).map (Shout.move (Utf16.length as)) := by
  rw [shouts, pieces_append h, shoutsFrom_append, unpieces_pieces, Nat.zero_add]
  exact congrArg _ (shoutsFrom_add (Utf16.length as) 0 (pieces bs))

theorem shouts_of_word {w : List Char} (hne : w ≠ []) (hw : ∀ c ∈ w, isWordChar c = true) :
    shouts w = if isShout w then [⟨0, w⟩] else [] := by
  rw [shouts, pieces_of_word hne hw]
  rfl

/-- A word in capitals is a word. -/
theorem word_of_isShout {w : List Char} (h : isShout w = true) :
    w ≠ [] ∧ ∀ c ∈ w, isWordChar c = true := by
  simp only [isShout, Bool.and_eq_true, decide_eq_true_eq, List.all_eq_true] at h
  refine ⟨?_, fun c hc => isWordChar_of_isCapital (h.2 c hc)⟩
  rintro rfl
  simp at h

/-- A word in capitals between two parts of a line stands between their words in capitals. -/
theorem shouts_around_shout {as w bs : List Char} (hw : isShout w = true) (ha : NoWordAtEnd as)
    (hb : NoWordAtStart bs) :
    shouts (as ++ w ++ bs) =
      shouts as ++ ⟨Utf16.length as, w⟩ ::
        (shouts bs).map (Shout.move (Utf16.length as + Utf16.length w)) := by
  obtain ⟨hne, hword⟩ := word_of_isShout hw
  rw [shouts_append (Or.inr hb), shouts_append (Or.inl ha), shouts_of_word hne hword, if_pos hw,
    Utf16.length_append]
  simp [Shout.move]

/-- Any other word between two parts of a line is not among the words in capitals. -/
theorem shouts_around_word {as w bs : List Char} (hne : w ≠ [])
    (hword : ∀ c ∈ w, isWordChar c = true) (hw : isShout w = false) (ha : NoWordAtEnd as)
    (hb : NoWordAtStart bs) :
    shouts (as ++ w ++ bs) =
      shouts as ++ (shouts bs).map (Shout.move (Utf16.length as + Utf16.length w)) := by
  rw [shouts_append (Or.inr hb), shouts_append (Or.inl ha), shouts_of_word hne hword, hw,
    Utf16.length_append]
  simp

theorem exists_of_shoutsFrom_eq {n : Nat} {ps : List Piece} {xs ys : List Shout} {s : Shout}
    (h : shoutsFrom n ps = xs ++ s :: ys) :
    ∃ qs rs, ps = qs ++ .word s.letters :: rs ∧ isShout s.letters = true ∧
      shoutsFrom n qs = xs := by
  induction ps generalizing n xs with
  | nil => simp [shoutsFrom] at h
  | cons p ps ih =>
    cases p with
    | gap c =>
      obtain ⟨qs, rs, rfl, hs, hxs⟩ := ih h
      exact ⟨.gap c :: qs, rs, rfl, hs, hxs⟩
    | word w =>
      cases hw : isShout w with
      | false =>
        simp only [shoutsFrom, hw] at h
        obtain ⟨qs, rs, rfl, hs, hxs⟩ := ih h
        exact ⟨.word w :: qs, rs, rfl, hs, by simpa [shoutsFrom, hw] using hxs⟩
      | true =>
        simp only [shoutsFrom, hw, if_true] at h
        cases xs with
        | nil =>
          obtain ⟨rfl, -⟩ := List.cons.inj h
          exact ⟨[], ps, rfl, hw, rfl⟩
        | cons x xs =>
          obtain ⟨rfl, htail⟩ := List.cons.inj h
          obtain ⟨qs, rs, rfl, hs, hxs⟩ := ih htail
          exact ⟨.word w :: qs, rs, rfl, hs, by simp [shoutsFrom, hw, hxs]⟩

/-- Each word in capitals of a line splits it : what comes before and after it in the list comes
from before and after it in the line, and no word runs on at either side of it. -/
theorem exists_of_shouts_eq {line : List Char} {xs ys : List Shout} {s : Shout}
    (h : shouts line = xs ++ s :: ys) :
    ∃ as bs, line = as ++ s.letters ++ bs ∧ isShout s.letters = true ∧
      NoWordAtEnd as ∧ NoWordAtStart bs ∧
      s.column = Utf16.length as ∧ xs = shouts as ∧
      ys = (shouts bs).map (Shout.move (Utf16.length as + Utf16.length s.letters)) := by
  obtain ⟨qs, rs, hpieces, hs, hxs⟩ := exists_of_shoutsFrom_eq h
  obtain ⟨as, bs, hline, has, -, ha, hb⟩ := exists_of_pieces_eq hpieces
  have hxs' : xs = shouts as := by rw [← hxs, ← has]; rfl
  rw [hline, shouts_around_shout hs ha hb, hxs'] at h
  obtain ⟨hs', hys⟩ := List.cons.inj (List.append_cancel_left h)
  exact ⟨as, bs, hline, hs, ha, hb, (congrArg Shout.column hs').symm, hxs', hys.symm⟩

end Majuscule.Scan
