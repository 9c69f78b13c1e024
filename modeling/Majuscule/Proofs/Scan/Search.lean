import Majuscule.Proofs.Scan.Words

/-!
# Words in capitals by search

A word in capitals can also be searched for as a pattern : a word boundary, two capitals or more,
and a word boundary. At each place of a line the search takes as many capitals as there are and
gives back one after another until a boundary follows (`giveBack`, `matchAt?`); the first place with
a match wins, and the search goes on where the match ends (`searchFrom`).

Such a search could stop inside a word, or start again inside of one that it gave up. It never does
: inside a word there is no boundary, so the match at the start of a word is the whole word or none
(`matchAt?_of_word`), and no match starts further in (`matchAt?_of_before`). What it finds are
therefore the words in capitals of the line (`search_eq_shouts`).
-/

namespace Majuscule.Scan

open Text

/-! ## The search -/

/-- A word character stands at exactly one side. -/
def boundary (before after : Option Char) : Bool :=
  before.any isWordChar != after.any isWordChar

/-- The length of the longest match among the first `n` characters, two or more, that
end at a word boundary. -/
def giveBack (cs : List Char) : Nat → Option Nat
  | 0 => none
  | n + 1 => if 2 ≤ n + 1 ∧ boundary cs[n]? cs[n + 1]? = true then some (n + 1) else giveBack cs n

/-- The length of the match at the start of `cs`, where `before` is the character in front of it. -/
def matchAt? (before : Option Char) (cs : List Char) : Option Nat :=
  if boundary before cs.head? then giveBack cs (cs.takeWhile isCapital).length else none

/-- The matches in a line from some column on, once the search has passed the
next `skip` characters. -/
def searchFrom (before : Option Char) (column skip : Nat) : List Char → List Shout
  | [] => []
  | c :: cs =>
    match skip with
    | k + 1 => searchFrom (some c) (column + Utf16.width c) k cs
    | 0 =>
      match matchAt? before (c :: cs) with
      | none => searchFrom (some c) (column + Utf16.width c) 0 cs
      | some n =>
        ⟨column, (c :: cs).take n⟩ :: searchFrom (some c) (column + Utf16.width c) (n - 1) cs

/-- The matches in a line, from left to right. -/
def search (line : List Char) : List Shout :=
  searchFrom none 0 0 line

/-! ## One match -/

theorem head?_any_of_noWordAtStart {cs : List Char} (h : NoWordAtStart cs) :
    cs.head?.any isWordChar = false := by
  cases cs with
  | nil => rfl
  | cons c cs => exact h c rfl

theorem takeWhile_of_noWordAtStart {cs : List Char} (h : NoWordAtStart cs) :
    cs.takeWhile isCapital = [] := by
  cases cs with
  | nil => rfl
  | cons c cs =>
    refine List.takeWhile_cons_of_neg fun hc => ?_
    have hword := h c rfl
    simp [isWordChar_of_isCapital hc] at hword

/-- No match starts where no word starts. -/
theorem matchAt?_of_noWordAtStart (before : Option Char) {cs : List Char} (h : NoWordAtStart cs) :
    matchAt? before cs = none := by
  rw [matchAt?, takeWhile_of_noWordAtStart h]
  simp [giveBack]

/-- No match starts inside a word. -/
theorem matchAt?_of_before {before c : Char} (hbefore : isWordChar before = true)
    (hc : isWordChar c = true) (cs : List Char) : matchAt? (some before) (c :: cs) = none := by
  simp [matchAt?, boundary, hbefore, hc]

/-- No match ends inside a word. -/
theorem giveBack_of_lt {w : List Char} (hw : ∀ c ∈ w, isWordChar c = true) (cs : List Char)
    {n : Nat} (h : n < w.length) : giveBack (w ++ cs) n = none := by
  induction n with
  | zero => rfl
  | succ n ih =>
    have hinside : boundary (w ++ cs)[n]? (w ++ cs)[n + 1]? = false := by
      rw [List.getElem?_append_left (by omega), List.getElem?_append_left h,
        List.getElem?_eq_getElem (by omega), List.getElem?_eq_getElem h]
      simp [boundary, hw _ (List.getElem_mem _)]
    rw [giveBack, if_neg (by simp [hinside]), ih (by omega)]

/-- A match may end with a word. -/
theorem giveBack_length {w cs : List Char} (hlong : 2 ≤ w.length)
    (hw : ∀ c ∈ w, isWordChar c = true) (hstart : NoWordAtStart cs) :
    giveBack (w ++ cs) w.length = some w.length := by
  obtain ⟨n, hn⟩ : ∃ n, w.length = n + 1 := ⟨w.length - 1, by omega⟩
  have hend : boundary (w ++ cs)[n]? (w ++ cs)[n + 1]? = true := by
    rw [List.getElem?_append_left (by omega), ← hn, List.getElem?_append_right (Nat.le_refl _),
      Nat.sub_self, ← List.head?_eq_getElem?, List.getElem?_eq_getElem (by omega)]
    simp [boundary, hw _ (List.getElem_mem _), head?_any_of_noWordAtStart hstart]
  rw [hn, giveBack, if_pos ⟨by omega, hend⟩]

/-- A character that is no capital ends the capitals. -/
theorem length_takeWhile_lt {w : List Char} (h : ¬ ∀ c ∈ w, isCapital c = true) (cs : List Char) :
    ((w ++ cs).takeWhile isCapital).length < w.length := by
  induction w with
  | nil => simp at h
  | cons c w ih =>
    cases hc : isCapital c with
    | false =>
      rw [List.cons_append, List.takeWhile_cons_of_neg (by simp [hc])]
      exact Nat.zero_lt_succ w.length
    | true =>
      have hrest := ih fun hall => h (by simpa [hc] using hall)
      rw [List.cons_append, List.takeWhile_cons_of_pos hc]
      exact Nat.succ_lt_succ hrest

/-- At the start of a word, the match is the whole word if that is in capitals, and
there is none otherwise. -/
theorem matchAt?_of_word {before : Option Char} {w cs : List Char}
    (hbefore : before.any isWordChar = false) (hne : w ≠ []) (hw : ∀ c ∈ w, isWordChar c = true)
    (hstart : NoWordAtStart cs) :
    matchAt? before (w ++ cs) = if isShout w then some w.length else none := by
  have hboundary : boundary before (w ++ cs).head? = true := by
    obtain ⟨c, w', rfl⟩ := List.exists_cons_of_ne_nil hne
    simp [boundary, hbefore, hw c (by simp)]
  rw [matchAt?, if_pos hboundary]
  by_cases hall : ∀ c ∈ w, isCapital c = true
  · -- All of the word is taken at first, and nothing has to be given back.
    have htaken : (w ++ cs).takeWhile isCapital = w := by
      rw [List.takeWhile_append_of_pos hall, takeWhile_of_noWordAtStart hstart, List.append_nil]
    rw [htaken]
    by_cases hlong : 2 ≤ w.length
    · rw [giveBack_length hlong hw hstart, if_pos (by simpa [isShout, hlong] using hall)]
    · have hone : w.length = 1 := by
        have hpos := List.length_pos_iff.mpr hne
        omega
      rw [hone, if_neg (by simp [isShout, hone])]
      simp [giveBack]
  · -- The capitals at the start of the word end inside of it.
    rw [giveBack_of_lt hw cs (length_takeWhile_lt hall cs), if_neg]
    simp only [isShout, Bool.and_eq_true, List.all_eq_true]
    exact fun h => hall h.2

/-! ## The whole line -/

theorem searchFrom_of_none {before : Option Char} {c : Char} {cs : List Char}
    (h : matchAt? before (c :: cs) = none) (column : Nat) :
    searchFrom before column 0 (c :: cs) = searchFrom (some c) (column + Utf16.width c) 0 cs := by
  rw [searchFrom, h]

/-- The search passes over the rest of a match. -/
theorem searchFrom_skip (before : Char) (column : Nat) (cs rest : List Char) :
    searchFrom (some before) column cs.length (cs ++ rest) =
      searchFrom (before :: cs).getLast? (column + Utf16.length cs) 0 rest := by
  induction cs generalizing before column with
  | nil => rfl
  | cons c cs ih =>
    rw [List.cons_append, List.length_cons, searchFrom, ih, Utf16.length, Nat.add_assoc,
      List.getLast?_cons_cons]

/-- The search finds nothing further in a word that it gave up. -/
theorem searchFrom_word {before : Char} (hbefore : isWordChar before = true) (column : Nat)
    {w : List Char} (hw : ∀ c ∈ w, isWordChar c = true) (rest : List Char) :
    searchFrom (some before) column 0 (w ++ rest) =
      searchFrom (before :: w).getLast? (column + Utf16.length w) 0 rest := by
  induction w generalizing before column with
  | nil => rfl
  | cons c w ih =>
    have hc := hw c List.mem_cons_self
    rw [List.cons_append, searchFrom_of_none (matchAt?_of_before hbefore hc _),
      ih hc _ fun d hd => hw d (List.mem_cons_of_mem c hd), Utf16.length, Nat.add_assoc,
      List.getLast?_cons_cons]

/-- Unless it starts inside a word, the search finds the words in capitals of
what is left of the line. -/
theorem searchFrom_eq_shoutsFrom {ps : List Piece} (hcut : IsCut ps) (before : Option Char)
    (column : Nat) (h : before.any isWordChar = false ∨ NoWordAtStart (unpieces ps)) :
    searchFrom before column 0 (unpieces ps) = shoutsFrom column ps := by
  induction hcut generalizing before column with
  | nil => rfl
  | @gap c ps hc _ ih =>
    have hnone : matchAt? before (c :: unpieces ps) = none :=
      matchAt?_of_noWordAtStart before fun d hd => by rw [← Option.some.inj hd]; exact hc
    rw [unpieces_gap, searchFrom_of_none hnone, shoutsFrom, ih (some c) _ (Or.inl hc)]
  | @word w ps hne hw hstart _ ih =>
    have hmatch : matchAt? before (w ++ unpieces ps) =
        if isShout w then some w.length else none := by
      refine matchAt?_of_word (h.resolve_right fun hword => ?_) hne hw hstart
      obtain ⟨c, w', rfl⟩ := List.exists_cons_of_ne_nil hne
      have hc := hword c rfl
      simp [hw c (by simp)] at hc
    obtain ⟨c, w, rfl⟩ := List.exists_cons_of_ne_nil hne
    have hafter := ih (c :: w).getLast? (column + Utf16.length (c :: w)) (Or.inr hstart)
    rw [unpieces_word, shoutsFrom, ← hafter, Utf16.length, ← Nat.add_assoc]
    rw [List.cons_append] at hmatch ⊢
    cases hshout : isShout (c :: w) with
    | false =>
      rw [hshout] at hmatch
      rw [searchFrom_of_none hmatch, searchFrom_word (hw c (by simp)) _ fun d hd =>
        hw d (by simp [hd])]
      rfl
    | true =>
      rw [hshout] at hmatch
      rw [searchFrom, hmatch]
      simp [searchFrom_skip]

/-- The search finds the words in capitals of a line. -/
theorem search_eq_shouts (line : List Char) : search line = shouts line := by
  have h := searchFrom_eq_shoutsFrom (isCut_pieces line) none 0 (Or.inl rfl)
  rwa [unpieces_pieces] at h

end Majuscule.Scan
