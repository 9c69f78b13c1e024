import Majuscule.Proofs.Scan.Parts
import Mathlib.Data.List.Forall2

/-!
# Line breaks of either form

A line break is a line feed, which may have a carriage return before it. The scan cuts lines at the
line feeds, so that a carriage return stays at the end of its line; but it belongs to no word, and
nothing comes after it on the line. So two texts that differ only in the form of their line breaks
(`SameButBreaks`) have the same diagnostics, lines and columns included (`diagnose_line_breaks`).

Line by line, such texts differ at most in a carriage return at the end (`SameButBreaks.lines`), and
that makes no difference to the words in capitals (`shouts_append_return`). Two ways to change the
form of line breaks are `addReturns` and `dropReturns`.
-/

namespace Majuscule

open Text Scan

namespace Text

/-! ## The form of line breaks -/

/-- What may stand before the line feed in a line break. -/
def OptionalReturn (cs : List Char) : Prop :=
  cs = [] ∨ cs = ['\r']

/-- Two texts that differ only in which of their line breaks begin with a carriage return. -/
inductive SameButBreaks : List Char → List Char → Prop where
  | nil : SameButBreaks [] []
  | char (c : Char) {as bs : List Char} (h : SameButBreaks as bs) :
    SameButBreaks (c :: as) (c :: bs)
  | lineBreak {r r' as bs : List Char} (hr : OptionalReturn r) (hr' : OptionalReturn r')
    (h : SameButBreaks as bs) : SameButBreaks (r ++ '\n' :: as) (r' ++ '\n' :: bs)

/-- Put a carriage return before every line feed that has none. `seen` tells whether one
stands before the text. -/
def addReturns (seen : Bool) : List Char → List Char
  | [] => []
  | c :: cs =>
    if c = '\n' ∧ seen = false then '\r' :: '\n' :: addReturns false cs
    else c :: addReturns (c = '\r') cs

/-- Leave out the carriage returns of chosen line breaks. Those that have one are
counted, from `n` on. -/
def dropReturns (chosen : Nat → Bool) (n : Nat) : List Char → List Char
  | [] => []
  | '\r' :: '\n' :: cs =>
    if chosen n then '\n' :: dropReturns chosen (n + 1) cs
    else '\r' :: '\n' :: dropReturns chosen (n + 1) cs
  | c :: cs => c :: dropReturns chosen n cs

theorem sameButBreaks_addReturns (seen : Bool) (cs : List Char) :
    SameButBreaks cs (addReturns seen cs) := by
  induction cs generalizing seen with
  | nil => exact .nil
  | cons c cs ih =>
    rw [addReturns]
    split
    · next h =>
      rw [h.1]
      exact .lineBreak (Or.inl rfl) (Or.inr rfl) (ih false)
    · exact .char c (ih _)

theorem sameButBreaks_dropReturns (chosen : Nat → Bool) (n : Nat) (cs : List Char) :
    SameButBreaks cs (dropReturns chosen n cs) := by
  fun_induction dropReturns chosen n cs with
  | case1 => exact .nil
  | case2 n cs _ ih => exact .lineBreak (Or.inr rfl) (Or.inl rfl) ih
  | case3 n cs _ ih => exact .lineBreak (Or.inr rfl) (Or.inr rfl) ih
  | case4 n c cs _ ih => exact .char c ih

/-! ## Lines that differ in their breaks -/

/-- Two lines that differ at most in a carriage return at the end. -/
def SameButReturn (l l' : List Char) : Prop :=
  ∃ stem r r', OptionalReturn r ∧ OptionalReturn r' ∧ l = stem ++ r ∧ l' = stem ++ r'

theorem sameButReturn_refl (l : List Char) : SameButReturn l l :=
  ⟨l, [], [], Or.inl rfl, Or.inl rfl, by simp, by simp⟩

theorem SameButReturn.cons (c : Char) {l l' : List Char} (h : SameButReturn l l') :
    SameButReturn (c :: l) (c :: l') := by
  obtain ⟨stem, r, r', hr, hr', rfl, rfl⟩ := h
  exact ⟨c :: stem, r, r', hr, hr', rfl, rfl⟩

theorem lines_return_append {r : List Char} (h : OptionalReturn r) (cs : List Char) :
    lines (r ++ '\n' :: cs) = r :: lines cs := by
  rw [lines_append_feed]
  rcases h with rfl | rfl <;> rfl

theorem forall₂_consLine (c : Char) {ls ls' : List (List Char)}
    (h : List.Forall₂ SameButReturn ls ls') :
    List.Forall₂ SameButReturn (consLine c ls) (consLine c ls') := by
  cases h with
  | nil => exact .cons (sameButReturn_refl [c]) .nil
  | cons hl hls => exact .cons (hl.cons c) hls

/-- Texts that differ only in their line breaks have as many lines, and these differ at most in a
carriage return at the end. -/
theorem SameButBreaks.lines {as bs : List Char} (h : SameButBreaks as bs) :
    List.Forall₂ SameButReturn (lines as) (lines bs) := by
  induction h with
  | nil => exact .cons (sameButReturn_refl []) .nil
  | char c _ ih =>
    by_cases hc : c = '\n'
    · rw [hc, lines_cons_feed, lines_cons_feed]
      exact .cons (sameButReturn_refl []) ih
    · rw [lines_cons_of_ne hc, lines_cons_of_ne hc]
      exact forall₂_consLine c ih
  | lineBreak hr hr' _ ih =>
    rw [lines_return_append hr, lines_return_append hr']
    exact .cons ⟨[], _, _, hr, hr', rfl, rfl⟩ ih

end Text

namespace Scan

/-! ## The same words in capitals -/

theorem isWordChar_return : isWordChar '\r' = false := by
  decide

/-- A carriage return at the end of a line makes no difference to its words in capitals. -/
theorem shouts_append_return {r : List Char} (h : OptionalReturn r) (stem : List Char) :
    shouts (stem ++ r) = shouts stem := by
  rcases h with rfl | rfl
  · rw [List.append_nil]
  · have hnone : shouts [] = [] := rfl
    rw [shouts_append_gap isWordChar_return, hnone, List.map_nil, List.append_nil]

theorem shouts_of_sameButReturn {l l' : List Char} (h : SameButReturn l l') :
    shouts l = shouts l' := by
  obtain ⟨stem, r, r', hr, hr', rfl, rfl⟩ := h
  rw [shouts_append_return hr, shouts_append_return hr']

theorem diagnoseLines_of_forall₂ {ls ls' : List (List Char)} (h : List.Forall₂ SameButReturn ls ls')
    (n : Nat) : diagnoseLines n ls = diagnoseLines n ls' := by
  induction h generalizing n with
  | nil => rfl
  | cons hl _ ih => rw [diagnoseLines, diagnoseLines, shouts_of_sameButReturn hl, ih]

end Scan

/-- The diagnostics of a text, lines and columns included, do not depend on the form of its line
breaks. They stay when every line feed without a carriage return gets one, when any of those that
have one lose it, and in every other text that differs only in its line breaks. -/
theorem diagnose_line_breaks (text : String) :
    diagnose (String.ofList (addReturns false text.toList)) = diagnose text ∧
    (∀ chosen : Nat → Bool,
      diagnose (String.ofList (dropReturns chosen 0 text.toList)) = diagnose text) ∧
    ∀ other : String, SameButBreaks text.toList other.toList → diagnose other = diagnose text := by
  have hother : ∀ other : String, SameButBreaks text.toList other.toList →
      diagnose other = diagnose text :=
    fun other h => (diagnoseLines_of_forall₂ h.lines 0).symm
  refine ⟨hother _ ?_, fun chosen => hother _ ?_, hother⟩
  · rw [String.toList_ofList]
    exact sameButBreaks_addReturns false text.toList
  · rw [String.toList_ofList]
    exact sameButBreaks_dropReturns chosen 0 text.toList

-- The return that is there already is kept, and the others are added.
example : addReturns false "AB\r\nCD\n\nEF\r".toList = "AB\r\nCD\r\n\r\nEF\r".toList := by decide

end Majuscule
