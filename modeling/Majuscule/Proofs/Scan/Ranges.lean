import Majuscule.Proofs.Scan.Spans
import Majuscule.Proofs.Text.Lines

/-!
# Ranges point at their words

The scan cuts a text into lines of characters and computes columns from them; an editor holds the
text as UTF-16 code units, cuts these at each line feed and looks a range up there. Both mean the
same : the units in the range of a diagnostic are those of the word that its message names
(`Diagnostic.Quotes`).

Line numbers and columns are cast to 32 bits on the way. A line has as many line feeds before it as
its number says, so number and columns together stay within the size of the text, and where that is
small enough no cast loses anything and no sum overflows (`Shout.Fits`).
-/

namespace Majuscule

open Text Scan

/-! ## Casts to 32 bits -/

/-- Nothing is lost when a word in capitals is given its place in a diagnostic : column and length
are kept by their casts, and their sum is within range. -/
structure Scan.Shout.Fits (s : Shout) : Prop where
  column_eq : s.column.toUInt32.toNat = s.column
  length_eq : (Utf16.length s.letters).toUInt32.toNat = Utf16.length s.letters
  stop_lt : s.column.toUInt32.toNat + (Utf16.length s.letters).toUInt32.toNat < 2 ^ 32

namespace Scan

/-- The number of a line of a short text is kept. -/
theorem toNat_lineNumber {cs line : List Char} {i : Nat} (hsize : Utf16.length cs < 2 ^ 32)
    (h : (lines cs)[i]? = some line) : i.toUInt32.toNat = i := by
  have hline := add_length_le_of_lines h
  exact Nat.mod_eq_of_lt (by omega)

theorem fits_of_mem_shouts {cs line : List Char} {i : Nat} {s : Shout}
    (hsize : Utf16.length cs < 2 ^ 32) (h : (lines cs)[i]? = some line) (hs : s ∈ shouts line) :
    s.Fits := by
  have hline := add_length_le_of_lines h
  have hstop := stop_column_le hs
  have hcolumn : s.column.toUInt32.toNat = s.column := Nat.mod_eq_of_lt (by omega)
  have hlength : (Utf16.length s.letters).toUInt32.toNat = Utf16.length s.letters :=
    Nat.mod_eq_of_lt (by omega)
  refine ⟨hcolumn, hlength, ?_⟩
  rw [hcolumn, hlength]
  omega

end Scan

/-! ## Words in a document -/

/-- In a document of UTF-16 code units, the range of the diagnostic is a stretch of one of its
lines, what stands there is the word `w` in capitals, and the message names that word. -/
structure Diagnostic.Quotes (document : List UInt16) (d : Diagnostic) (line : List UInt16)
    (w : List Char) : Prop where
  one_line : d.range.start.line = d.range.stop.line
  line_eq : (document.splitOn Utf16.lineFeed)[d.range.start.line.toNat]? = some line
  start_lt : d.range.start.character < d.range.stop.character
  stop_le : d.range.stop.character.toNat ≤ line.length
  units_eq : (line.take d.range.stop.character.toNat).drop d.range.start.character.toNat =
    Utf16.encode w
  capitals : ∀ c ∈ w, 'A' ≤ c ∧ c ≤ 'Z'
  message_eq : d.message = String.ofList w ++ " is all uppercase."

namespace Scan

theorem splitOn_getElem? {cs line : List Char} {i : Nat} (h : (lines cs)[i]? = some line) :
    ((Utf16.encode cs).splitOn Utf16.lineFeed)[i]? = some (Utf16.encode line) := by
  rw [splitOn_encode, List.getElem?_map, h]
  rfl

/-- Each word in capitals splits its line, and its column is the width of what stands before it. -/
theorem exists_of_mem_shouts {line : List Char} {s : Shout} (h : s ∈ shouts line) :
    ∃ as bs, line = as ++ s.letters ++ bs ∧ isShout s.letters = true ∧
      s.column = Utf16.length as := by
  obtain ⟨xs, ys, hsplit⟩ := List.append_of_mem h
  obtain ⟨as, bs, hline, hshout, -, -, hcolumn, -, -⟩ := exists_of_shouts_eq hsplit
  exact ⟨as, bs, hline, hshout, hcolumn⟩

theorem quotes_diagnostic {cs line : List Char} {i : Nat} {s : Shout}
    (hsize : Utf16.length cs < 2 ^ 32) (h : (lines cs)[i]? = some line) (hs : s ∈ shouts line) :
    (s.diagnostic i).Quotes (Utf16.encode cs) (Utf16.encode line) s.letters := by
  have hline := add_length_le_of_lines h
  have hstop := stop_column_le hs
  obtain ⟨⟨hi, hstartColumn⟩, -, hstopColumn⟩ := s.toNat_range (i := i) (by omega) (by omega)
  obtain ⟨as, bs, rfl, hshout, hcolumn⟩ := exists_of_mem_shouts hs
  obtain ⟨hlong, hcapitals⟩ := isShout_iff.mp hshout
  have hwidth := Utf16.length_le_length s.letters
  have hrange : (s.diagnostic i).range = s.range i := rfl
  refine ⟨rfl, ?_, ?_, ?_, ?_, fun c hc => isCapital_iff.mp (hcapitals c hc), rfl⟩
  · rw [hrange, hi]
    exact splitOn_getElem? h
  · rw [hrange, UInt32.lt_iff_toNat_lt, hstartColumn, hstopColumn]
    omega
  · rw [hrange, hstopColumn, Utf16.length_encode]
    exact hstop
  · rw [hrange, hstartColumn, hstopColumn, hcolumn]
    exact Utf16.drop_take_encode as s.letters bs

end Scan

/-- Each diagnostic of a short enough text points, in the code units of that text cut at each line
feed, at exactly the word in capitals that its message names. No cast on the way loses anything,
neither that of a line number nor those of a word. -/
theorem diagnose_quotes_words (text : String) (hsize : (Utf16.encode text.toList).length < 2 ^ 32) :
    (∀ d ∈ diagnose text, ∃ line w, d.Quotes (Utf16.encode text.toList) line w) ∧
    ∀ (i : Nat) line, (lines text.toList)[i]? = some line →
      i.toUInt32.toNat = i ∧ ∀ s ∈ shouts line, s.Fits := by
  rw [Utf16.length_encode] at hsize
  constructor
  · intro d hd
    obtain ⟨i, line, s, hline, hs, rfl⟩ := mem_diagnoseLines_iff.mp hd
    rw [Nat.zero_add]
    exact ⟨Utf16.encode line, s.letters, quotes_diagnostic hsize hline hs⟩
  · intro i line hline
    exact ⟨toNat_lineNumber hsize hline, fun s hs => fits_of_mem_shouts hsize hline hs⟩

theorem diagnose_quotes_words_after_emoji :
    (Utf16.encode "zażółć\n😀 ABBA".toList).length < 2 ^ 32 ∧
      ∃ d ∈ diagnose "zażółć\n😀 ABBA", d.range = ⟨⟨1, 3⟩, ⟨1, 7⟩⟩ ∧
        ∃ line w, d.Quotes (Utf16.encode "zażółć\n😀 ABBA".toList) line w := by
  have hsize : (Utf16.encode "zażółć\n😀 ABBA".toList).length < 2 ^ 32 := by decide
  have hmem : Shout.diagnostic 1 ⟨3, "ABBA".toList⟩ ∈ diagnose "zażółć\n😀 ABBA" :=
    List.mem_of_getElem? (i := 0) rfl
  exact ⟨hsize, _, hmem, rfl, (diagnose_quotes_words "zażółć\n😀 ABBA" hsize).1 _ hmem⟩

end Majuscule
