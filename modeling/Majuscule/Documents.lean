import Majuscule.Url

/-!
# Open documents

The texts of the documents that clients have open, by URL. They are kept in ascending order of their
URLs, each once, and an operation on one document leaves every other as it is: `text?_put` and
`text?_remove` say what each does to the view `text?`.
-/

namespace Majuscule

/-- The open documents with their texts. -/
structure Documents where
  entries : List (Url × String)
  /-- The URLs ascend. -/
  sorted : entries.Pairwise fun a b => a.1.text < b.1.text
  deriving Repr

namespace Documents

/-- No documents. -/
def empty : Documents := ⟨[], .nil⟩

/-- The text of a document, if it is open. -/
def text? (d : Documents) (uri : Url) : Option String :=
  d.entries.lookup uri

/-- The URLs of all open documents. -/
def uris (d : Documents) : List Url :=
  d.entries.map Prod.fst

/-! ## Opening and changing -/

/-- Put a document into its place, instead of one with the same URL. -/
def insertEntry (uri : Url) (text : String) : List (Url × String) → List (Url × String)
  | [] => [(uri, text)]
  | e :: rest =>
    if uri = e.1 then (uri, text) :: rest
    else if uri.text < e.1.text then (uri, text) :: e :: rest
    else e :: insertEntry uri text rest

theorem mem_insertEntry {uri : Url} {text : String} {es : List (Url × String)} {e : Url × String}
    (h : e ∈ insertEntry uri text es) : e = (uri, text) ∨ e ∈ es := by
  induction es with
  | nil => simpa [insertEntry] using h
  | cons x rest ih =>
    unfold insertEntry at h
    split at h
    · rcases List.mem_cons.mp h with h | h
      · exact .inl h
      · exact .inr (List.mem_cons_of_mem _ h)
    · split at h
      · exact List.mem_cons.mp h
      · rcases List.mem_cons.mp h with h | h
        · exact .inr (h ▸ List.mem_cons_self)
        · exact (ih h).imp id (List.mem_cons_of_mem _)

theorem lt_of_ne_of_not_lt {u v : Url} (hne : u ≠ v) (h : ¬u.text < v.text) : v.text < u.text := by
  rcases String.le_total u.text v.text with hle | hle
  · have := String.le_antisymm hle (String.not_lt.mp h)
    cases u; cases v
    simp_all
  · refine String.not_le.mp fun hle' => hne ?_
    have := String.le_antisymm hle' hle
    cases u; cases v
    simp_all

theorem pairwise_insertEntry (uri : Url) (text : String) {es : List (Url × String)}
    (h : es.Pairwise fun a b => a.1.text < b.1.text) :
    (insertEntry uri text es).Pairwise fun a b => a.1.text < b.1.text := by
  induction es with
  | nil => simp [insertEntry]
  | cons e rest ih =>
    obtain ⟨hhead, htail⟩ := List.pairwise_cons.mp h
    unfold insertEntry
    split
    · next heq => exact List.pairwise_cons.mpr ⟨fun x hx => heq ▸ hhead x hx, htail⟩
    · next hne =>
      split
      · next hlt =>
        refine List.pairwise_cons.mpr ⟨fun x hx => ?_, h⟩
        rcases List.mem_cons.mp hx with rfl | hx
        · exact hlt
        · exact String.lt_trans hlt (hhead x hx)
      · next hlt =>
        refine List.pairwise_cons.mpr ⟨fun x hx => ?_, ih htail⟩
        rcases mem_insertEntry hx with rfl | hx
        · exact lt_of_ne_of_not_lt hne hlt
        · exact hhead x hx

/-- Give a document a text, whether it was open or not. -/
def put (d : Documents) (uri : Url) (text : String) : Documents :=
  ⟨insertEntry uri text d.entries, pairwise_insertEntry uri text d.sorted⟩

/-- Give a document the last of several texts; none if there are no texts. -/
def change? (d : Documents) (uri : Url) (fragments : List String) : Option Documents :=
  fragments.getLast?.map (d.put uri)

/-! ## Closing -/

/-- Forget a document. -/
def remove (d : Documents) (uri : Url) : Documents :=
  ⟨d.entries.filter fun e => e.1 ≠ uri, d.sorted.filter _⟩

/-! ## The view -/

theorem lookup_cons_entry (uri v : Url) (text : String) (es : List (Url × String)) :
    ((uri, text) :: es).lookup v = if v = uri then some text else es.lookup v := by
  rw [List.lookup_cons]
  by_cases h : v = uri
  · simp [h]
  · simp [h, beq_eq_false_iff_ne.mpr h]

theorem lookup_insertEntry (uri v : Url) (text : String) (es : List (Url × String)) :
    (insertEntry uri text es).lookup v = if v = uri then some text else es.lookup v := by
  induction es with
  | nil => simp [insertEntry, lookup_cons_entry]
  | cons e rest ih =>
    obtain ⟨w, t⟩ := e
    unfold insertEntry
    split
    · next heq =>
      have heq : uri = w := heq
      subst heq
      rw [lookup_cons_entry, lookup_cons_entry]
      split <;> rfl
    · next hne =>
      split
      · rw [lookup_cons_entry]
      · rw [lookup_cons_entry, lookup_cons_entry, ih]
        by_cases hv : v = w
        · have : v ≠ uri := fun h => hne (h.symm.trans hv)
          simp [hv, hv ▸ this]
        · simp [hv]

/-- After giving a document a text, it has that text and every other document the text it had. -/
theorem text?_put (d : Documents) (uri v : Url) (text : String) :
    (d.put uri text).text? v = if v = uri then some text else d.text? v :=
  lookup_insertEntry uri v text d.entries

theorem lookup_filter_ne (uri v : Url) (es : List (Url × String)) :
    (es.filter fun e => e.1 ≠ uri).lookup v = if v = uri then none else es.lookup v := by
  induction es with
  | nil => simp
  | cons e rest ih =>
    obtain ⟨w, t⟩ := e
    rw [List.filter_cons, lookup_cons_entry]
    by_cases hw : w = uri
    · subst hw
      rw [if_neg (by simp), ih]
      split <;> rfl
    · rw [if_pos (by simpa using hw), lookup_cons_entry, ih]
      by_cases hv : v = w
      · have : v ≠ uri := fun h => hw (hv.symm.trans h)
        simp [hv, hv ▸ this]
      · simp [hv]

/-- After closing a document, it is not open and every other document has the text it had. -/
theorem text?_remove (d : Documents) (uri v : Url) :
    (d.remove uri).text? v = if v = uri then none else d.text? v :=
  lookup_filter_ne uri v d.entries

end Documents
end Majuscule
