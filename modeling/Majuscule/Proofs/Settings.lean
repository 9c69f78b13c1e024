import Majuscule.Proofs.Decode.Pair
import Majuscule.Proofs.Server.Frame

/-!
# The settings that are accepted

Clients send settings as any JSON value, either the settings themselves or an object that holds them
in a section of its own. This file says which values are accepted and what they give, without the
decoder. `GivesLimit` lists the four ways in which a value gives a limit : an object with the field
or without it, and an array of one element or of none.

The values that give a limit are those that decode (`decode_eq_ok_iff`). Since only the section is
read where there is one, a value without a section may be sent in one, next to whatever else
(`accepted?_section`). What gives no limit is refused with a warning, except null, which says
nothing (`exists_warning_iff`). `accepted_exactly` puts this together.
-/

namespace Majuscule

open Decode Record Act

namespace Settings

/-- The value gives a limit for the number of problems. -/
inductive GivesLimit : Json → Nat → Prop where
  | member {v : Json} {n : Nat} (h : v.get? "maxNumberOfProblems" = some (.int n))
    (hn : n < 0x10000000000000000) : GivesLimit v n
  | noMember {members : List (String × Json)} (h : members.lookup "maxNumberOfProblems" = none) :
    GivesLimit (.obj members) 1000
  | element {n : Nat} (hn : n < 0x10000000000000000) : GivesLimit (.arr [.int n]) n
  | noElement : GivesLimit (.arr []) 1000

/-! ## The decoder -/

theorem size_eq_ok_iff {v : Json} {n : Nat} :
    size v = .ok n ↔ v = .int n ∧ n < 0x10000000000000000 := by
  constructor
  · intro h
    obtain ⟨i, hi, rfl⟩ := exists_of_map_eq_ok h
    obtain ⟨rfl, hlow, hhigh⟩ := integer_eq_ok_iff.mp hi
    exact ⟨by rw [Int.toNat_of_nonneg hlow], by omega⟩
  · rintro ⟨rfl, hn⟩
    have hi : integer 0 0x10000000000000000 "usize" (.int n) = .ok (n : Int) :=
      integer_eq_ok_iff.mpr ⟨rfl, by omega, by omega⟩
    rw [Decode.size, hi]
    simp [Except.map]

theorem decode_obj_of_none {members : List (String × Json)}
    (h : members.lookup "maxNumberOfProblems" = none) : decode (.obj members) = .ok ⟨1000⟩ := by
  simp [decode, Record.decode, Record.read, ofMembers_map, defaulted, field, h, Reading.seq,
    Reading.toExcept]

theorem decode_obj_of_some {members : List (String × Json)} {v : Json}
    (h : members.lookup "maxNumberOfProblems" = some v) :
    decode (.obj members) = (size v).map mk := by
  simp only [decode, Record.decode, Record.read, ofMembers_map, defaulted, field, h]
  cases size v <;> rfl

theorem decode_arr_singleton (v : Json) : decode (.arr [v]) = (size v).map mk := by
  simp only [decode, Record.decode, readElements, Functor.map, Record.seq, Record.const, defaulted,
    field]
  cases size v <;> rfl

theorem decode_arr_of_two (v w : Json) (rest : List Json) (s : Settings) :
    decode (.arr (v :: w :: rest)) ≠ .ok s := by
  simp only [decode, Record.decode, readElements, Functor.map, Record.seq, Record.const, defaulted,
    field]
  cases size v <;> simp [ElementError.shift]

theorem map_size_eq_ok_iff {v : Json} {n : Nat} :
    (size v).map mk = .ok ⟨n⟩ ↔ v = .int n ∧ n < 0x10000000000000000 := by
  rw [← size_eq_ok_iff]
  cases size v <;> simp [Except.map]

/-- The values that decode are those that give a limit. -/
theorem decode_eq_ok_iff {v : Json} {n : Nat} : decode v = .ok ⟨n⟩ ↔ GivesLimit v n := by
  constructor
  · intro h
    cases v with
    | obj members =>
      cases hl : members.lookup "maxNumberOfProblems" with
      | none =>
        cases (decode_obj_of_none hl).symm.trans h
        exact .noMember hl
      | some w =>
        rw [decode_obj_of_some hl, map_size_eq_ok_iff] at h
        exact .member (hl.trans (by rw [h.1])) h.2
    | arr items =>
      rcases items with _ | ⟨a, _ | ⟨b, rest⟩⟩
      · cases h
        exact .noElement
      · rw [decode_arr_singleton, map_size_eq_ok_iff] at h
        rw [h.1]
        exact .element h.2
      · exact absurd h (decode_arr_of_two a b rest ⟨n⟩)
    | _ => cases h
  · intro h
    cases h with
    | member h hn =>
      cases v with
      | obj members => rw [decode_obj_of_some h, map_size_eq_ok_iff.mpr ⟨rfl, hn⟩]
      | _ => cases h
    | noMember h => exact decode_obj_of_none h
    | element hn => rw [decode_arr_singleton, map_size_eq_ok_iff.mpr ⟨rfl, hn⟩]
    | noElement => rfl

/-! ## The section -/

theorem read_of_ne_null {v : Json} (h : v ≠ .null) :
    read v = match decode (selectSection v) with
      | .ok settings => .accepted settings
      | .error e => .refused e := by
  cases v with
  | null => exact absurd rfl h
  | _ => rfl

/-- Settings are accepted if their section decodes. Null is no exception, since it does not. -/
theorem accepted?_eq (v : Json) : accepted? v = (decode (selectSection v)).toOption := by
  by_cases h : v = .null
  · subst h
    rfl
  · rw [accepted?, read_of_ne_null h]
    cases decode (selectSection v) <;> rfl

theorem accepted?_eq_some_iff {v : Json} {n : Nat} :
    accepted? v = some ⟨n⟩ ↔ GivesLimit ((v.get? "capslock").getD v) n := by
  rw [accepted?_eq, ← decode_eq_ok_iff, selectSection, sectionName]
  cases decode ((v.get? "capslock").getD v) <;> simp [Except.toOption]

theorem accepted?_eq_none_iff {v : Json} :
    accepted? v = none ↔ ∀ n, ¬GivesLimit ((v.get? "capslock").getD v) n := by
  simp only [← accepted?_eq_some_iff]
  constructor
  · intro h n hn
    cases h.symm.trans hn
  · intro h
    cases hs : accepted? v with
    | none => rfl
    | some s => exact absurd hs (h s.maxNumberOfProblems)

/-- A value that has no section gives the same settings when it is sent in one,
whatever stands next to it. -/
theorem accepted?_section {members : List (String × Json)} {v : Json}
    (h : members.lookup "capslock" = some v) (hv : v.get? "capslock" = none) :
    accepted? (.obj members) = accepted? v := by
  have hsection : selectSection (.obj members) = v := by
    rw [selectSection, sectionName, Json.get?, h]
    rfl
  have hself : selectSection v = v := by
    rw [selectSection, sectionName, hv]
    rfl
  rw [accepted?_eq, accepted?_eq, hsection, hself]

/-! ## The warning -/

/-- A warning tells of settings that are refused. Null is not, and says nothing. -/
theorem exists_warning_iff (v : Json) (s : Server) :
    (∃ e ∈ ((applySettings v).run s).log, e.level = .warn) ↔ accepted? v = none ∧ v ≠ .null := by
  rw [run_applySettings]
  by_cases h : v = .null
  · subst h
    simp [settingsEvents, read]
  · simp only [settingsEvents, accepted?, read_of_ne_null h]
    cases decode (selectSection v) <;> simp [LogEvent.level, h]

/-- What a client sends as settings is accepted with a limit if and only if its section, or the
value itself if it has none, gives that limit. Otherwise it is not accepted, and a warning is logged
unless it was null. So a value without a section may be sent in one, next to any other members, and
gives the same settings. -/
theorem accepted_exactly (sent : Json) (s : Server) :
    (∀ n, accepted? sent = some ⟨n⟩ ↔ GivesLimit ((sent.get? "capslock").getD sent) n) ∧
    ((∀ n, ¬GivesLimit ((sent.get? "capslock").getD sent) n) →
      accepted? sent = none ∧ ((∃ e ∈ ((applySettings sent).run s).log, e.level = .warn) ↔
        sent ≠ .null)) ∧
    ∀ members v, members.lookup "capslock" = some v → v.get? "capslock" = none →
      accepted? (.obj members) = accepted? v := by
  refine ⟨fun n => accepted?_eq_some_iff, fun hnone => ?_, fun members v h hv =>
    accepted?_section h hv⟩
  have hrefused := accepted?_eq_none_iff.mpr hnone
  refine ⟨hrefused, ?_⟩
  rw [exists_warning_iff, and_iff_right hrefused]

end Settings
end Majuscule
