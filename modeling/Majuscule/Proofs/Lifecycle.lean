import Majuscule.Lifecycle.Call
import Mathlib.Data.List.Induction

/-!
# The history of a session

A session remembers only its state, but what it answers can be told from the calls that came before,
the refused ones included. `ofHistory` reads the state off them : an end is final, and before it a
shutdown counts if there was a start before it (`ShutAfterStart`). A call leads from the state of a
history to that of the longer history (`ofHistory_append_singleton`), so a fresh session is always
in the state of its history (`after_fresh`).

The session answers by its state alone (`call_start_eq_ok_iff` and the lemmas beside it). Together
this says of every call in a list what comes of it, by the calls before it (`outcomes_by_history`).
-/

namespace Majuscule.Session

/-! ## Calls one after another -/

/-- The outcomes of calls, one after another. -/
def outcomes (s : Session) : List Call → List CallOutcome
  | [] => []
  | c :: rest => s.call c :: outcomes (s.call c).session rest

/-- The session after some calls. -/
def after (s : Session) (calls : List Call) : Session :=
  calls.foldl (fun s c => (s.call c).session) s

theorem after_append_singleton (s : Session) (calls : List Call) (c : Call) :
    s.after (calls ++ [c]) = ((s.after calls).call c).session := by
  simp [after]

/-- The outcome of a call is that of the call on the session that the earlier calls left. -/
theorem outcomes_getElem? (s : Session) (before : List Call) (c : Call) (rest : List Call) :
    (s.outcomes (before ++ c :: rest))[before.length]? = some ((s.after before).call c) := by
  induction before generalizing s with
  | nil => rfl
  | cons b before ih => exact ih (s.call b).session

/-! ## What a history tells -/

/-- Some start comes before some shutdown. -/
def ShutAfterStart (history : List Call) : Prop :=
  List.Sublist [.start, .shutdown] history

instance (history : List Call) : Decidable (ShutAfterStart history) :=
  inferInstanceAs (Decidable (List.Sublist _ _))

/-- There is a start, and no shutdown comes after the first one. -/
def OpenSinceStart (history : List Call) : Prop :=
  ∃ early late, history = early ++ .start :: late ∧ .start ∉ early ∧ .shutdown ∉ late

/-- The state of a session with the given history. -/
def ofHistory (history : List Call) : Session :=
  if .exit ∈ history then exited
  else if ShutAfterStart history then shuttingDown
  else if .start ∈ history then initialized
  else uninitialized

theorem ShutAfterStart.start_mem {history : List Call} (h : ShutAfterStart history) :
    .start ∈ history :=
  h.subset List.mem_cons_self

/-- One more call makes for a shutdown after a start if it is the shutdown. -/
theorem shutAfterStart_append_singleton {history : List Call} {c : Call} :
    ShutAfterStart (history ++ [c]) ↔
      ShutAfterStart history ∨ .start ∈ history ∧ c = .shutdown := by
  constructor
  · intro h
    obtain ⟨xs, ys, hsplit, hxs, hys⟩ := List.sublist_append_iff.mp h
    -- At most the shutdown comes from the new call.
    have hlength := hys.length_le
    match xs, ys, hsplit with
    | [], _, rfl => simp at hlength
    | [_], _, rfl => exact Or.inr ⟨List.singleton_sublist.mp hxs, by simpa [eq_comm] using hys⟩
    | [_, _], [], rfl => exact Or.inl hxs
  · rintro (h | ⟨hstart, rfl⟩)
    · exact h.trans (List.sublist_append_left history [c])
    · exact (List.singleton_sublist.mpr hstart).append (List.Sublist.refl [Call.shutdown])

/-- From the first start on, any shutdown comes after a start. -/
theorem shutAfterStart_append_start {early : List Call} (h : .start ∉ early) (late : List Call) :
    ShutAfterStart (early ++ .start :: late) ↔ .shutdown ∈ late := by
  constructor
  · intro hshut
    obtain ⟨xs, ys, hsplit, hxs, hys⟩ := List.sublist_append_iff.mp hshut
    cases xs with
    | nil =>
      cases hsplit
      exact List.singleton_sublist.mp (List.cons_sublist_cons.mp hys)
    | cons x xs =>
      obtain ⟨rfl, -⟩ := List.cons.inj hsplit
      exact absurd (hxs.subset List.mem_cons_self) h
  · intro hlate
    have hrest : ShutAfterStart (.start :: late) :=
      List.cons_sublist_cons.mpr (List.singleton_sublist.mpr hlate)
    exact hrest.trans (List.sublist_append_right early _)

/-- A started session is open as long as no shutdown comes after a start. -/
theorem openSinceStart_iff {history : List Call} :
    OpenSinceStart history ↔ .start ∈ history ∧ ¬ShutAfterStart history := by
  constructor
  · rintro ⟨early, late, rfl, hearly, hlate⟩
    rw [shutAfterStart_append_start hearly]
    exact ⟨by simp, hlate⟩
  · rintro ⟨hstart, hshut⟩
    obtain ⟨early, late, rfl, hearly⟩ := List.eq_append_cons_of_mem hstart
    rw [shutAfterStart_append_start hearly] at hshut
    exact ⟨early, late, rfl, hearly, hshut⟩

/-! ## The state of a history -/

theorem ofHistory_eq_uninitialized_iff {history : List Call} :
    ofHistory history = uninitialized ↔ .exit ∉ history ∧ .start ∉ history := by
  have hstart := @ShutAfterStart.start_mem history
  unfold ofHistory
  split_ifs <;> simp_all

theorem ofHistory_eq_initialized_iff {history : List Call} :
    ofHistory history = initialized ↔ .exit ∉ history ∧ OpenSinceStart history := by
  rw [openSinceStart_iff]
  unfold ofHistory
  split_ifs <;> simp_all

theorem ofHistory_eq_shuttingDown_iff {history : List Call} :
    ofHistory history = shuttingDown ↔ .exit ∉ history ∧ ShutAfterStart history := by
  unfold ofHistory
  split_ifs <;> simp_all

/-- A call leads from the state of a history to that of the longer one. -/
theorem ofHistory_append_singleton (history : List Call) (c : Call) :
    ofHistory (history ++ [c]) = ((ofHistory history).call c).session := by
  simp only [ofHistory, shutAfterStart_append_singleton, List.mem_append, List.mem_singleton]
  by_cases hexit : .exit ∈ history
  · cases c <;> simp [hexit, call, CallOutcome.ofTransition, start, shutdown, ensure]
  by_cases hshut : ShutAfterStart history
  · cases c <;> simp [hexit, hshut, call, CallOutcome.ofTransition, start, shutdown, ensure]
  by_cases hstart : .start ∈ history
  · cases c <;> simp [hexit, hshut, hstart, call, CallOutcome.ofTransition, start, shutdown, ensure]
  · cases c <;> simp [hexit, hshut, hstart, call, CallOutcome.ofTransition, start, shutdown, ensure]

/-- A fresh session is in the state of its history. -/
theorem after_fresh (history : List Call) : uninitialized.after history = ofHistory history := by
  induction history using List.reverseRecOn with
  | nil => rfl
  | append_singleton history c ih => rw [after_append_singleton, ih, ofHistory_append_singleton]

/-! ## Answers by the state -/

/-- The state that a call asks for, if it asks for one. -/
def Call.target? : Call → Option Session
  | .start => some initialized
  | .shutdown => some shuttingDown
  | _ => none

theorem call_start_eq_ok_iff {s : Session} : (s.call .start).result = .ok ↔ s = uninitialized := by
  cases s <;> simp [call, CallOutcome.ofTransition, start]

theorem call_shutdown_eq_ok_iff {s : Session} :
    (s.call .shutdown).result = .ok ↔ s = initialized := by
  cases s <;> simp [call, CallOutcome.ofTransition, shutdown]

theorem call_ensure_eq_ok_iff {s : Session} : (s.call .ensure).result = .ok ↔ s = initialized := by
  cases s <;> simp [call, ensure]

theorem call_exit_eq_success_iff {s : Session} :
    (s.call .exit).result = .exit .success ↔ s = shuttingDown := by
  cases s <;> simp [call, exitCode]

/-- A call that is refused changes nothing. -/
theorem session_call_of_refused {s : Session} {c : Call} {cause : Refusal}
    (h : (s.call c).result = .refused cause) : (s.call c).session = s := by
  cases c with
  | exit => cases h
  | state => rfl
  | _ => cases s <;> simp_all [call, CallOutcome.ofTransition, start, shutdown, ensure]

/-- A call that asks for a state leads there, or it is refused and says which state it found and
which one it was asked for. -/
theorem call_of_target {s target : Session} {c : Call} (h : c.target? = some target) :
    ((s.call c).result = .ok ∧ (s.call c).session = target) ∨
      ((s.call c).result = .refused (.invalidTransition s target) ∧
        (s.call c).log = [.transitionRefused s target]) := by
  cases c <;> cases h <;> cases s <;> simp [call, CallOutcome.ofTransition, start, shutdown]

/-! ## The law -/

/-- What comes of a call, told by the calls before it. -/
structure Call.FollowsFrom (before : List Call) (c : Call) (o : CallOutcome) : Prop where
  session_eq : o.session = ofHistory (before ++ [c])
  start_ok_iff : c = .start → (o.result = .ok ↔ .exit ∉ before ∧ .start ∉ before)
  shutdown_ok_iff : c = .shutdown → (o.result = .ok ↔ .exit ∉ before ∧ OpenSinceStart before)
  ensure_ok_iff : c = .ensure → (o.result = .ok ↔ .exit ∉ before ∧ OpenSinceStart before)
  exit_success_iff : c = .exit →
    (o.result = .exit .success ↔ .exit ∉ before ∧ ShutAfterStart before)
  state_eq : c = .state → o.result = .state (ofHistory before)
  unchanged : ∀ cause, o.result = .refused cause → o.session = ofHistory before
  transition : ∀ target, c.target? = some target →
    (o.result = .ok ∧ o.session = target) ∨
      (o.result = .refused (.invalidTransition (ofHistory before) target) ∧
        o.log = [.transitionRefused (ofHistory before) target])

theorem followsFrom_call (before : List Call) (c : Call) :
    c.FollowsFrom before ((ofHistory before).call c) where
  session_eq := (ofHistory_append_singleton before c).symm
  start_ok_iff := by
    rintro rfl
    rw [call_start_eq_ok_iff, ofHistory_eq_uninitialized_iff]
  shutdown_ok_iff := by
    rintro rfl
    rw [call_shutdown_eq_ok_iff, ofHistory_eq_initialized_iff]
  ensure_ok_iff := by
    rintro rfl
    rw [call_ensure_eq_ok_iff, ofHistory_eq_initialized_iff]
  exit_success_iff := by
    rintro rfl
    rw [call_exit_eq_success_iff, ofHistory_eq_shuttingDown_iff]
  state_eq := by
    rintro rfl
    rfl
  unchanged _ h := session_call_of_refused h
  transition _ h := call_of_target h

/-- After any calls on a fresh session, its state and the outcome of each of the calls can be told
from the calls alone. The session has ended if it was ended in their course; else it is shutting
down if a start came before a shutdown, at work if there was a start, and fresh otherwise. What
comes of a call is told by the calls before it. -/
theorem outcomes_by_history (calls : List Call) :
    uninitialized.after calls = ofHistory calls ∧
    ∀ before c rest, calls = before ++ c :: rest →
      ∃ o, (uninitialized.outcomes calls)[before.length]? = some o ∧ c.FollowsFrom before o := by
  refine ⟨after_fresh calls, ?_⟩
  rintro before c rest rfl
  refine ⟨_, outcomes_getElem? uninitialized before c rest, ?_⟩
  rw [after_fresh]
  exact followsFrom_call before c

-- The shutdown that came too early does not count, nor does the second start.
example : ofHistory [.shutdown, .start, .start, .ensure] = initialized := by decide

end Majuscule.Session
