import Mathlib.Data.List.MinMax
import Mathlib.Data.Prod.Lex
import PacedImages.Proofs.Time.TimerQueue

/-!
# Timer queues as sets of timers

A set of timers keeps a map from handles to timers and nothing else but the next handle; it searches
the map whenever a timer is asked for. Main statement: every sequence of calls gets the same answers
from a timer queue as from a set, so expiries left behind by cancelled timers are never seen.
-/

namespace PacedImages

/-- A call on timers, with the clock as it reads when a timer is armed. -/
inductive TimerCall where
  | once (clock : Instant) (delay : Duration)
  | every (clock : Instant) (period : Duration)
  | cancel (handle : Handle)
  | isActive (handle : Handle)
  | size
  | isEmpty
  | nextDeadline
  | popDue (now : Instant)
deriving DecidableEq

inductive TimerAnswer where
  | armed (handle : Handle)
  | flag (value : Bool)
  | count (n : Nat)
  | deadline (found : Option Instant)
  | popped (found : Option Handle)
deriving DecidableEq

/-- The answers to calls one after the other, and what is left. -/
def replay {σ : Type} (serve : σ → TimerCall → TimerAnswer × σ) :
    σ → List TimerCall → List TimerAnswer × σ
  | s, [] => ([], s)
  | s, call :: rest =>
    let (answer, s) := serve s call
    let (answers, s) := replay serve s rest
    (answer :: answers, s)

/-- The handles that were given, in order. -/
def armedHandles (answers : List TimerAnswer) : List Handle :=
  answers.filterMap fun
    | .armed handle => some handle
    | _ => none

namespace TimerQueue

def serve (q : TimerQueue) : TimerCall → TimerAnswer × TimerQueue
  | .once clock delay => let (h, q) := q.scheduleOnce clock delay; (.armed h, q)
  | .every clock period => let (h, q) := q.scheduleEvery clock period; (.armed h, q)
  | .cancel handle => let (found, q) := q.cancel handle; (.flag found, q)
  | .isActive handle => (.flag (q.isActive handle), q)
  | .size => (.count q.size, q)
  | .isEmpty => (.flag q.isEmpty, q)
  | .nextDeadline => let (found, q) := q.nextDeadline; (.deadline found, q)
  | .popDue now => let (found, q) := q.popDue now; (.popped found, q)

end TimerQueue

structure TimerSet where
  nextHandle : Handle
  live : Std.ExtTreeMap Handle Timer

namespace TimerSet

def empty : TimerSet := ⟨0, ∅⟩

def insert (s : TimerSet) (t : Timer) : TimerAnswer × TimerSet :=
  (.armed s.nextHandle, ⟨s.nextHandle + 1, s.live.insert s.nextHandle t⟩)

/-- The live timer with the smallest deadline, and of several the one with the smallest handle. -/
def first? (s : TimerSet) : Option (Handle × Timer) :=
  s.live.toList.argmin fun x => toLex (x.2.deadline, x.1)

def popDue (s : TimerSet) (now : Instant) : Option Handle × TimerSet :=
  match s.first? with
  | none => (none, s)
  | some (h, t) =>
    if t.deadline ≤ now then
      (some h, { s with live := TimerQueue.afterFiring s.live now h t })
    else (none, s)

def serve (s : TimerSet) : TimerCall → TimerAnswer × TimerSet
  | .once clock delay => s.insert ⟨.once, clock + delay⟩
  | .every clock period =>
    s.insert ⟨.every (max period Time.minPeriod), clock + max period Time.minPeriod⟩
  | .cancel handle =>
    (.flag (s.live.contains handle), { s with live := s.live.erase handle })
  | .isActive handle => (.flag (s.live.contains handle), s)
  | .size => (.count s.live.size, s)
  | .isEmpty => (.flag s.live.isEmpty, s)
  | .nextDeadline => (.deadline (s.live.toList.map (·.2.deadline)).min?, s)
  | .popDue now => let (found, s) := s.popDue now; (.popped found, s)

/-- The timers of a queue. -/
def ofQueue (q : TimerQueue) : TimerSet := ⟨q.nextHandle, q.timers⟩

variable {s : TimerSet}

theorem first?_eq_none (h : ∀ k : Handle, s.live[k]? = none) : s.first? = none := by
  refine List.argmin_eq_none.mpr (List.eq_nil_iff_forall_not_mem.mpr ?_)
  rintro ⟨k, u⟩ hmem
  have hu := Std.ExtTreeMap.mem_toList_iff_getElem?_eq_some.mp hmem
  rw [h k] at hu
  cases hu

theorem first?_eq_some {h : Handle} {t : Timer} (hfirst : TimerQueue.IsFirst s.live h t) :
    s.first? = some (h, t) := by
  have hmem := Std.ExtTreeMap.mem_toList_iff_getElem?_eq_some.mpr hfirst.1
  cases hs : s.first? with
  | none =>
    rw [List.argmin_eq_none.mp hs] at hmem
    cases hmem
  | some x =>
    obtain ⟨k, u⟩ := x
    have hu := Std.ExtTreeMap.mem_toList_iff_getElem?_eq_some.mp (List.argmin_mem hs)
    have hle : u.deadline < t.deadline ∨ (u.deadline = t.deadline ∧ k ≤ h) :=
      Prod.Lex.toLex_le_toLex.mp (List.le_of_mem_argmin hmem hs)
    -- Each of the two comes no later than the other, so they have one handle.
    have hk : k = h := by
      have hge := hfirst.2 k u hu
      unfold Instant Handle at *
      omega
    subst hk
    have hut : u = t := Option.some.inj (hu.symm.trans hfirst.1)
    rw [hut]

theorem min?_deadlines {h : Handle} {t : Timer} (hfirst : TimerQueue.IsFirst s.live h t) :
    (s.live.toList.map (·.2.deadline)).min? = some t.deadline := by
  refine List.min?_eq_some_iff.mpr ⟨?_, ?_⟩
  · exact List.mem_map.mpr
      ⟨(h, t), Std.ExtTreeMap.mem_toList_iff_getElem?_eq_some.mpr hfirst.1, rfl⟩
  · intro d hd
    obtain ⟨⟨k, u⟩, hmem, rfl⟩ := List.mem_map.mp hd
    have hu := Std.ExtTreeMap.mem_toList_iff_getElem?_eq_some.mp hmem
    rcases hfirst.2 k u hu with hlt | ⟨heq, _⟩
    · exact Nat.le_of_lt hlt
    · exact Nat.le_of_eq heq

theorem min?_deadlines_of_none (h : ∀ k : Handle, s.live[k]? = none) :
    (s.live.toList.map (·.2.deadline)).min? = none := by
  have hnil : s.live.toList = [] := List.argmin_eq_none.mp (first?_eq_none h)
  rw [hnil]
  rfl

theorem popDue_of_none_due (now : Instant)
    (h : ∀ (k : Handle) (u : Timer), s.live[k]? = some u → now < u.deadline) :
    s.popDue now = (none, s) := by
  unfold popDue
  cases hs : s.first? with
  | none => rfl
  | some x =>
    obtain ⟨k, u⟩ := x
    have hu := Std.ExtTreeMap.mem_toList_iff_getElem?_eq_some.mp (List.argmin_mem hs)
    simp only
    rw [if_neg (Nat.not_le_of_lt (h k u hu))]

end TimerSet

namespace TimerQueue

variable {q : TimerQueue}

/-- One call: the queue answers as its timers alone do, and stays coherent. -/
theorem serve_eq_set (c : Coherent q) (call : TimerCall) :
    (q.serve call).1 = ((TimerSet.ofQueue q).serve call).1 ∧
      TimerSet.ofQueue (q.serve call).2 = ((TimerSet.ofQueue q).serve call).2 ∧
      Coherent (q.serve call).2 := by
  cases call with
  | once clock delay => exact ⟨rfl, rfl, c.arm .once _⟩
  | every clock period => exact ⟨rfl, rfl, c.arm (.every _) _⟩
  | cancel handle => exact ⟨rfl, rfl, c.cancel handle⟩
  | isActive handle => exact ⟨rfl, rfl, c⟩
  | size => exact ⟨rfl, rfl, c⟩
  | isEmpty => exact ⟨rfl, rfl, c⟩
  | nextDeadline =>
    refine ⟨?_, rfl, c.settle⟩
    rcases c.nextDeadline_cases with ⟨hnext, hnone⟩ | ⟨h, t, hnext, hfirst⟩
    · simp only [serve, TimerSet.serve, hnext]
      rw [TimerSet.min?_deadlines_of_none hnone]
    · simp only [serve, TimerSet.serve, hnext]
      rw [TimerSet.min?_deadlines hfirst]
  | popDue now =>
    rcases c.popDue_cases now with ⟨hpop, hlate⟩ | ⟨h, t, hfirst, hdue, hpop, hnext, htimers, c'⟩
    · have hset := TimerSet.popDue_of_none_due (s := TimerSet.ofQueue q) now hlate
      simp only [serve, TimerSet.serve, hpop, hset]
      exact ⟨trivial, rfl, c.settle⟩
    · have hset : (TimerSet.ofQueue q).popDue now =
          (some h, ⟨q.nextHandle, afterFiring q.timers now h t⟩) := by
        simp only [TimerSet.popDue, TimerSet.first?_eq_some (s := TimerSet.ofQueue q) hfirst,
          if_pos hdue]
        rfl
      simp only [serve, TimerSet.serve, hpop, hset]
      exact ⟨trivial, by rw [TimerSet.ofQueue, hnext, htimers], c'⟩

/-- The same for calls one after the other. -/
theorem replay_eq_set (c : Coherent q) (calls : List TimerCall) :
    (replay serve q calls).1 = (replay TimerSet.serve (TimerSet.ofQueue q) calls).1 ∧
      TimerSet.ofQueue (replay serve q calls).2 =
        (replay TimerSet.serve (TimerSet.ofQueue q) calls).2 ∧
      Coherent (replay serve q calls).2 := by
  induction calls generalizing q with
  | nil => exact ⟨rfl, rfl, c⟩
  | cons call rest ih =>
    obtain ⟨hanswer, hset, c'⟩ := serve_eq_set c call
    obtain ⟨hanswers, hsets, c''⟩ := ih c'
    rw [hset] at hanswers hsets
    refine ⟨?_, hsets, c''⟩
    simp only [replay]
    rw [hanswer, hanswers]

/-- The queues that calls lead to. -/
def Reachable (q : TimerQueue) : Prop := ∃ calls, (replay serve .empty calls).2 = q

theorem Reachable.coherent (reachable : Reachable q) : Coherent q := by
  obtain ⟨calls, rfl⟩ := reachable
  exact (replay_eq_set Coherent.empty calls).2.2

end TimerQueue

namespace TimerSet

theorem serve_nextHandle (s : TimerSet) (call : TimerCall) :
    (s.serve call).1 = .armed s.nextHandle ∧ (s.serve call).2.nextHandle = s.nextHandle + 1 ∨
      (∀ h, (s.serve call).1 ≠ .armed h) ∧ (s.serve call).2.nextHandle = s.nextHandle := by
  cases call with
  | once clock delay => exact Or.inl ⟨rfl, rfl⟩
  | every clock period => exact Or.inl ⟨rfl, rfl⟩
  | popDue now =>
    refine Or.inr ⟨fun h => by simp [serve], ?_⟩
    simp only [serve, popDue]
    split
    · rfl
    · split <;> rfl
  | _ => exact Or.inr ⟨fun h => by simp [serve], rfl⟩

/-- Handles are counted, so none is given twice; in 64 bits as long as no more than 2 ^ 64 timers
are armed. -/
theorem armedHandles_replay (s : TimerSet) (calls : List TimerCall) :
    (∀ h ∈ armedHandles (replay serve s calls).1, s.nextHandle ≤ h) ∧
      (armedHandles (replay serve s calls).1).Pairwise (· < ·) := by
  induction calls generalizing s with
  | nil => exact ⟨fun h hh => (by cases hh), List.Pairwise.nil⟩
  | cons call rest ih =>
    obtain ⟨hlow, hincreasing⟩ := ih (s.serve call).2
    rcases s.serve_nextHandle call with ⟨harmed, hnext⟩ | ⟨hother, hnext⟩
    · have hcons : armedHandles (replay serve s (call :: rest)).1 =
          s.nextHandle :: armedHandles (replay serve (s.serve call).2 rest).1 := by
        simp [replay, armedHandles, harmed]
      rw [hcons]
      rw [hnext] at hlow
      refine ⟨?_, List.pairwise_cons.mpr ⟨fun h hh => hlow h hh, hincreasing⟩⟩
      intro h hh
      rcases List.mem_cons.mp hh with rfl | hh
      · exact Nat.le_refl _
      · exact Nat.le_of_succ_le (hlow h hh)
    · have hskip : armedHandles (replay serve s (call :: rest)).1 =
          armedHandles (replay serve (s.serve call).2 rest).1 := by
        cases ha : (s.serve call).1 with
        | armed h => exact False.elim (hother h ha)
        | _ => simp [replay, armedHandles, ha]
      rw [hskip]
      exact ⟨fun h hh => hnext ▸ hlow h hh, hincreasing⟩

end TimerSet

namespace TimerQueue

/-- Whatever is asked of a queue, it answers as the set of its timers does; the expiries under the
handle of a timer are one, at its deadline; and it gives nothing only when no timer is due. The
handles grow without end; with a counter of 64 bits this is about the first 2 ^ 64 timers. -/
theorem replay_refines_set (calls : List TimerCall) :
    let (answers, q) := replay serve .empty calls
    let (expected, s) := replay TimerSet.serve .empty calls
    answers = expected ∧ (armedHandles answers).Pairwise (· < ·) ∧
      q.nextHandle = s.nextHandle ∧ q.timers = s.live ∧
      (∀ (h : Handle) (t : Timer), q.timers[h]? = some t →
        q.expiries.filter (fun x => x.2 == h) = [(t.deadline, h)]) ∧
      ∀ now, (q.popDue now).1 = none ↔
        ∀ (h : Handle) (t : Timer), q.timers[h]? = some t → now < t.deadline := by
  obtain ⟨hanswers, hset, c⟩ := replay_eq_set Coherent.empty calls
  have hempty : TimerSet.ofQueue .empty = .empty := rfl
  rw [hempty] at hanswers hset
  simp only
  refine ⟨hanswers, ?_, ?_, ?_, fun h t ht => c.expiries_of_timer ht, ?_⟩
  · rw [hanswers]
    exact (TimerSet.armedHandles_replay .empty calls).2
  · exact congrArg TimerSet.nextHandle hset
  · exact congrArg TimerSet.live hset
  · intro now
    rcases c.popDue_cases now with ⟨hpop, hlate⟩ | ⟨h, t, hfirst, hdue, hpop, _⟩
    · rw [hpop]
      exact ⟨fun _ => hlate, fun _ => rfl⟩
    · rw [hpop]
      constructor
      · intro hnone
        cases hnone
      · intro hlate
        exact False.elim (Nat.not_lt_of_le hdue (hlate h t hfirst.1))

end TimerQueue

end PacedImages
