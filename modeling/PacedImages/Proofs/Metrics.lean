import PacedImages.Metrics

/-!
# Tallies

An attempt to hand over an image is accepted or refused. A series tallies attempts if each of its
numbers is what they come to: how many were accepted, how many refused, and the bytes of those that
were accepted. Counters start over past 64 bits, so they are known up to that.
-/

namespace PacedImages

/-- An attempt of a publisher to hand over an image of so many bytes. -/
structure Attempt where
  name : String
  size : Nat
  accepted : Bool
deriving Repr, DecidableEq

namespace Attempt

/-- How many of the attempts were accepted. -/
def accepts (made : List Attempt) : Nat := made.countP (·.accepted)

def refusals (made : List Attempt) : Nat := made.countP fun a => !a.accepted

/-- The bytes of the attempts that were accepted. -/
def bytes : List Attempt → Nat
  | [] => 0
  | a :: rest => (if a.accepted then a.size else 0) + bytes rest

/-- What a series makes of an attempt. -/
def record (a : Attempt) (seconds : Float) (s : Series) : Series :=
  if a.accepted then s.recordPublish a.size seconds else s.recordError

variable {made : List Attempt} {a : Attempt}

theorem accepts_append : accepts (made ++ [a]) = accepts made + if a.accepted then 1 else 0 := by
  rw [accepts, List.countP_append, List.countP_singleton]
  rfl

theorem refusals_append : refusals (made ++ [a]) = refusals made + if a.accepted then 0 else 1 := by
  rw [refusals, List.countP_append, List.countP_singleton]
  cases a.accepted <;> rfl

theorem bytes_append : bytes (made ++ [a]) = bytes made + if a.accepted then a.size else 0 := by
  induction made with
  | nil => simp [bytes]
  | cons first rest ih =>
    rw [List.cons_append, bytes, bytes, ih, Nat.add_assoc]

/-- An attempt is accepted or refused. -/
theorem accepts_add_refusals (made : List Attempt) :
    accepts made + refusals made = made.length := by
  rw [List.length_eq_countP_add_countP (·.accepted)]
  simp [accepts, refusals]

end Attempt

/-- The numbers of a series are those of the attempts. -/
structure Series.Tallies (s : Series) (made : List Attempt) : Prop where
  messages : s.messages = UInt64.ofNat (Attempt.accepts made)
  errors : s.errors = UInt64.ofNat (Attempt.refusals made)
  bytes : s.bytes = UInt64.ofNat (Attempt.bytes made)
  samples : s.duration.count = s.messages

namespace Series.Tallies

variable {s : Series} {made : List Attempt}

theorem fresh : Series.fresh.Tallies [] := ⟨rfl, rfl, rfl, rfl⟩

theorem record (tallies : s.Tallies made) (a : Attempt) (seconds : Float) :
    (a.record seconds s).Tallies (made ++ [a]) := by
  obtain ⟨hmessages, herrors, hbytes, hsamples⟩ := tallies
  cases haccepted : a.accepted with
  | true =>
    rw [Attempt.record, if_pos haccepted]
    refine ⟨?_, ?_, ?_, ?_⟩
    · rw [Attempt.accepts_append, haccepted, UInt64.ofNat_add, ← hmessages]
      rfl
    · rw [Attempt.refusals_append, haccepted]
      exact herrors
    · rw [Attempt.bytes_append, haccepted, UInt64.ofNat_add, ← hbytes]
      rfl
    · exact congrArg (· + 1) hsamples
  | false =>
    rw [Attempt.record, if_neg (by simp [haccepted])]
    refine ⟨?_, ?_, ?_, hsamples⟩
    · rw [Attempt.accepts_append, haccepted]
      exact hmessages
    · rw [Attempt.refusals_append, haccepted, UInt64.ofNat_add, ← herrors]
      rfl
    · rw [Attempt.bytes_append, haccepted]
      exact hbytes

/-- Together the two counters have every attempt. -/
theorem messages_add_errors (tallies : s.Tallies made) :
    s.messages + s.errors = UInt64.ofNat made.length := by
  rw [tallies.messages, tallies.errors, ← UInt64.ofNat_add, Attempt.accepts_add_refusals]

end Series.Tallies

namespace Metrics

theorem getElem?_update (m : Metrics) (name label : String) (change : Series → Series) :
    (m.update name change).series[label]? =
      if name = label then some (change (m.get name)) else m.series[label]? := by
  simp [update, Std.ExtTreeMap.getElem?_insert, Std.LawfulEqCmp.compare_eq_iff_eq]

theorem get_empty (label : String) : Metrics.empty.get label = .fresh := by
  show ((∅ : Std.ExtTreeMap String Series)[label]?).getD Series.fresh = Series.fresh
  simp

theorem get_update (m : Metrics) (name label : String) (change : Series → Series) :
    (m.update name change).get label =
      if name = label then change (m.get name) else m.get label := by
  rw [get, getElem?_update]
  split <;> rfl

/-- Creating a series changes none. -/
theorem get_touch (m : Metrics) (name label : String) : (m.touch name).get label = m.get label := by
  rw [touch, get_update]
  split
  · next heq => exact congrArg m.get heq
  · rfl

end Metrics

end PacedImages
