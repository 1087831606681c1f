import PacedImages.Dispatch

/-!
# One round of the dispatch loop

In a world whose actions change a state, a round of the loop is an equation: what is asked of the
world, in which state, and how the loop goes on. Runs are taken apart by these two equations.
-/

namespace PacedImages

variable {β α γ ε σ : Type}

theorem bind_apply (x : StateM β α) (f : α → StateM β γ) (b : β) :
    (x >>= f) b = f (x b).1 (x b).2 := rfl

theorem run_lift_bind (x : StateM β α) (f : α → ExceptT ε (StateM β) γ) (b : β) :
    ((liftM x : ExceptT ε (StateM β) α) >>= f).run b = (f (x b).1).run (x b).2 := rfl

theorem run_bind_apply (x : ExceptT ε (StateM β) α) (f : α → ExceptT ε (StateM β) γ) (b : β) :
    (x >>= f).run b =
      match x.run b with
      | (.error e, b) => (.error e, b)
      | (.ok a, b) => (f a).run b := by
  rw [ExceptT.run_bind, bind_apply]
  rcases x.run b with ⟨e | a, b⟩ <;> rfl

namespace Dispatch

variable (w : World (StateM β)) (onTimer : OnTimer (StateM β) σ) (fuel : Nat) (node : σ)
  (q : TimerQueue) (b : β)

theorem run_waiting :
    run w onTimer (fuel + 1) .waiting node q b =
      let asked := w.isShutdown b
      if asked.1 then ((some .shutdown, node, q), asked.2)
      else match q.nextDeadline.1 with
      | none =>
        ((some .idle, node, q.settle),
          (w.note ⟨.debug, .dispatch, "no timers armed, executor idle", []⟩ asked.2).2)
      | some deadline =>
        let slept := w.sleepOrShutdown deadline asked.2
        if slept.1 then ((some .shutdown, node, q.settle), slept.2)
        else
          let read := w.now slept.2
          run w onTimer fuel (.batch read.1) node q.settle read.2 := by
  rw [run, bind_apply]
  dsimp only
  cases (w.isShutdown b).1 with
  | true => rfl
  | false =>
    rw [show q.nextDeadline = (q.nextDeadline.1, q.settle) from rfl]
    cases q.nextDeadline.1 with
    | none => rfl
    | some deadline =>
      simp only [Bool.false_eq_true, if_false]
      rw [bind_apply]
      cases (w.sleepOrShutdown deadline (w.isShutdown b).2).1 <;> rfl

theorem run_batch (now : Instant) :
    run w onTimer (fuel + 1) (.batch now) node q b =
      match q.popDue now with
      | (none, q) => run w onTimer fuel .waiting node q b
      | (some handle, q) =>
        let fired := onTimer handle node q b
        let asked := w.isShutdown fired.2
        if asked.1 then ((some .shutdown, fired.1.1, fired.1.2), asked.2)
        else run w onTimer fuel (.batch now) fired.1.1 fired.1.2 asked.2 := by
  rw [run]
  rcases q.popDue now with ⟨_ | handle, q⟩
  · rfl
  · simp only
    rw [bind_apply, bind_apply]
    cases (w.isShutdown (onTimer handle node q b).2).1 <;> rfl

end Dispatch

end PacedImages
