import Mathlib.Data.Nat.Find
import PacedImages.Proofs.Dispatch.Loop
import PacedImages.Publisher.Load
import PacedImages.Scene

/-!
# What comes of loading settings

To the loading of settings a source is a course of rounds: in each it cannot be reached, or it goes
away while it is asked, or it answers. The first round that ends the waiting decides what comes of
it: an answer whatever else there is, a request for shutdown before the attempts are used up. So
many rounds are made, and all but the last are counted and reported.
-/

namespace PacedImages

/-- Whether the source was out of reach in a round, or went away. -/
def Round.isMissed : Round → Bool
  | ⟨false, _⟩ => true
  | ⟨true, .error (.unavailable _)⟩ => true
  | ⟨true, _⟩ => false

/-- What is reported of a round by itself. -/
def Round.entries (node : String) : Round → List LogEntry
  | ⟨true, .error (.unavailable reason)⟩ =>
    [⟨.warn, .settings, "parameter source went away while reading",
      [("node", .text node), ("reason", .words reason)]⟩]
  | _ => []

/-- With which missed round a policy gives up, if ever; there is always one round. -/
def RetryPolicy.limit? (policy : RetryPolicy) : Option Nat :=
  policy.maxAttempts.map fun m => max m.toNat 1

/-- What a source does in each round, counted from one, and whether shutdown is requested at the end
of it. -/
structure Course where
  round : Nat → Round
  isStopped : Nat → Bool

/-- How far the rounds have gone. -/
structure Stand where
  /-- How often the source was waited for. -/
  waits : Nat
  /-- What was reported about settings, in order. -/
  log : List LogEntry

def Stand.noted (v : Stand) (e : LogEntry) : Stand :=
  if e.component = .settings then { v with log := v.log ++ [e] } else v

namespace Course

/-- The source takes this course in the world: `shows b v` says that its state `b` shows `v`. -/
structure Plays {β : Type} (course : Course) (w : World (StateM β)) (source : Source (StateM β))
    (shows : β → Stand → Prop) : Prop where
  wait {b v} (timeout : Duration) : shows b v →
    (source.wait timeout b).1 = (course.round (v.waits + 1)).isReachable ∧
      shows (source.wait timeout b).2 { v with waits := v.waits + 1 }
  get {b v} : shows b v →
    (source.get Settings.names b).1 = (course.round v.waits).answer ∧
      shows (source.get Settings.names b).2 v
  isShutdown {b v} : shows b v →
    (w.isShutdown b).1 = course.isStopped v.waits ∧ shows (w.isShutdown b).2 v
  note {b v} (e : LogEntry) : shows b v → shows (w.note e b).2 (v.noted e)

/-- After the round the source is not waited for again. -/
def Ends (course : Course) (policy : RetryPolicy) (k : Nat) : Prop :=
  (course.round k).isMissed = true → course.isStopped k = true ∨ policy.limit? = some k

/-- The round is the first of that kind. -/
structure EndsFirst (course : Course) (policy : RetryPolicy) (k : Nat) : Prop where
  pos : 0 < k
  ends : course.Ends policy k
  before : ∀ i, 0 < i → i < k → ¬ course.Ends policy i

/-- What comes of loading if that round is the first of that kind. -/
inductive Outcome (course : Course) (policy : RetryPolicy) (k : Nat) :
    Except WorkerError Settings → Prop where
  | answered (p : Parameters) : course.round k = ⟨true, .ok p⟩ →
    Outcome course policy k (Settings.ofParameters p)
  | refused (e : ParamError) : course.round k = ⟨true, .error e⟩ →
    (∀ reason, e ≠ .unavailable reason) → Outcome course policy k (.error (.param e))
  | interrupted : (course.round k).isMissed = true → course.isStopped k = true →
    Outcome course policy k (.error .interrupted)
  | exhausted (attempts : UInt32) : (course.round k).isMissed = true →
    course.isStopped k = false → policy.limit? = some k → attempts.toNat = k →
    Outcome course policy k (.error (.sourceUnavailable attempts))

end Course

namespace Settings

def againMessage : String := "parameter service not available, waiting again"

/-- The entry for a missed round that is followed by another. -/
def againEntry (node : String) (attempts : Nat) : LogEntry :=
  ⟨.info, .settings, againMessage, [("node", .text node), ("attempts", .number attempts)]⟩

def interruptedEntry (node : String) : LogEntry :=
  ⟨.error, .settings, "interrupted while waiting for the parameter service, exiting",
    [("node", .text node)]⟩

def exhaustedEntry (node : String) (attempts : Nat) : LogEntry :=
  ⟨.error, .settings, "parameter service never became available",
    [("node", .text node), ("attempts", .number attempts)]⟩

/-- The entries of missed rounds from one on that are all followed by another. -/
def againEntries (course : Course) (node : String) (first count : Nat) : List LogEntry :=
  (List.range' first count).flatMap fun i =>
    (course.round i).entries node ++ [againEntry node i]

theorem againEntries_succ (course : Course) (node : String) (first count : Nat) :
    againEntries course node first (count + 1) =
      ((course.round first).entries node ++ [againEntry node first]) ++
        againEntries course node (first + 1) count := by
  rw [againEntries, List.range'_succ, List.flatMap_cons]
  rfl

section

variable {β : Type} (w : World (StateM β)) (source : Source (StateM β)) (policy : RetryPolicy)
  (node : String) (fuel : Nat) (attempts : UInt32) (b : β)

theorem loadFrom_succ :
    loadFrom w source policy node (fuel + 1) attempts b =
      let asked := ask w source policy node b
      match asked.1 with
      | some answer => ((some (accept w node answer asked.2).1), (accept w node answer asked.2).2)
      | none =>
        let stopped := w.isShutdown asked.2
        if stopped.1 then
          (some (.error .interrupted), (w.note (interruptedEntry node) stopped.2).2)
        else if policy.maxAttempts.any (· ≤ attempts + 1) then
          (some (.error (.sourceUnavailable (attempts + 1))),
            (w.note (exhaustedEntry node (attempts + 1).toNat) stopped.2).2)
        else
          loadFrom w source policy node fuel (attempts + 1)
            (w.note (againEntry node (attempts + 1).toNat) stopped.2).2 := by
  rw [loadFrom, bind_apply]
  dsimp only
  cases (ask w source policy node b).1 with
  | some answer => rfl
  | none =>
    simp only
    rw [bind_apply]
    cases (w.isShutdown (ask w source policy node b).2).1 with
    | true => rfl
    | false =>
      simp only [Bool.false_eq_true, if_false]
      cases policy.maxAttempts.any (· ≤ attempts + 1) <;> rfl

theorem ask_eq :
    ask w source policy node b =
      let waited := source.wait policy.wait b
      let got := source.get names waited.2
      if waited.1 then
        match got.1 with
        | .error (.unavailable reason) =>
          (none, (w.note ⟨.warn, .settings, "parameter source went away while reading",
            [("node", .text node), ("reason", .words reason)]⟩ got.2).2)
        | answer => (some answer, got.2)
      else (none, waited.2) := by
  rw [ask, bind_apply]
  dsimp only
  cases (source.wait policy.wait b).1 with
  | false => rfl
  | true =>
    simp only [if_true]
    rw [bind_apply]
    rcases (source.get names (source.wait policy.wait b).2).1 with e | p
    · cases e <;> rfl
    · rfl

theorem accept_ok (p : Parameters) :
    accept w node (.ok p) b =
      (ofParameters p,
        match ofParameters p with
        | .error _ => b
        | .ok s => (w.note (loadedEntry node s) b).2) := by
  unfold accept
  dsimp only
  rcases ofParameters p with e | s <;> rfl

end

end Settings

namespace Course

variable {β : Type} {course : Course} {w : World (StateM β)} {source : Source (StateM β)}
  {shows : β → Stand → Prop} {policy : RetryPolicy} {attempts : UInt32} {b : β} {v : Stand}
  {k : Nat}

/-! ## Attempts -/

/-- The limit of a policy is counted without overflow. -/
theorem lt_size_of_limit {n : Nat} (h : policy.limit? = some n) : n < UInt32.size := by
  obtain ⟨m, _, rfl⟩ := Option.map_eq_some_iff.mp h
  have hm := m.toNat_lt
  show max m.toNat 1 < 2 ^ 32
  omega

/-- A count not past the limit reaches it by equality. -/
theorem reaches_iff (hpos : 0 < k) (hcount : attempts.toNat = k)
    (hless : ∀ n ∈ policy.limit?, k ≤ n) :
    policy.maxAttempts.any (· ≤ attempts) = true ↔ policy.limit? = some k := by
  unfold RetryPolicy.limit? at hless ⊢
  cases hmax : policy.maxAttempts with
  | none => simp
  | some m =>
    rw [hmax] at hless
    have hle : k ≤ max m.toNat 1 := hless _ rfl
    rw [Option.any_some, decide_eq_true_iff, UInt32.le_iff_toNat_le, hcount, Option.map_some,
      Option.some.injEq]
    omega

/-- So many rounds were missed, and the limit lies ahead. -/
structure Waiting (policy : RetryPolicy) (v : Stand) (attempts : UInt32) : Prop where
  count : attempts.toNat = v.waits
  ahead : ∀ n ∈ policy.limit?, v.waits < n

theorem Waiting.start (policy : RetryPolicy) (log : List LogEntry) :
    Waiting policy ⟨0, log⟩ 0 := by
  refine ⟨rfl, ?_⟩
  intro n hn
  obtain ⟨m, _, rfl⟩ := Option.map_eq_some_iff.mp hn
  exact Nat.lt_of_lt_of_le Nat.zero_lt_one (Nat.le_max_right _ _)

theorem Waiting.succ_toNat (waiting : Waiting policy v attempts)
    (hsize : policy.limit? = none → v.waits + 1 < UInt32.size) :
    (attempts + 1).toNat = v.waits + 1 := by
  have hlt : v.waits + 1 < UInt32.size := by
    cases hlimit : policy.limit? with
    | none => exact hsize hlimit
    | some n => exact Nat.lt_of_le_of_lt (waiting.ahead n hlimit) (lt_size_of_limit hlimit)
  rw [UInt32.toNat_add, UInt32.toNat_one, waiting.count]
  exact Nat.mod_eq_of_lt hlt

/-! ## Reports that do not say that the source is waited for again -/

def Closing (log : List LogEntry) : Prop := ∀ e ∈ log, e.message ≠ Settings.againMessage

theorem closing_nil : Closing [] := fun _ he => absurd he List.not_mem_nil

theorem Closing.concat {log : List LogEntry} (h : Closing log) {e : LogEntry}
    (he : e.message ≠ Settings.againMessage) : Closing (log ++ [e]) := by
  intro e' he'
  rcases List.mem_append.mp he' with hlog | hlast
  · exact h e' hlog
  · rw [List.mem_singleton.mp hlast]
    exact he

theorem Closing.filter {log : List LogEntry} (h : Closing log) :
    log.filter (·.message == Settings.againMessage) = [] := by
  rw [List.filter_eq_nil_iff]
  intro e he hsame
  exact h e he (beq_iff_eq.mp hsame)

theorem closing_entries (node : String) (r : Round) : Closing (r.entries node) := by
  unfold Round.entries
  split
  · exact closing_nil.concat (by simp [Settings.againMessage])
  · exact closing_nil

/-! ## One round -/

theorem Plays.report (plays : course.Plays w source shows) {e : LogEntry}
    (he : e.component = .settings) (hb : shows b v) :
    shows (w.note e b).2 ⟨v.waits, v.log ++ [e]⟩ := by
  have hnoted := plays.note e hb
  rwa [Stand.noted, if_pos he] at hnoted

/-- A round of the course, as the loop sees it. -/
theorem Plays.ask (plays : course.Plays w source shows) (policy : RetryPolicy) (node : String)
    (hb : shows b v) :
    ∃ b', shows b' ⟨v.waits + 1, v.log ++ (course.round (v.waits + 1)).entries node⟩ ∧
      Settings.ask w source policy node b =
        (if (course.round (v.waits + 1)).isMissed then none
          else some (course.round (v.waits + 1)).answer, b') := by
  obtain ⟨hreached, hwaited⟩ := plays.wait policy.wait hb
  obtain ⟨hanswer, hgot⟩ := plays.get hwaited
  rw [Settings.ask_eq]
  simp only [hreached, hanswer]
  rcases course.round (v.waits + 1) with ⟨_ | _, e | p⟩
  · exact ⟨_, by simpa [Round.entries] using hwaited, rfl⟩
  · exact ⟨_, by simpa [Round.entries] using hwaited, rfl⟩
  · cases e with
    | unavailable reason => exact ⟨_, plays.report rfl hgot, rfl⟩
    | _ => exact ⟨_, by simpa [Round.entries] using hgot, rfl⟩
  · exact ⟨_, by simpa [Round.entries] using hgot, rfl⟩

/-- A missed round: shutdown is looked at first, then the attempts are counted. -/
theorem Plays.missed (plays : course.Plays w source shows) (policy : RetryPolicy) (node : String)
    (fuel : Nat) (attempts : UInt32) (hmissed : (course.round (v.waits + 1)).isMissed = true)
    (hb : shows b v) :
    ∃ b', shows b' ⟨v.waits + 1, v.log ++ (course.round (v.waits + 1)).entries node⟩ ∧
      Settings.loadFrom w source policy node (fuel + 1) attempts b =
        if course.isStopped (v.waits + 1) then
          (some (.error .interrupted), (w.note (Settings.interruptedEntry node) b').2)
        else if policy.maxAttempts.any (· ≤ attempts + 1) then
          (some (.error (.sourceUnavailable (attempts + 1))),
            (w.note (Settings.exhaustedEntry node (attempts + 1).toNat) b').2)
        else
          Settings.loadFrom w source policy node fuel (attempts + 1)
            (w.note (Settings.againEntry node (attempts + 1).toNat) b').2 := by
  obtain ⟨b₁, hb₁, hask⟩ := plays.ask policy node hb
  obtain ⟨hstopped, hb₂⟩ := plays.isShutdown hb₁
  refine ⟨_, hb₂, ?_⟩
  rw [Settings.loadFrom_succ, hask]
  simp only [hmissed, hstopped, if_true]

theorem Outcome.of_answer (h : ¬ (course.round k).isMissed = true) :
    Outcome course policy k
      (((course.round k).answer.mapError WorkerError.param).bind Settings.ofParameters) := by
  cases hround : course.round k with
  | mk isReachable answer =>
    rw [hround] at h
    cases isReachable with
    | false => exact absurd rfl h
    | true =>
      cases answer with
      | ok p => exact .answered p hround
      | error e =>
        refine .refused e hround ?_
        rintro reason rfl
        exact h rfl

/-- A round with an answer is the last. -/
theorem Plays.answered (plays : course.Plays w source shows) (node : String) (fuel : Nat)
    (attempts : UInt32) (hanswered : ¬ (course.round (v.waits + 1)).isMissed = true)
    (hb : shows b v) :
    ∃ result last b', Closing last ∧ shows b' ⟨v.waits + 1, v.log ++ last⟩ ∧
      course.Outcome policy (v.waits + 1) result ∧
      Settings.loadFrom w source policy node (fuel + 1) attempts b = (some result, b') := by
  obtain ⟨b₁, hb₁, hask⟩ := plays.ask policy node hb
  have hround := closing_entries node (course.round (v.waits + 1))
  have houtcome : course.Outcome policy (v.waits + 1) _ := .of_answer hanswered
  rw [Settings.loadFrom_succ, hask]
  simp only [hanswered, Bool.false_eq_true, if_false]
  cases hanswer : (course.round (v.waits + 1)).answer with
  | error e =>
    rw [hanswer] at houtcome
    exact ⟨_, _, _, hround, hb₁, houtcome, rfl⟩
  | ok p =>
    rw [hanswer] at houtcome
    rw [Settings.accept_ok]
    cases hread : Settings.ofParameters p with
    | error e =>
      have hresult : Except.bind (.ok p) Settings.ofParameters = .error e := hread
      exact ⟨_, _, _, hround, hb₁, hresult ▸ houtcome, rfl⟩
    | ok s =>
      have hresult : Except.bind (.ok p) Settings.ofParameters = .ok s := hread
      have hb₂ := plays.report (e := Settings.loadedEntry node s) rfl hb₁
      rw [List.append_assoc] at hb₂
      refine ⟨_, _, _, hround.concat ?_, hb₂, hresult ▸ houtcome, rfl⟩
      simp [Settings.loadedEntry, Settings.againMessage]

/-- A round after which the source is waited for again. -/
theorem Plays.next (plays : course.Plays w source shows) (node : String) (fuel : Nat)
    (waiting : Waiting policy v attempts)
    (hsize : policy.limit? = none → v.waits + 1 < UInt32.size)
    (hgoing : ¬ course.Ends policy (v.waits + 1)) (hb : shows b v) :
    ∃ b', let v' : Stand := ⟨v.waits + 1, v.log ++ ((course.round (v.waits + 1)).entries node ++
        [Settings.againEntry node (v.waits + 1)])⟩
      shows b' v' ∧ Waiting policy v' (attempts + 1) ∧
        Settings.loadFrom w source policy node (fuel + 1) attempts b =
          Settings.loadFrom w source policy node fuel (attempts + 1) b' := by
  obtain ⟨hmissed, hgoing⟩ := Classical.not_imp.mp hgoing
  obtain ⟨hrunning, hlimit⟩ := not_or.mp hgoing
  have hcount := waiting.succ_toNat hsize
  have hunreached : ¬ policy.maxAttempts.any (· ≤ attempts + 1) = true := by
    rwa [reaches_iff (Nat.succ_pos _) hcount waiting.ahead]
  obtain ⟨b₁, hb₁, hload⟩ := plays.missed policy node fuel attempts hmissed hb
  have hb₂ := plays.report (e := Settings.againEntry node (v.waits + 1)) rfl hb₁
  rw [List.append_assoc] at hb₂
  refine ⟨_, hb₂, ⟨hcount, ?_⟩, ?_⟩
  · intro n hn
    exact Nat.lt_of_le_of_ne (waiting.ahead n hn) fun heq =>
      hlimit (hn.trans (congrArg some heq.symm))
  · rw [hload, if_neg hrunning, if_neg hunreached, hcount]

/-- The round that ends the waiting. -/
theorem Plays.last (plays : course.Plays w source shows) (node : String) (fuel : Nat)
    (waiting : Waiting policy v attempts) (hends : course.Ends policy (v.waits + 1))
    (hb : shows b v) :
    ∃ result last b', Closing last ∧ shows b' ⟨v.waits + 1, v.log ++ last⟩ ∧
      course.Outcome policy (v.waits + 1) result ∧
      Settings.loadFrom w source policy node (fuel + 1) attempts b = (some result, b') := by
  by_cases hmissed : (course.round (v.waits + 1)).isMissed = true
  · have hround := closing_entries node (course.round (v.waits + 1))
    obtain ⟨b₁, hb₁, hload⟩ := plays.missed policy node fuel attempts hmissed hb
    rw [hload]
    by_cases hstopped : course.isStopped (v.waits + 1) = true
    · have hb₂ := plays.report (e := Settings.interruptedEntry node) rfl hb₁
      rw [List.append_assoc] at hb₂
      refine ⟨_, _, _, hround.concat ?_, hb₂, .interrupted hmissed hstopped, if_pos hstopped⟩
      simp [Settings.interruptedEntry, Settings.againMessage]
    · have hlimit := (hends hmissed).resolve_left hstopped
      have hcount := waiting.succ_toNat fun hnone => by rw [hnone] at hlimit; cases hlimit
      have hreached : policy.maxAttempts.any (· ≤ attempts + 1) = true :=
        (reaches_iff (Nat.succ_pos _) hcount waiting.ahead).mpr hlimit
      have hb₂ := plays.report (e := Settings.exhaustedEntry node (attempts + 1).toNat) rfl hb₁
      rw [List.append_assoc] at hb₂
      rw [if_neg hstopped, if_pos hreached]
      refine ⟨_, _, _, hround.concat ?_, hb₂,
        .exhausted _ hmissed (by simpa using hstopped) hlimit hcount, rfl⟩
      simp [Settings.exhaustedEntry, Settings.againMessage]
  · exact plays.answered node fuel attempts hmissed hb

/-! ## All rounds -/

/-- While no round ends the waiting, the source is waited for again. -/
theorem Plays.go_on (plays : course.Plays w source shows) (node : String) (count fuel : Nat)
    (waiting : Waiting policy v attempts)
    (hsize : policy.limit? = none → v.waits + count < UInt32.size)
    (hgoing : ∀ i, v.waits < i → i ≤ v.waits + count → ¬ course.Ends policy i)
    (hb : shows b v) :
    ∃ b' attempts', let v' : Stand := ⟨v.waits + count,
        v.log ++ Settings.againEntries course node (v.waits + 1) count⟩
      shows b' v' ∧ Waiting policy v' attempts' ∧
        Settings.loadFrom w source policy node (fuel + count) attempts b =
          Settings.loadFrom w source policy node fuel attempts' b' := by
  induction count generalizing b v attempts with
  | zero =>
    exact ⟨b, attempts, by simpa [Settings.againEntries] using hb,
      ⟨waiting.count, waiting.ahead⟩, rfl⟩
  | succ count ih =>
    obtain ⟨b₁, hb₁, waiting₁, hload₁⟩ := plays.next node (fuel + count) waiting
      (fun hnone => Nat.lt_of_le_of_lt (by omega) (hsize hnone))
      (hgoing _ (Nat.lt_succ_self _) (by omega)) hb
    have hcount : v.waits + 1 + count = v.waits + (count + 1) := by omega
    obtain ⟨b', attempts', hb', waiting', hload'⟩ := ih waiting₁
      (fun hnone => by rw [hcount]; exact hsize hnone)
      (fun i hlt hle => hgoing i (Nat.lt_of_succ_lt hlt) (by rw [← hcount]; exact hle)) hb₁
    refine ⟨b', attempts', ?_, ⟨?_, ?_⟩, hload₁.trans hload'⟩
    · rwa [hcount, List.append_assoc, ← Settings.againEntries_succ] at hb'
    · exact waiting'.count.trans hcount
    · exact hcount ▸ waiting'.ahead

/-- Missed rounds that are followed by others are counted from one. -/
theorem filter_againEntries (course : Course) (node : String) (first count : Nat) :
    (Settings.againEntries course node first count).filter
        (·.message == Settings.againMessage) =
      (List.range' first count).map (Settings.againEntry node) := by
  induction count generalizing first with
  | zero => rfl
  | succ count ih =>
    rw [Settings.againEntries_succ, List.filter_append, List.filter_append, ih,
      (closing_entries node _).filter, List.range'_succ, List.map_cons]
    rfl

/-- With a bound on the attempts some round ends the waiting, one within the bound. -/
theorem exists_endsFirst (course : Course) {n : Nat} (hlimit : policy.limit? = some n) :
    ∃ k ≤ n, course.EndsFirst policy k := by
  classical
  obtain ⟨m, _, hm⟩ := Option.map_eq_some_iff.mp hlimit
  have hpos : 0 < n := hm ▸ Nat.lt_of_lt_of_le Nat.zero_lt_one (Nat.le_max_right m.toNat 1)
  have hends : ∃ k, 0 < k ∧ course.Ends policy k := ⟨n, hpos, fun _ => Or.inr hlimit⟩
  refine ⟨Nat.find hends, Nat.find_min' hends ⟨hpos, fun _ => Or.inr hlimit⟩,
    (Nat.find_spec hends).1, (Nat.find_spec hends).2, ?_⟩
  intro i hi hlt hearlier
  exact Nat.find_min hends hlt ⟨hi, hearlier⟩

/-! ## Every course is taken -/

/-- A world that shows where the rounds stand, and nothing else. -/
def asWorld (course : Course) : World (StateM Stand) where
  now := pure 0
  sleepUntil _ := pure ()
  sleepOrShutdown _ := fun v => (course.isStopped v.waits, v)
  isShutdown := fun v => (course.isStopped v.waits, v)
  requestShutdown := pure ()
  reading := pure ⟨0, 0⟩
  reserve _ := pure true
  drawKey := pure ⟨⟨0, 0, 0, 0⟩, ⟨0, 0, 0, 0⟩⟩
  advertise _ _ := pure (.ok ())
  publish _ _ _ := pure (.ok (), 0.0)
  count _ := pure ()
  note e := fun v => ((), v.noted e)

def asSource (course : Course) : Source (StateM Stand) where
  wait _ := fun v => ((course.round (v.waits + 1)).isReachable, { v with waits := v.waits + 1 })
  get _ := fun v => ((course.round v.waits).answer, v)

theorem plays (course : Course) : course.Plays course.asWorld course.asSource Eq where
  wait _ hb := by subst hb; exact ⟨rfl, rfl⟩
  get hb := by subst hb; exact ⟨rfl, rfl⟩
  isShutdown hb := by subst hb; exact ⟨rfl, rfl⟩
  note _ hb := by subst hb; rfl

end Course

namespace Settings

variable {β : Type} {course : Course} {w : World (StateM β)} {source : Source (StateM β)}
  {shows : β → Stand → Prop} {b : β} {log : List LogEntry}

/-- Loading ends with the first round that ends the waiting, by what that round is; with a bound on
the attempts there is such a round within it. -/
theorem load_ends_with_round (plays : course.Plays w source shows) (hb : shows b ⟨0, log⟩)
    (policy : RetryPolicy) (node : String) :
    (∀ n, policy.limit? = some n → ∃ k ≤ n, course.EndsFirst policy k) ∧
    ∀ k, course.EndsFirst policy k → (policy.maxAttempts = none → k ≤ UInt32.size) →
      (∀ fuel < k, (load w source policy node fuel b).1 = none) ∧
      ∀ fuel, k ≤ fuel → ∃ result reports b',
        load w source policy node fuel b = (some result, b') ∧ course.Outcome policy k result ∧
        shows b' ⟨k, log ++ reports⟩ ∧
        reports.filter (·.message == againMessage) =
          (List.range' 1 (k - 1)).map (againEntry node) := by
  refine ⟨fun n hlimit => course.exists_endsFirst hlimit, ?_⟩
  intro k first hsize
  obtain ⟨n, rfl⟩ := Nat.exists_eq_add_one_of_ne_zero (Nat.ne_of_gt first.pos)
  have waiting : Course.Waiting policy ⟨0, log⟩ 0 := .start policy log
  have hcounted (count : Nat) (hcount : count ≤ n) :
      policy.limit? = none → 0 + count < UInt32.size := by
    intro hnone
    have hle := hsize (Option.map_eq_none_iff.mp hnone)
    omega
  have hgoing (count : Nat) (hcount : count ≤ n) :
      ∀ i, 0 < i → i ≤ 0 + count → ¬ course.Ends policy i := by
    intro i hpos hle
    exact first.before i hpos (by omega)
  constructor
  · intro fuel hfuel
    have hle := Nat.le_of_lt_succ hfuel
    obtain ⟨b', attempts', _, _, hload⟩ :=
      plays.go_on node fuel 0 waiting (hcounted fuel hle) (hgoing fuel hle) hb
    rw [Nat.zero_add] at hload
    rw [load, hload]
    rfl
  · intro fuel hfuel
    obtain ⟨more, rfl⟩ := Nat.exists_eq_add_of_le' hfuel
    obtain ⟨b₁, attempts', hb₁, waiting₁, hload⟩ :=
      plays.go_on node n (more + 1) waiting (hcounted n (Nat.le_refl n))
        (hgoing n (Nat.le_refl n)) hb
    rw [Nat.zero_add] at hb₁ waiting₁
    obtain ⟨result, last, b', hlast, hb', houtcome, hend⟩ :=
      plays.last node more waiting₁ first.ends hb₁
    refine ⟨result, againEntries course node 1 n ++ last, b', ?_, houtcome, ?_, ?_⟩
    · rw [load, Nat.add_comm n 1, ← Nat.add_assoc, hload, hend]
    · rwa [List.append_assoc] at hb'
    · rw [List.filter_append, Course.filter_againEntries, hlast.filter, List.append_nil]
      rfl

/-- A source out of reach, gone while it was asked, and out of reach with the last attempt, when
shutdown has been requested. -/
theorem load_ends_with_round_at_limit :
    let course : Course :=
      { round := fun i => if i = 2 then ⟨true, .error (.unavailable "gone")⟩
          else ⟨false, .error (.unavailable "away")⟩
        isStopped := fun i => decide (3 ≤ i) }
    let policy : RetryPolicy := ⟨Time.millis 10, some 3⟩
    ∃ reports, load course.asWorld course.asSource policy "camera" 5 ⟨0, []⟩ =
        (some (.error .interrupted), ⟨3, reports⟩) ∧
      reports.filter (·.message == againMessage) =
        [againEntry "camera" 1, againEntry "camera" 2] := by
  intro course policy
  have first : course.EndsFirst policy 3 := by
    refine ⟨by decide, fun _ => Or.inl rfl, ?_⟩
    intro i hpos hlt hends
    have hi : i = 1 ∨ i = 2 := by omega
    rcases hi with rfl | rfl
    · exact absurd (hends rfl) (by decide)
    · exact absurd (hends rfl) (by decide)
  have begun : (⟨0, []⟩ : Stand) = ⟨0, []⟩ := rfl
  obtain ⟨_, hround⟩ := load_ends_with_round course.plays begun policy "camera"
  obtain ⟨_, hload⟩ := hround 3 first (by simp [policy])
  obtain ⟨result, reports, b', hresult, houtcome, rfl, hreports⟩ := hload 5 (by decide)
  refine ⟨reports, ?_, hreports⟩
  cases houtcome with
  | interrupted => exact hresult
  | answered p hanswer => cases hanswer
  | refused e hanswer => cases hanswer
  | exhausted attempts _ hrunning => cases hrunning

end Settings

end PacedImages
