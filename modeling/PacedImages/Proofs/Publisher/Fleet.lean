import Mathlib.Logic.Relation
import PacedImages.Proofs.Image.Payload
import PacedImages.Proofs.Publisher.Accounting
import PacedImages.Proofs.Publisher.Settings
import PacedImages.Scene

/-!
# Publishers that share their metrics

Publishers start one after the other in a world and are called in any order, some of them by the
same name. A tick waits for the transport, and meanwhile others go on. Main statement: whatever the
turns and the answers of the transport, the series of a name tallies the attempts made under that
name, which are as many as the publishers of the name have published.
-/

namespace PacedImages.Publisher

variable {β : Type}

/-- A publisher among others, with the answer to the image it sent while it is not counted yet. -/
structure Member where
  node : Publisher
  awaited : Option Answer

/-- Publishers in a world, with a record of the attempts that were answered and counted. -/
structure Fleet (β : Type) where
  members : List Member
  world : β
  attempts : List Attempt

/-- What a member has published under a name. -/
def Member.share (label : String) (m : Member) : Nat :=
  if m.node.name = label then m.node.published.toNat else 0

/-- What the members have published under a name. -/
def publishedAs (label : String) : List Member → Nat
  | [] => 0
  | m :: rest => m.share label + publishedAs label rest

/-- The attempts made under a name. -/
def madeAs (label : String) (attempts : List Attempt) : List Attempt :=
  attempts.filter (·.name == label)

namespace Fleet

/-- The fleet with another member in a place and another world. -/
def put (f : Fleet β) (i : Nat) (m : Member) (world : β) : Fleet β :=
  { f with members := f.members.set i m, world }

/-- The fleet after a call of a member, whole. -/
def call (w : World (StateM β)) (f : Fleet β) (i : Nat) (p : Publisher) (c : Call)
    (q : TimerQueue) : Fleet β :=
  let after := c.act w p q f.world
  f.put i ⟨after.1.1, none⟩ after.2

/-- The fleet after the part of a tick up to the answer. -/
def send (w : World (StateM β)) (f : Fleet β) (i : Nat) (p : Publisher) : Fleet β :=
  let after := Publisher.send w p f.world
  f.put i ⟨p, some after.1⟩ after.2

/-- The fleet after the part of a tick from the answer on. -/
def settle (w : World (StateM β)) (f : Fleet β) (i : Nat) (p : Publisher) (answer : Answer)
    (q : TimerQueue) : Fleet β :=
  let after := Publisher.settle w p q answer f.world
  { f.put i ⟨after.1.1, none⟩ after.2 with attempts := f.attempts ++ [answer.attempt p] }

end Fleet

/-- What happens next to a fleet, with whatever timers are in the queue. A publisher that waits for
the transport takes no call. -/
inductive Fleet.Turn (w : World (StateM β)) (metrics : β → Metrics) (f : Fleet β) :
    Fleet β → Prop where
  /-- A publisher is started. -/
  | join {name topic : String} {settings : Settings} {depth : Nat} {book : SubjectBook}
      {q q' : TimerQueue} {p : Publisher} {world : β}
      (hstart : (start w name topic settings depth book q).run f.world = (.ok (p, q'), world)) :
      Turn w metrics f { f with members := f.members ++ [⟨p, none⟩], world }
  /-- A publisher is called and sends nothing. -/
  | call {i : Nat} {p : Publisher} {c : Call} (q : TimerQueue)
      (idle : f.members[i]? = some ⟨p, none⟩) (silent : ¬ c.Sends p) :
      Turn w metrics f (f.call w i p c q)
  /-- A publisher sends an image and waits for the transport. -/
  | send {i : Nat} {p : Publisher} (idle : f.members[i]? = some ⟨p, none⟩)
      (hphase : p.phase = .publishing) : Turn w metrics f (f.send w i p)
  /-- A publisher goes on with the answer. -/
  | settle {i : Nat} {p : Publisher} {answer : Answer} (q : TimerQueue)
      (awaiting : f.members[i]? = some ⟨p, some answer⟩) :
      Turn w metrics f (f.settle w i p answer q)
  /-- The world changes otherwise, its metrics apart. -/
  | elsewhere (world : β) (keeps : metrics world = metrics f.world) :
      Turn w metrics f { f with world }

/-- The series of a name accounts for the attempts made under it, which are as many as its publishers
have published. Up to 2³² publishers the counters of images are exact. -/
structure Accounts (s : Series) (made : List Attempt) (published publishers : Nat) : Prop where
  attempts : made.length = published
  messages : s.messages = .ofNat (Attempt.accepts made)
  errors : s.errors = .ofNat (Attempt.refusals made)
  total : s.messages + s.errors = .ofNat published
  exactly : publishers ≤ 0x100000000 →
    s.messages.toNat = Attempt.accepts made ∧ s.errors.toNat = Attempt.refusals made ∧
      s.messages.toNat + s.errors.toNat = published
  bytes : s.bytes.toNat = Attempt.bytes made % 0x10000000000000000
  samples : s.duration.count = s.messages

/-! ## Sums over the members -/

section

variable {label : String} {members : List Member} {m : Member} {i : Nat}

theorem publishedAs_append :
    publishedAs label (members ++ [m]) = publishedAs label members + m.share label := by
  induction members with
  | nil => simp [publishedAs]
  | cons first rest ih => rw [List.cons_append, publishedAs, publishedAs, ih, Nat.add_assoc]

/-- A member takes its share out of the sum, and the one in its place brings its own. -/
theorem publishedAs_set (label : String) (m' : Member) (hmember : members[i]? = some m) :
    publishedAs label (members.set i m') + m.share label =
      publishedAs label members + m'.share label := by
  induction members generalizing i with
  | nil => cases hmember
  | cons first rest ih =>
    cases i with
    | zero =>
      obtain rfl := Option.some.inj hmember
      rw [List.set_cons_zero, publishedAs, publishedAs]
      omega
    | succ i =>
      have hrest := ih (i := i) hmember
      rw [List.set_cons_succ, publishedAs, publishedAs]
      omega

/-- Each publisher of a name can publish as many images as 32 bits can count. -/
theorem publishedAs_le (label : String) (members : List Member) :
    publishedAs label members ≤ members.countP (·.node.name == label) * 0xFFFFFFFF := by
  induction members with
  | nil => exact Nat.zero_le _
  | cons first rest ih =>
    have hmost := first.node.published.toNat_lt
    rw [publishedAs, Member.share, List.countP_cons]
    by_cases hname : first.node.name = label
    · rw [if_pos hname, if_pos (by simpa using hname)]
      omega
    · rw [if_neg hname, if_neg (by simpa using hname)]
      omega

theorem madeAs_append (label : String) (attempts : List Attempt) (a : Attempt) :
    madeAs label (attempts ++ [a]) =
      madeAs label attempts ++ if a.name = label then [a] else [] := by
  rw [madeAs, List.filter_append]
  by_cases hname : a.name = label <;> simp [madeAs, hname]

theorem length_madeAs_append (label : String) (attempts : List Attempt) (a : Attempt) :
    (madeAs label (attempts ++ [a])).length =
      (madeAs label attempts).length + if a.name = label then 1 else 0 := by
  rw [madeAs_append, List.length_append]
  split <;> rfl

end

/-! ## What the turns preserve -/

/-- A publisher that has not ended has not published all images, and only a publishing one waits for
the transport. -/
structure Member.Sound (m : Member) : Prop where
  below : m.node.phase ≠ .terminated → m.node.published < m.node.settings.maxCount
  publishing : m.awaited ≠ none → m.node.phase = .publishing

namespace Fleet

variable {w : World (StateM β)} {metrics : β → Metrics} {f f' : Fleet β} {i : Nat}
  {p p' : Publisher} {c : Call} {answer : Answer} {world : β}

/-- The series tally the attempts, which are as many as the publishers have published. -/
structure Sound (metrics : β → Metrics) (f : Fleet β) : Prop where
  members : ∀ m ∈ f.members, m.Sound
  tallies : ∀ label, ((metrics f.world).get label).Tallies (madeAs label f.attempts)
  published : ∀ label, (madeAs label f.attempts).length = publishedAs label f.members

/-- A member whose share stays as it is takes another's place. -/
theorem Sound.put (sound : f.Sound metrics) {m m' : Member} (hmember : f.members[i]? = some m)
    (hsound : m'.Sound) (hshare : ∀ label, m'.share label = m.share label)
    (hmetrics : metrics world = metrics f.world) : (f.put i m' world).Sound metrics where
  members := by
    intro other hother
    rcases List.mem_or_eq_of_mem_set hother with hold | rfl
    · exact sound.members other hold
    · exact hsound
  tallies label := by
    show ((metrics world).get label).Tallies (madeAs label f.attempts)
    rw [hmetrics]
    exact sound.tallies label
  published label := by
    have hset := publishedAs_set label m' hmember
    have hsame := hshare label
    show (madeAs label f.attempts).length = publishedAs label (f.members.set i m')
    rw [sound.published]
    omega

theorem Sound.join (keeps : w.KeepsMetrics metrics) (sound : f.Sound metrics)
    {name topic : String} {settings : Settings} {depth : Nat} {book : SubjectBook}
    {q q' : TimerQueue}
    (hstart : (start w name topic settings depth book q).run f.world = (.ok (p, q'), world)) :
    Sound metrics { f with members := f.members ++ [⟨p, none⟩], world } := by
  obtain ⟨hmetrics, hvalid, outlet, payload, timer, rfl⟩ := start_touches keeps hstart
  have hmax := (Settings.validate_eq_ok_iff.mp hvalid).1
  refine ⟨?_, fun label => ?_, fun label => ?_⟩
  · intro m hm
    rcases List.mem_append.mp hm with hold | hnew
    · exact sound.members m hold
    · obtain rfl := List.mem_singleton.mp hnew
      exact ⟨fun _ => UInt32.lt_iff_toNat_lt.mpr hmax, fun h => absurd rfl h⟩
  · show ((metrics world).get label).Tallies (madeAs label f.attempts)
    rw [hmetrics, Metrics.get_touch]
    exact sound.tallies label
  · have hnone : Member.share label ⟨launched name settings outlet payload timer, none⟩ = 0 := by
      simp [Member.share, launched]
    show (madeAs label f.attempts).length = publishedAs label (f.members ++ _)
    rw [publishedAs_append, hnone, sound.published]
    rfl

theorem Sound.call (keeps : w.KeepsMetrics metrics) (sound : f.Sound metrics) (q : TimerQueue)
    (idle : f.members[i]? = some ⟨p, none⟩) (silent : ¬ c.Sends p) :
    (f.call w i p c q).Sound metrics := by
  have hsound := sound.members _ (List.mem_of_getElem? idle)
  obtain ⟨hmetrics, rephased⟩ := Call.act_of_not_sends (q := q) (b := f.world) keeps silent
  rw [Fleet.call]
  generalize c.act w p q f.world = after at hmetrics rephased
  apply sound.put idle _ _ hmetrics
  · refine ⟨fun hgoing => ?_, fun h => absurd rfl h⟩
    rw [rephased.published, rephased.settings]
    exact hsound.below fun hended => hgoing (rephased.ended hended)
  · intro label
    simp only [Member.share, rephased.name, rephased.published]

theorem Sound.send (keeps : w.KeepsMetrics metrics) (sound : f.Sound metrics)
    (idle : f.members[i]? = some ⟨p, none⟩) (hphase : p.phase = .publishing) :
    (f.send w i p).Sound metrics := by
  have hsound := sound.members _ (List.mem_of_getElem? idle)
  exact sound.put idle ⟨hsound.below, fun _ => hphase⟩ (fun _ => rfl) (metrics_send keeps)

theorem Sound.settle (keeps : w.KeepsMetrics metrics) (sound : f.Sound metrics) (q : TimerQueue)
    (awaiting : f.members[i]? = some ⟨p, some answer⟩) :
    (f.settle w i p answer q).Sound metrics := by
  have hsound := sound.members _ (List.mem_of_getElem? awaiting)
  have hphase : p.phase = .publishing := hsound.publishing nofun
  have hsucc := toNat_succ_of_lt (hsound.below (by simp [hphase]))
  obtain ⟨hmetrics, rephased, hgoing⟩ := settle_counts keeps p q answer f.world
  rw [Fleet.settle]
  generalize Publisher.settle w p q answer f.world = after at hmetrics rephased hgoing
  refine ⟨?_, fun label => ?_, fun label => ?_⟩
  · intro m hm
    rcases List.mem_or_eq_of_mem_set hm with hold | rfl
    · exact sound.members m hold
    · refine ⟨fun h => ?_, fun h => absurd rfl h⟩
      rw [rephased.published, rephased.settings]
      exact hgoing h
  · show ((metrics after.2).get label).Tallies (madeAs label (f.attempts ++ [answer.attempt p]))
    rw [hmetrics, Metrics.get_update, madeAs_append]
    by_cases hname : p.name = label
    · rw [if_pos hname, if_pos (show (answer.attempt p).name = label from hname), hname]
      exact (sound.tallies label).record _ _
    · rw [if_neg hname, if_neg (show (answer.attempt p).name ≠ label from hname), List.append_nil]
      exact sound.tallies label
  · have hset := publishedAs_set label ⟨after.1.1, none⟩ awaiting
    have hshare : Member.share label ⟨after.1.1, none⟩ =
        Member.share label ⟨p, some answer⟩ + if p.name = label then 1 else 0 := by
      simp only [Member.share, rephased.name, rephased.published, hsucc]
      split <;> rfl
    have hmade : (madeAs label (f.attempts ++ [answer.attempt p])).length =
        (madeAs label f.attempts).length + if p.name = label then 1 else 0 :=
      length_madeAs_append label f.attempts (answer.attempt p)
    have hsame := sound.published label
    show (madeAs label (f.attempts ++ [answer.attempt p])).length =
      publishedAs label (f.members.set i ⟨after.1.1, none⟩)
    omega

theorem Sound.turn (keeps : w.KeepsMetrics metrics) (sound : f.Sound metrics)
    (turn : Turn w metrics f f') : f'.Sound metrics := by
  cases turn with
  | join hstart => exact sound.join keeps hstart
  | call q idle silent => exact sound.call keeps q idle silent
  | send idle hphase => exact sound.send keeps idle hphase
  | settle q awaiting => exact sound.settle keeps q awaiting
  | elsewhere world hkept =>
    refine ⟨sound.members, fun label => ?_, sound.published⟩
    show ((metrics world).get label).Tallies (madeAs label f.attempts)
    rw [hkept]
    exact sound.tallies label

theorem Sound.turns (keeps : w.KeepsMetrics metrics) (sound : f.Sound metrics)
    (turns : Relation.ReflTransGen (Turn w metrics) f f') : f'.Sound metrics := by
  induction turns with
  | refl => exact sound
  | tail _ turn ih => exact ih.turn keeps turn

theorem Sound.empty {b : β} (hempty : metrics b = .empty) : Sound metrics ⟨[], b, []⟩ where
  members _ hm := by cases hm
  tallies label := by
    show ((metrics b).get label).Tallies []
    rw [hempty, Metrics.get_empty]
    exact Series.Tallies.fresh
  published _ := rfl

theorem Sound.accounts (sound : f.Sound metrics) (label : String) :
    Accounts ((metrics f.world).get label) (madeAs label f.attempts) (publishedAs label f.members)
      (f.members.countP (·.node.name == label)) := by
  have tallies := sound.tallies label
  have hlength := sound.published label
  refine ⟨hlength, tallies.messages, tallies.errors, ?_, fun hfew => ?_, ?_, tallies.samples⟩
  · rw [← hlength]
    exact tallies.messages_add_errors
  · have hmost := publishedAs_le label f.members
    have hall := Attempt.accepts_add_refusals (madeAs label f.attempts)
    rw [tallies.messages, tallies.errors, UInt64.toNat_ofNat_of_lt', UInt64.toNat_ofNat_of_lt']
    · exact ⟨rfl, rfl, hall.trans hlength⟩
    · simp only [UInt64.size]
      omega
    · simp only [UInt64.size]
      omega
  · rw [tallies.bytes]
    exact UInt64.toNat_ofNat'

/-! ## What single turns and calls leave alone -/

/-- From `f` to `f'` one attempt is made at most, and the series of other names stay. -/
def Spares (metrics : β → Metrics) (f f' : Fleet β) : Prop :=
  ∃ new, f'.attempts = f.attempts ++ new ∧ new.length ≤ 1 ∧
    ∀ label, (∀ a ∈ new, a.name ≠ label) →
      (metrics f'.world).get label = (metrics f.world).get label

theorem Spares.of_still (hattempts : f'.attempts = f.attempts)
    (hget : ∀ label, (metrics f'.world).get label = (metrics f.world).get label) :
    Spares metrics f f' :=
  ⟨[], by rw [hattempts, List.append_nil], Nat.zero_le _, fun label _ => hget label⟩

theorem Turn.spares (keeps : w.KeepsMetrics metrics) (turn : Turn w metrics f f') :
    Spares metrics f f' := by
  cases turn with
  | join hstart =>
    obtain ⟨hmetrics, -, -⟩ := start_touches keeps hstart
    refine .of_still rfl fun label => ?_
    rw [hmetrics, Metrics.get_touch]
  | call q idle silent =>
    obtain ⟨hmetrics, -⟩ := Call.act_of_not_sends (q := q) (b := f.world) keeps silent
    exact .of_still rfl fun label => congrArg (·.get label) hmetrics
  | send idle hphase =>
    exact .of_still rfl fun label => congrArg (·.get label) (metrics_send keeps)
  | @settle i p answer q awaiting =>
    obtain ⟨hmetrics, -, -⟩ := settle_counts keeps p q answer f.world
    refine ⟨[answer.attempt p], rfl, Nat.le_refl _, fun label hother => ?_⟩
    have hname : p.name ≠ label := hother _ (List.mem_singleton.mpr rfl)
    show (metrics (Publisher.settle w p q answer f.world).2).get label = _
    rw [hmetrics, Metrics.get_update, if_neg hname]
  | elsewhere world hkept => exact .of_still rfl fun label => congrArg (·.get label) hkept

end Fleet

/-- A call changes no series but that of the publisher. -/
theorem Call.act_spares {w : World (StateM β)} {metrics : β → Metrics}
    (keeps : w.KeepsMetrics metrics) (c : Call) (p : Publisher) (q : TimerQueue) (b : β)
    {label : String} (hname : p.name ≠ label) :
    (metrics (c.act w p q b).2).series[label]? = (metrics b).series[label]? := by
  by_cases sends : c.Sends p
  · obtain ⟨-, heq⟩ := Call.act_of_sends (w := w) (q := q) (b := b) sends
    obtain ⟨hmetrics, -, -⟩ :=
      settle_counts keeps p q (Publisher.send w p b).1 (Publisher.send w p b).2
    rw [heq, hmetrics, Metrics.getElem?_update, if_neg hname, metrics_send keeps]
  · obtain ⟨hmetrics, -⟩ := Call.act_of_not_sends (q := q) (b := b) keeps sends
    rw [hmetrics]

/-- A whole call is a run of turns: one if it sends nothing, and two if it sends. -/
theorem Fleet.call_turns {w : World (StateM β)} {metrics : β → Metrics} {f : Fleet β} {i : Nat}
    {p : Publisher} (idle : f.members[i]? = some ⟨p, none⟩) (c : Call) (q : TimerQueue) :
    ∃ new, Relation.ReflTransGen (Turn w metrics) f
        { f.call w i p c q with attempts := f.attempts ++ new } ∧
      (c.Sends p → new = [(Publisher.send w p f.world).1.attempt p]) ∧
      (¬ c.Sends p → new = []) := by
  by_cases sends : c.Sends p
  · obtain ⟨hphase, heq⟩ := Call.act_of_sends (w := w) (q := q) (b := f.world) sends
    let answer := (Publisher.send w p f.world).1
    have hlt : i < f.members.length := (List.getElem?_eq_some_iff.mp idle).1
    have awaiting : (f.send w i p).members[i]? = some ⟨p, some answer⟩ :=
      List.getElem?_set_self hlt
    have hfleet : (f.send w i p).settle w i p answer q =
        { f.call w i p c q with attempts := f.attempts ++ [answer.attempt p] } := by
      rw [Fleet.call, heq]
      simp only [Fleet.settle, Fleet.send, Fleet.put, List.set_set]
      rfl
    refine ⟨[answer.attempt p], ?_, fun _ => rfl, fun silent => absurd sends silent⟩
    rw [← hfleet]
    exact (Relation.ReflTransGen.single (.send idle hphase)).tail (.settle q awaiting)
  · refine ⟨[], ?_, fun h => absurd h sends, fun _ => rfl⟩
    rw [List.append_nil]
    exact .single (.call q idle sends)

/-- However the turns of publishers come that share their metrics, and whatever the transport
answers, the series of a name accounts for every attempt made under it: as many as its publishers
have published, accepted or refused, with the bytes of the accepted ones and a sample of each. A turn
makes one attempt at most and spares all series of other names; so does a call, which changes none at
all if it sends nothing. A call that is not divided is a run of turns. -/
theorem turns_account_for_attempts {w : World (StateM β)} {metrics : β → Metrics}
    (keeps : w.KeepsMetrics metrics) {b : β} (hempty : metrics b = .empty) {f : Fleet β}
    (turns : Relation.ReflTransGen (Fleet.Turn w metrics) ⟨[], b, []⟩ f) :
    (∀ label, Accounts ((metrics f.world).get label) (madeAs label f.attempts)
      (publishedAs label f.members) (f.members.countP (·.node.name == label))) ∧
    (∀ f', Fleet.Turn w metrics f f' → f.Spares metrics f') ∧
    (∀ (i : Nat) (p : Publisher) (c : Call) (q : TimerQueue),
      f.members[i]? = some ⟨p, none⟩ →
      (∀ label, p.name ≠ label →
        (metrics (f.call w i p c q).world).series[label]? = (metrics f.world).series[label]?) ∧
      (¬ c.Sends p → metrics (f.call w i p c q).world = metrics f.world) ∧
      ∃ new, Relation.ReflTransGen (Fleet.Turn w metrics) f
          { f.call w i p c q with attempts := f.attempts ++ new } ∧
        (c.Sends p → new = [(send w p f.world).1.attempt p]) ∧ (¬ c.Sends p → new = [])) := by
  have sound := (Fleet.Sound.empty hempty).turns keeps turns
  refine ⟨sound.accounts, fun f' turn => turn.spares keeps, fun i p c q idle => ⟨?_, ?_, ?_⟩⟩
  · exact fun label hname => Call.act_spares keeps c p q f.world hname
  · exact fun silent => (Call.act_of_not_sends keeps silent).1
  · exact Fleet.call_turns idle c q

/-- A publisher of two images with one pixel each. -/
def samplePublisher (name : String) : Publisher :=
  launched name ⟨Time.millis 10, 2, 1, Time.millis 5, "", some 1⟩ ⟨"image", "image", 16⟩
    (Keystream.bytes (.ofSeed 1) 4) 0

/-- The publisher when its start delay is over. -/
def publishingSample (name : String) : Publisher :=
  { samplePublisher name with phase := .publishing, delayTimer := none, publishTimer := some 0 }

/-- The fleet after a publisher was started and its start delay is over. -/
def Fleet.withSample (f : Fleet (Bench Scene)) (name : String) : Fleet (Bench Scene) :=
  let p := samplePublisher name
  let begun := (start Scene.world name "image" p.settings 16 .plain .empty).run f.world
  Fleet.call Scene.world { f with members := f.members ++ [⟨p, none⟩], world := begun.2 }
    f.members.length p .delayElapsed .empty

theorem Fleet.withSample_turns {f : Fleet (Bench Scene)} {name : String} {q : TimerQueue}
    (hstart : ((start Scene.world name "image" (samplePublisher name).settings 16 .plain
      .empty).run f.world).1 = .ok (samplePublisher name, q)) :
    Relation.ReflTransGen (Turn Scene.world (·.metrics)) f (f.withSample name) := by
  have joined : Turn Scene.world (·.metrics) f _ := .join (Prod.ext hstart rfl)
  exact (Relation.ReflTransGen.single joined).tail
    (.call .empty (List.getElem?_concat_length) nofun)

/-- Two publishers of one name and one of another. The first waits for the transport while the third
is refused and the second accepted; then its own image counts, and a foreign timer counts nothing. -/
theorem turns_account_for_attempts_interleaved :
    let scene : Scene :=
      { Scene.fresh with script := some ⟨none, [.accepted 0, .refused "gone", .accepted 0]⟩ }
    let camera := publishingSample "camera"
    let lidar := publishingSample "lidar"
    let f₀ : Fleet (Bench Scene) := ⟨[], .fresh scene, []⟩
    let f := ((f₀.withSample "camera").withSample "camera").withSample "lidar"
    let first := (send Scene.world camera f.world).1
    let f₁ := f.send Scene.world 0 camera
    let second := (send Scene.world lidar f₁.world).1
    let f₂ := (f₁.send Scene.world 2 lidar).settle Scene.world 2 lidar second .empty
    let third := (send Scene.world camera f₂.world).1
    let f₃ := ((f₂.send Scene.world 1 camera).settle Scene.world 1 camera third .empty).settle
      Scene.world 0 camera first .empty
    let node := { camera with stamper := first.stamper, published := 1 }
    let cameras := f₃.world.metrics.get "camera"
    let lidars := f₃.world.metrics.get "lidar"
    Relation.ReflTransGen (Fleet.Turn Scene.world (·.metrics)) f₀ f₃ ∧
      cameras.messages.toNat = 2 ∧ cameras.errors.toNat = 0 ∧ cameras.bytes.toNat = 8 ∧
      cameras.duration.count = cameras.messages ∧
      lidars.messages.toNat = 0 ∧ lidars.errors.toNat = 1 ∧ lidars.bytes.toNat = 0 ∧
      publishedAs "camera" f₃.members = 2 ∧
      (f₃.call Scene.world 0 node (.timer 7) .empty).world.metrics = f₃.world.metrics := by
  intro scene camera lidar f₀ f first f₁ second f₂ third f₃ node cameras lidars
  have begun : Relation.ReflTransGen (Fleet.Turn Scene.world (·.metrics)) f₀ f :=
    ((Fleet.withSample_turns rfl).trans (Fleet.withSample_turns rfl)).trans
      (Fleet.withSample_turns rfl)
  have turns : Relation.ReflTransGen (Fleet.Turn Scene.world (·.metrics)) f₀ f₃ :=
    (((((begun.tail (.send rfl rfl)).tail (.send rfl rfl)).tail (.settle .empty rfl)).tail
      (.send rfl rfl)).tail (.settle .empty rfl)).tail (.settle .empty rfl)
  have hsize : camera.payload.size = 4 := Keystream.size_bytes _ _
  have hattempts : f₃.attempts = [⟨"lidar", 4, false⟩, ⟨"camera", 4, true⟩, ⟨"camera", 4, true⟩] := by
    rw [← hsize]
    rfl
  obtain ⟨accounts, -, calls⟩ :=
    turns_account_for_attempts (Bench.keepsMetrics Scene.outside) rfl turns
  have hcameras := accounts "camera"
  have hlidars := accounts "lidar"
  rw [hattempts] at hcameras hlidars
  obtain ⟨hcameraMessages, hcameraErrors, hcameraPublished⟩ :=
    hcameras.exactly (by decide +kernel)
  obtain ⟨hlidarMessages, hlidarErrors, -⟩ := hlidars.exactly (by decide +kernel)
  have silent : ¬ (Call.timer 7).Sends node := fun sends =>
    absurd (Option.some.inj sends.2) (by decide)
  have idle : f₃.members[0]? = some ⟨node, none⟩ := rfl
  obtain ⟨-, ignored, -⟩ := calls 0 node (.timer 7) .empty idle
  rw [hcameraMessages, hcameraErrors] at hcameraPublished
  exact ⟨turns, hcameraMessages, hcameraErrors, hcameras.bytes, hcameras.samples, hlidarMessages,
    hlidarErrors, hlidars.bytes, hcameraPublished.symm, ignored silent⟩

end PacedImages.Publisher
