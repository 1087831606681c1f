import PacedImages.Proofs.Image.Headers
import PacedImages.Proofs.Image.Payload
import PacedImages.Proofs.Publisher.Settings
import PacedImages.Proofs.Publisher.Stage

/-!
# What a consumer sees

A consumer that subscribes before the first image reads images of the publisher alone, each of them
whole and later than those before. Main statement: what it reads, for any order of reads and ticks,
and what it has read when the publisher has ended and nothing is left to read.
-/

namespace PacedImages

/-- A square frame of four bytes a pixel that shows the payload. -/
structure Image.IsFrame (i : Image) (dimension : UInt32) (payload : ByteArray) : Prop where
  frameId : i.frameId = "image_frame"
  encoding : i.encoding = "rgba8"
  bigEndian : i.bigEndian = false
  height : i.height = dimension
  width : i.width = dimension
  step : i.step.toNat = 4 * dimension.toNat
  data : i.data = payload

/-- The image that a message carries. -/
def Message.image (m : Message) : Except MessageError Image :=
  Image.ofMessage m.headers m.payload

/-- Whether a read finds nothing can be told. -/
instance (r : Reception) : Decidable (r = .nothing) :=
  match r with
  | .nothing => isTrue rfl
  | .message _ => isFalse nofun
  | .fault _ => isFalse nofun

/-- A mailbox into which readable images come gives images, and all but the lost ones once it is
empty. -/
theorem Mailbox.images_returned {capacity : Nat} (hcapacity : 0 < capacity)
    {events : List MailboxEvent} {all : List Image}
    (hcontent : (postings events).map (fun m => (m.payload, m.headers)) =
      all.map fun i => (i.data, i.headers))
    (hreadable : ∀ i ∈ all, Image.ofMessage i.headers i.data = .ok i) :
    let found := (fresh.replay capacity events).1
    ∃ images : List Image, images.Sublist all ∧
      (returned found).map Message.image = images.map .ok ∧
      ((fresh.replay capacity events).2.unread = [] →
        images.length + lost found = all.length ∧ images.getLast? = all.getLast?) := by
  intro found
  have hread : (postings events).map Message.image = all.map .ok := by
    have hdecoded := congrArg (List.map fun content : ByteArray × Headers =>
      Image.ofMessage content.2 content.1) hcontent
    rw [List.map_map, List.map_map] at hdecoded
    exact hdecoded.trans (List.map_congr_left hreadable)
  obtain ⟨taken, hsplit, hsublist, hlength⟩ := replay_accounts capacity events fresh
  have hall : postings events = taken ++ (fresh.replay capacity events).2.unread := hsplit
  have hreturned : (returned found).Sublist (postings events) :=
    hsublist.trans (hall ▸ List.sublist_append_left _ _)
  obtain ⟨images, himages, hdecoded⟩ :=
    List.sublist_map_iff.mp (hread ▸ hreturned.map Message.image)
  refine ⟨images, himages, hdecoded, fun hempty => ⟨?_, ?_⟩⟩
  · have hcount := congrArg List.length hdecoded
    have hposted := congrArg List.length hread
    rw [List.length_map, List.length_map] at hcount hposted
    rw [← hcount, ← hposted, hall, hempty, List.append_nil, hlength]
  · have hlast := last_returned hcapacity events fresh hempty
    have hmapped : ((returned found).map Message.image).getLast? =
        ((postings events).map Message.image).getLast? := by
      rw [List.getLast?_map, List.getLast?_map]
      exact congrArg _ hlast
    rw [hdecoded, hread, List.getLast?_map, List.getLast?_map] at hmapped
    exact (Option.map_inj_right fun _ _ => Except.ok.inj).mp hmapped

namespace Publisher

variable {p : Publisher}

/-- The payload fills an image of the settings. -/
structure Fits (p : Publisher) : Prop where
  dimension : p.settings.dimension.toNat ≤ 0xFFFFFFFF / 4
  size : p.payload.size = p.settings.dimension.toNat * p.settings.dimension.toNat * 4

theorem SameTask.fits {p' : Publisher} (same : SameTask p p') (fits : p.Fits) : p'.Fits where
  dimension := by rw [same.settings]; exact fits.dimension
  size := by rw [same.settings, same.payload]; exact fits.size

/-- The images of a publisher are frames, and are read back as they were. -/
theorem image_readable (fits : p.Fits) {readings : List Stamp} {i : Image}
    (hi : i ∈ p.images readings) (hcalendar : ∀ t ∈ p.stamper.stamps readings, t.InCalendar) :
    i.IsFrame p.settings.dimension p.payload ∧ Image.ofMessage i.headers i.data = .ok i := by
  obtain ⟨t, ht, rfl⟩ := List.mem_map.mp hi
  have hstep : (Image.rowBytes p.settings.dimension).toNat = 4 * p.settings.dimension.toNat :=
    Settings.rowBytes_toNat fits.dimension
  refine ⟨⟨rfl, rfl, rfl, rfl, rfl, hstep, rfl⟩, ?_⟩
  refine Image.ofMessage_of_header (Image.getElem?_headers _) (hcalendar t ht) ?_
  show p.payload.size = (Image.rowBytes p.settings.dimension).toNat * p.settings.dimension.toNat
  rw [hstep, fits.size, Nat.mul_comm, Nat.mul_assoc]

/-- What a start that succeeds puts on stage: the bus was asked for the subject. -/
theorem start_stage {name topic : String} {settings : Settings} {depth : Nat}
    {book : SubjectBook} {q q₁ : TimerQueue} {bench bench₁ : Bench Scene}
    (hscript : bench.outside.script = none) (hopen : bench.outside.bus.closed = false)
    (hcalendar : ∀ k, (bench.outside.calendar k).IsPlain)
    (hstart : (start Scene.world name topic settings depth book q).run bench =
      (.ok (p, q₁), bench₁)) (subscriptions : List (Option Subscription)) :
    let x : Stage := ⟨bench₁, p, q₁, subscriptions⟩
    x.Running ∧ p.Fits ∧ p.settings = settings ∧ p.stamper = .fresh ∧ p.published = 0 ∧
      Session.step ⟨bench.outside.bus, subscriptions⟩ (.advertise p.outlet.subject depth) =
        some ([], x.session) := by
  intro x
  obtain ⟨hvalid, subject, size, payload, _, hadvertise, hsize, hpayload, hlaunch⟩ :=
    start_ok Scene.world p q bench hstart
  obtain ⟨hcount, hdimension⟩ := Settings.validate_eq_ok_iff.mp hvalid
  obtain ⟨bus, hbus, hadvertised⟩ := Scene.world_advertise_of_bus hscript hadvertise
  obtain ⟨hbegun, hbench⟩ := Prod.mk.inj hlaunch
  obtain ⟨rfl, _⟩ := Prod.mk.inj hbegun
  have hscene : bench₁.outside = { bench.outside with bus } := by
    rw [← hbench, hadvertised]
    rfl
  have hstep : Session.step ⟨bench.outside.bus, subscriptions⟩ (.advertise subject depth) =
      some ([], x.session) := by
    simp only [Session.step, hopen, hbus, Bool.false_eq_true, if_false, Option.map_some,
      Stage.session, x, hscene]
  have hclosed := Session.closed_step hstep (by simp)
  refine ⟨⟨?_, ?_, ?_, ?_, ?_⟩, ⟨hdimension, ?_⟩, rfl, rfl, rfl, hstep⟩
  · rw [hscene]
    exact hscript
  · exact hclosed.trans hopen
  · rw [hscene]
    exact hcalendar
  · exact .delaying rfl rfl hcount
  · exact fun last hlast => by cases hlast
  · rw [Settings.payloadSize_of_le hdimension] at hsize
    cases hsize
    exact Payload.size_of_generate hpayload

/-- A consumer subscribes on a stage before the first image. Whatever it then reads, in any order of
reads and ticks, are frames with growing stamps. When the publisher has ended and a further read
finds nothing, the frames read and those reported as lost make up all that were to be sent, and the
last one sent was read. -/
theorem consumer_sees_frames {name topic : String} {settings : Settings} {depth : Nat}
    {book : SubjectBook} {p : Publisher} {q q₁ : TimerQueue} {bench bench₁ : Bench Scene}
    {calls : List BusCall} {log₀ log₁ log : List (Nat × Reception)}
    {subscriptions : List (Option Subscription)} {before after : List StageEvent} {x x' : Stage}
    (hearlier : Session.run .empty calls = some (log₀, ⟨bench.outside.bus, subscriptions⟩))
    (hscript : bench.outside.script = none) (hopen : bench.outside.bus.closed = false)
    (hcalendar : ∀ k, (bench.outside.calendar k).IsPlain)
    (hstart : (start Scene.world name topic settings depth book q).run bench =
      (.ok (p, q₁), bench₁))
    (hbefore : Stage.run ⟨bench₁, p, q₁, subscriptions⟩ before = some (log₁, x))
    (hearly : x.publisher.published = 0)
    (hafter : x.run (.call (.subscribe p.outlet.subject) :: after) = some (log, x')) :
    let number := x.subscriptions.length
    let found := Session.findings number log
    ∃ images : List Image,
      (Mailbox.returned found).map Message.image = images.map .ok ∧
      (∀ i ∈ images, i.IsFrame settings.dimension p.payload) ∧
      (images.map (·.stamp)).Pairwise (fun a b => a.isBefore b = true) ∧
      (x'.publisher.phase = .terminated →
        (∃ s, x'.session.step (.next number) = some ([(number, .nothing)], s)) →
        images.length + Mailbox.lost found = settings.maxCount.toNat ∧
          images.getLast? = x'.publisher.stamper.last.map
            fun t => .square t settings.dimension p.payload) := by
  intro number found
  obtain ⟨running₀, fits, hsettings, hfresh, hzero, hadvertise⟩ :=
    start_stage hscript hopen hcalendar hstart subscriptions
  obtain ⟨running₁, calls₁, readings₁, projects₁⟩ := Stage.run_projects running₀ hbefore
  obtain ⟨log₂, x₂, log₃, hsubscribe, hrest, rfl⟩ := Stage.run_cons hafter
  obtain ⟨running₂, _⟩ := Stage.step_projects running₁ hsubscribe
  obtain ⟨_, s₂, hstep, rfl⟩ := Stage.step_call hsubscribe
  obtain ⟨running₃, calls₃, readings₃, projects₃⟩ := Stage.run_projects running₂ hrest
  have same : SameTask p x.publisher := projects₁.sent.toSameTask
  -- The bus has been through one session so far.
  let sofar := calls ++ ([BusCall.advertise p.outlet.subject depth] ++ calls₁)
  have hsofar : Session.run .empty sofar = some (_, x.session) := Session.run_join hearlier
    (Session.run_join (Session.run_single hadvertise) projects₁.run)
  let capacity := Session.capacityOf p.outlet.subject
    (sofar ++ .subscribe p.outlet.subject :: calls₃)
  let events := BusCall.allEvents p.outlet.subject number (sofar.countP BusCall.isPublish) calls₃
  obtain ⟨hfound, follows, hcapacity⟩ : found = (Mailbox.fresh.replay capacity events).1 ∧
      Session.Follows x'.session number p.outlet.subject
        (Mailbox.fresh.replay capacity events).2 ∧
      x'.session.capacity? p.outlet.subject = some capacity :=
    Session.follow_subscription hsofar hstep projects₃.run
  -- Into its mailbox come the images.
  have hsubject : x.publisher.outlet.subject = p.outlet.subject := congrArg _ same.outlet
  have hcontent : (Mailbox.postings events).map (fun m => (m.payload, m.headers)) =
      (x.publisher.images readings₃).map fun i => (i.data, i.headers) := by
    rw [BusCall.postings_allEvents, ← hsubject]
    exact projects₃.content
  have hreadable (i : Image) (hi : i ∈ x.publisher.images readings₃) :=
    image_readable (same.fits fits) hi projects₃.sent.inCalendar
  obtain ⟨images, hsublist, hdecoded, hdrained⟩ :=
    Mailbox.images_returned (Session.capacityOf_pos _ _) hcontent fun i hi => (hreadable i hi).2
  rw [← hfound] at hdecoded hdrained
  have hdimension : x.publisher.settings.dimension = settings.dimension := by
    rw [same.settings, hsettings]
  refine ⟨images, hdecoded, ?_, ?_, ?_⟩
  · intro i hi
    rw [← hdimension, ← same.payload]
    exact (hreadable i (hsublist.subset hi)).1
  · have hordered := (Stamper.stamps_ordered running₁.stamper projects₃.plain).1
    have hstamps := hsublist.map (·.stamp)
    rw [images_stamps] at hstamps
    exact ((List.pairwise_append.mp hordered).2.1).sublist hstamps
  · intro hphase ⟨s, hnothing⟩
    obtain ⟨hall, hlast⟩ := hdrained (follows.drained hcapacity hnothing)
    constructor
    · have hsame := same.trans projects₃.sent.toSameTask
      have hpublished : x'.publisher.published.toNat =
          x.publisher.published.toNat + readings₃.length := projects₃.sent.published
      rw [running₃.progress.published_of_terminated hphase, hsame.settings, hsettings, hearly,
        UInt32.toNat_zero, Nat.zero_add] at hpublished
      rw [hall, length_images, hpublished]
    · have hfirst : x.publisher.stamper.last = none := by
        rw [projects₁.sent.stamper, projects₁.sent.readings_nil hearly, hfresh]
        rfl
      have hstamper : x'.publisher.stamper = x.publisher.stamper.afterAll readings₃ :=
        projects₃.sent.stamper
      rw [hlast, hstamper, Stamper.last_afterAll, hfirst, Publisher.images, List.getLast?_map,
        hdimension, same.payload]
      rfl

/-- Two images for a reader of one: it is told that one is lost, and reads the other one. -/
theorem consumer_sees_frames_overrun :
    let settings : Settings := ⟨Time.millis 10, 2, 1, Time.millis 5, "", some 1⟩
    let after : List StageEvent := [.timer 1, .timer 1, .call (.next 0), .call (.next 0)]
    ∃ p q₁ bench₁ log₁ x log x',
      (start Scene.world "camera" "image" settings 1 .plain .empty).run (.fresh .fresh) =
        (.ok (p, q₁), bench₁) ∧
      Stage.run ⟨bench₁, p, q₁, []⟩ [.timer 0] = some (log₁, x) ∧
      x.run (.call (.subscribe p.outlet.subject) :: after) = some (log, x') ∧
      Mailbox.lost (Session.findings 0 log) = 1 ∧
      ∃ i : Image, (Mailbox.returned (Session.findings 0 log)).map Message.image = [.ok i] ∧
        i.IsFrame 1 p.payload ∧ x'.publisher.stamper.last = some i.stamp := by
  intro settings after
  let started := (start Scene.world "camera" "image" settings 1 .plain .empty).run (.fresh .fresh)
  have hpossible : ∃ begun ∈ started.1.toOption,
      ∃ early ∈ Stage.run ⟨started.2, begun.1, begun.2, []⟩ [.timer 0],
      ∃ late ∈ early.2.run (.call (.subscribe begun.1.outlet.subject) :: after),
      ∃ answered ∈ late.2.session.step (.next 0),
        (early.2.publisher.published = 0 ∧ early.2.subscriptions.length = 0) ∧
        (late.2.publisher.phase = .terminated ∧ Mailbox.lost (Session.findings 0 late.1) = 1) ∧
        ∀ answer ∈ answered.1, answer.2 = .nothing := by
    decide +kernel
  obtain ⟨⟨p, q₁⟩, hbegun, ⟨log₁, x⟩, hbefore, ⟨log, x'⟩, hafter, ⟨answers, s⟩, hanswers,
    ⟨hearly, hnumber⟩, ⟨hphase, hlost⟩, hall⟩ := hpossible
  have hok : started.1 = .ok (p, q₁) := by
    cases hresult : started.1 with
    | error e =>
      rw [hresult] at hbegun
      cases hbegun
    | ok begun =>
      rw [hresult] at hbegun
      exact congrArg Except.ok (Option.some.inj hbegun)
  have hstart : started = (.ok (p, q₁), started.2) := Prod.ext hok rfl
  have hnothing : x'.session.step (.next 0) = some ([(0, .nothing)], s) := by
    obtain ⟨reader, _, rfl, _⟩ := Session.step_next hanswers
    have hnone : (x'.session.bus.receive reader).1 = .nothing :=
      hall _ (List.mem_singleton_self _)
    rw [← hnone]
    exact hanswers
  have hplain (k : Nat) : (Scene.fresh.calendar k).IsPlain := show 0 < 1000000000 by decide
  have hidle : Session.run .empty [] = some ([], ⟨.empty, []⟩) := rfl
  obtain ⟨images, hread, hframes, _, hend⟩ := consumer_sees_frames hidle rfl rfl hplain hstart
    hbefore hearly hafter
  rw [hnumber] at hread hend
  obtain ⟨hcount, hlast⟩ := hend hphase ⟨s, hnothing⟩
  have hone : images.length = 1 := by
    rw [hlost] at hcount
    exact Nat.succ.inj hcount
  obtain ⟨i, rfl⟩ := List.length_eq_one_iff.mp hone
  refine ⟨p, q₁, started.2, log₁, x, log, x', hstart, hbefore, hafter, hlost, i, hread,
    hframes i (List.mem_singleton_self i), ?_⟩
  have hsquare : x'.publisher.stamper.last.map
      (fun t => .square t settings.dimension p.payload) = some i := hlast.symm
  obtain ⟨t, ht, rfl⟩ := Option.map_eq_some_iff.mp hsquare
  exact ht

end Publisher

end PacedImages
