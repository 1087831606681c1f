import PacedImages.Proofs.Messaging.Requests
import PacedImages.Proofs.Publisher.Creation

/-!
# Queue depths that crash

The depth for a publisher's topic goes to the transport as it is given. If the topic has no channel
yet when the settings are there, a depth that no channel can hold crashes the creation; nothing else
does. The transport by itself crashes in the same way, and in no other. What no channel can hold is a
depth that overflows the size of its buffer; memory is taken as given, so nothing is said of
shallower channels for which there is none.
-/

namespace PacedImages

namespace Publisher

variable {β : Type} {w : World (StateM β)} {source : Source (StateM β)} {shows : β → Shared → Prop}
  {others : Shared → Shared → Prop} {b : β} {v : Shared} {q : TimerQueue} {name topic : String}
  {settings : Settings} {depth : Nat} {book : SubjectBook}

/-- The topic has a subject, and that no channel, and the buffer of one as deep has a size that
overflows. -/
def TooDeep (book : SubjectBook) (topic : String) (depth : Nat) (bus : Bus) : Prop :=
  ∃ subject, (book.subject topic).1 = .ok subject ∧ bus.channels[subject]? = none ∧
    Channel.greatestDepth < depth

theorem register_crashes_iff (shares : w.Shares shows) (hb : shows b v) :
    ((register w book topic depth).run b).1 = .error .crashed ↔ TooDeep book topic depth v.bus := by
  rw [register_eq, TooDeep]
  cases (book.subject topic).1 with
  | error e => exact ⟨nofun, nofun⟩
  | ok subject =>
    have hadvertise := shares.advertise subject depth hb
    simp only [Except.ok.injEq, exists_eq_left', ← Bus.advertise?_eq_none_iff]
    cases hbus : v.bus.advertise? subject depth with
    | none =>
      rw [hbus] at hadvertise
      have hanswer : w.advertise subject depth b = (.error .crash, _) := Prod.ext hadvertise rfl
      rw [hanswer]
      exact ⟨fun _ => rfl, fun _ => rfl⟩
    | some bus =>
      rw [hbus] at hadvertise
      have hanswer : w.advertise subject depth b = (.ok (), _) := Prod.ext hadvertise.1 rfl
      rw [hanswer]
      exact ⟨nofun, nofun⟩

theorem start_crashes_iff (shares : w.Shares shows) (hb : shows b v) :
    ((start w name topic settings depth book q).run b).1 = .error .crashed ↔
      settings.validate = .ok () ∧ TooDeep book topic depth v.bus := by
  rw [start_eq]
  cases settings.validate with
  | error fault => exact ⟨nofun, nofun⟩
  | ok u =>
    rw [← register_crashes_iff shares hb, and_iff_right rfl]
    rcases (register w book topic depth).run b with ⟨halt | outlet, b₁⟩
    · simp
    · simp only [reduceCtorEq, iff_false]
      cases settings.payloadSize with
      | error fault => exact nofun
      | ok size =>
        simp only
        cases Payload.generate size settings.seed (w.drawKey (w.reserve size b₁).2).1
          (w.reserve size b₁).1 <;> exact nofun

theorem create_crashes_iff (shares : w.Shares shows) (options : Options) (fuel : Nat) {b₁ : β}
    {loaded : Option (Except WorkerError Settings)}
    (hloaded : Settings.load w source options.retry name fuel b = (loaded, b₁)) (hb₁ : shows b₁ v) :
    (create w name topic source options book q fuel b).1 = .error .crashed ↔
      ∃ settings, loaded = some (.ok settings) ∧ settings.validate = .ok () ∧
        TooDeep book topic options.depth v.bus := by
  rw [create_eq, hloaded]
  rcases loaded with _ | e | settings
  · exact ⟨nofun, nofun⟩
  · exact ⟨nofun, nofun⟩
  · simp only [Option.some.injEq, Except.ok.injEq, exists_eq_left']
    have hstart : ((start w name topic settings options.depth book q).run b₁).1 =
        .error .crashed ↔ _ := start_crashes_iff shares hb₁
    rw [← hstart]
    rcases (start w name topic settings options.depth book q).run b₁ with
      ⟨(e | _ | _) | started, b₂⟩ <;> simp

/-- After any requests that were answered, one that can be made crashes exactly if it is the first
to touch its subject and gives a depth that no channel can hold, the size of its buffer overflowing.
A creation crashes exactly if its settings are there and valid and the topic's subject then has no
channel and can have none so deep. That memory for a channel is exhausted is left aside. -/
theorem crashes_iff_too_deep (shares : w.Shares shows) (amid : source.WaitsAmid shows others)
    (name topic : String) (options : Options) (book : SubjectBook) (q : TimerQueue) (fuel : Nat)
    (hb : shows b v) :
    (∀ (earlier : List Request) (s : Session) (r : Request),
      Session.empty.answerAll earlier = some s → s.CanAsk r →
      (s.answer r = none ↔ ∃ subject depth, r.call? = some (.advertise subject depth) ∧
        Channel.greatestDepth < depth ∧ ∀ p ∈ earlier, ¬ p.Touches subject)) ∧
    ∃ loaded b₁ v₁, Settings.load w source options.retry name fuel b = (loaded, b₁) ∧
      Relation.ReflTransGen others v v₁ ∧ shows b₁ v₁ ∧
      ((create w name topic source options book q fuel b).1 = .error .crashed ↔
        ∃ settings, loaded = some (.ok settings) ∧ settings.validate = .ok () ∧
          TooDeep book topic options.depth v₁.bus) := by
  refine ⟨fun earlier s r h can => Session.crashes_iff_first_too_deep h can, ?_⟩
  obtain ⟨v₁, hothers, hb₁⟩ := Settings.loadFrom_amid shares amid options.retry name fuel 0 hb
  rcases hloaded : Settings.load w source options.retry name fuel b with ⟨loaded, b₁⟩
  have hshown : shows b₁ v₁ := by
    rw [Settings.load] at hloaded
    rwa [hloaded] at hb₁
  refine ⟨loaded, b₁, v₁, rfl, hothers, hshown, ?_⟩
  exact create_crashes_iff shares options fuel hloaded hshown

/-- A subject that was touched takes any depth; a fresh topic does not, nor does its publisher. -/
theorem crashes_iff_too_deep_fresh :
    let earlier : List Request := [.onBus (.subscribe "used")]
    let s : Session := ⟨(Bus.empty.subscribe "used").1, [some ⟨"used", 0⟩]⟩
    Scene.Shows sampleScene ⟨.empty, .empty, false, 0⟩ ∧
      Session.empty.answerAll earlier = some s ∧
      s.answer (.onBus (.advertise "used" 0x8000000000000000)) ≠ none ∧
      s.answer (.register .plain "image" 0x80000000000001) = none ∧
      (create Scene.world "camera" "image" Scene.memorySource ⟨0x8000000000000000, .standard⟩
        .plain .empty 1 sampleScene).1 = .error .crashed := by
  intro earlier s
  have hshows : Scene.Shows sampleScene ⟨.empty, .empty, false, 0⟩ :=
    ⟨rfl, rfl, rfl, rfl, rfl, rfl, Nat.le_refl 0⟩
  have hsubject : (SubjectBook.plain.subject "image").1 = .ok "image" := by decide +kernel
  obtain ⟨hrequests, loaded, b₁, v₁, hloaded, hothers, -, hcreate⟩ :=
    crashes_iff_too_deep Scene.shares Scene.memorySource_amid "camera" "image"
      ⟨0x8000000000000000, .standard⟩ .plain .empty 1 hshows
  obtain rfl : v₁ = ⟨.empty, .empty, false, 0⟩ :=
    (Relation.reflTransGen_iff_eq fun _ => id).mp hothers
  have hearlier : Session.empty.answerAll earlier = some s := rfl
  have hanswered : s.answer (.onBus (.advertise "used" 0x8000000000000000)) ≠ none := by
    have hopen : s.CanAsk (.onBus (.advertise "used" 0x8000000000000000)) := rfl
    rw [ne_eq, hrequests earlier s _ hearlier hopen]
    rintro ⟨_, _, hcall, -, hfirst⟩
    cases hcall
    exact hfirst _ List.mem_cons_self rfl
  have hcrashed : s.answer (.register .plain "image" 0x80000000000001) = none := by
    have hopen : s.CanAsk (.register .plain "image" 0x80000000000001) := rfl
    refine (hrequests earlier s _ hearlier hopen).mpr ⟨"image", 0x80000000000001, ?_, by decide, ?_⟩
    · rw [Request.call?, hsubject]
    · intro r hr
      obtain rfl := List.mem_singleton.mp hr
      exact (Bool.false_ne_true : ¬ (none : Option Nat).isSome = true)
  have hsettings : (Settings.load Scene.world Scene.memorySource .standard "camera" 1
      sampleScene).1 = some (.ok { Settings.standard with dimension := 16777216 }) := by
    with_unfolding_all rfl
  rw [hloaded] at hsettings
  refine ⟨hshows, hearlier, hanswered, hcrashed, hcreate.mpr ⟨_, hsettings, by decide, ?_⟩⟩
  exact ⟨"image", hsubject, rfl, by decide⟩

end Publisher

end PacedImages
