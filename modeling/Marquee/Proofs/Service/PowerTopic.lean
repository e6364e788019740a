import Marquee.Bus.Record
import Marquee.Proofs.Service.Lines
import Marquee.Proofs.Service.Orders

/-!
# What the power topic shows

Both sides publish on the power topic what they read or were told some time ago, so a payload that
goes out may be older than one that went out before. An order always leaves an echo to be done, and
an acknowledgement of the relay a publication, so what comes last once neither is due is the power
state of the sign or what the relay is known to be. `Told` says this of every point of a run, and
`power_topic_settles` is what remains of it when nothing is due.
-/

namespace Marquee

/-! ## Requests that are taken -/

/-- Two records take requests alike, and have the same to say about a topic. -/
structure BusRecord.Alike (topic : String) (a b : BusRecord) : Prop where
  failing : b.failing = a.failing
  lastPayload : b.lastPayload topic = a.lastPayload topic
  retained : b.retained topic = a.retained topic

theorem BusRecord.Alike.refl (topic : String) (record : BusRecord) :
    record.Alike topic record := ⟨rfl, rfl, rfl⟩

/-- The hub once the bus has taken a request. -/
def Hub.taken (request : BusRequest) (hub : Hub BusRecord) : Hub BusRecord :=
  { hub with bus := hub.bus.add request }

theorem Hub.request_taken {hub : Hub BusRecord} (h : hub.bus.failing = false)
    (request : BusRequest) (complaint : BusError → Remark) :
    hub.request (BusRecord.take request) complaint = hub.taken request := by
  rw [Hub.request, BusRecord.take_of_accepting request h, taken]

/-- A chore that publishes nothing on a topic changes nothing there. -/
theorem Chore.perform_alike {hub : Hub BusRecord} (h : hub.bus.failing = false) {topic : String}
    {chore : Chore} (hother : ∀ payload, chore ≠ .echo topic payload) :
    hub.bus.Alike topic (chore.perform hub).bus := by
  cases chore with
  | say level text => exact .refl topic hub.bus
  | echo t payload =>
    have hne : t ≠ topic := fun heq => hother payload (heq ▸ rfl)
    change hub.bus.Alike topic (hub.request (BusRecord.take (.publish t payload true)) _).bus
    rw [Hub.request_taken h]
    exact ⟨rfl, (BusRecord.lastPayload_add_publish ..).trans (if_neg hne),
      (BusRecord.retained_add_publish ..).trans (if_neg hne)⟩
  | listen t =>
    change hub.bus.Alike topic (hub.request (BusRecord.take (.subscribe t)) _).bus
    rw [Hub.request_taken h]
    exact ⟨rfl, BusRecord.lastPayload_add_subscribe .., BusRecord.retained_add_subscribe ..⟩

namespace Interplay

variable {ℓ : Type} {p q : Interplay ℓ BusRecord}

/-! ## What is due, and what is shown -/

/-- The control side has still to echo a power state. -/
def EchoDue (p : Interplay ℓ BusRecord) : Prop :=
  ∃ payload, .echo Topic.power payload ∈ p.chores

/-- The panel side has still to publish a relay state. -/
def RelayDue (p : Interplay ℓ BusRecord) : Prop :=
  ∃ now on, p.point = some (.acknowledged now on)

/-- The last payload on the power topic is the power state or what the relay is known to be; as long
as there is none, nothing is known of the relay. -/
def PowerShown (p : Interplay ℓ BusRecord) : Prop :=
  p.bus.lastPayload Topic.power = some (switchPayload p.sign.powered) ∨
  (∃ on, p.side.relay = some on ∧ p.bus.lastPayload Topic.power = some (switchPayload on)) ∨
  p.bus.lastPayload Topic.power = none ∧ p.side.relay = none

/-- What holds of the power topic at every point of a run. -/
structure Told (p : Interplay ℓ BusRecord) : Prop where
  /-- requests are taken -/
  accepting : p.bus.failing = false
  /-- the bus keeps what was published last -/
  kept : p.bus.retained Topic.power = p.bus.lastPayload Topic.power
  /-- an echo that is due is that of the power state -/
  current : ∀ payload, .echo Topic.power payload ∈ p.chores →
    payload = switchPayload p.sign.powered
  /-- a publication that is due is that of the relay's record -/
  acknowledged : ∀ now on, p.point = some (.acknowledged now on) → p.side.relay = some on
  /-- with nothing due, the topic shows one of them -/
  shown : ¬ p.EchoDue → ¬ p.RelayDue → p.PowerShown

theorem told_start (timings : Timings) (panels : Trio ℓ) : Told (start timings .new panels) where
  accepting := rfl
  kept := rfl
  current payload h := by simp [start] at h
  acknowledged now on h := by simp [start] at h
  shown _ _ := .inr (.inr ⟨rfl, rfl⟩)

namespace Told

/-- A step that is not about the power state carries the invariant over. -/
theorem congr (h : Told p) (hbus : p.bus.Alike Topic.power q.bus)
    (hpowered : q.sign.powered = p.sign.powered) (hrelay : q.side.relay = p.side.relay)
    (hchores : ∀ payload, .echo Topic.power payload ∈ q.chores ↔
      .echo Topic.power payload ∈ p.chores)
    (hpoint : ∀ now on, q.point = some (.acknowledged now on) ↔
      p.point = some (.acknowledged now on)) : Told q where
  accepting := hbus.failing.trans h.accepting
  kept := by rw [hbus.retained, hbus.lastPayload, h.kept]
  current payload hmem := by
    rw [hpowered]
    exact h.current payload ((hchores payload).mp hmem)
  acknowledged now on hat := by
    rw [hrelay]
    exact h.acknowledged now on ((hpoint now on).mp hat)
  shown hecho hpublish := by
    have hecho' : ¬ p.EchoDue := fun ⟨payload, hmem⟩ =>
      hecho ⟨payload, (hchores payload).mpr hmem⟩
    have hpublish' : ¬ p.RelayDue := fun ⟨now, on, hat⟩ =>
      hpublish ⟨now, on, (hpoint now on).mpr hat⟩
    rw [PowerShown, hbus.lastPayload, hpowered, hrelay]
    exact h.shown hecho' hpublish'

/-- A new echo is due. -/
theorem echo_due {side side' : PanelSide ℓ BusRecord} {point : Option TickPoint}
    {chores chores' : List Chore} (h : Told ⟨side, point, chores⟩)
    (hbus : side'.hub.bus = side.hub.bus) (hrelay : side'.relay = side.relay)
    (hcurrent : ∀ payload, .echo Topic.power payload ∈ chores' →
      payload = switchPayload side'.hub.sign.powered)
    (hdue : .echo Topic.power (switchPayload side'.hub.sign.powered) ∈ chores') :
    Told ⟨side', point, chores'⟩ where
  accepting := (congrArg BusRecord.failing hbus).trans h.accepting
  kept := by
    change side'.hub.bus.retained Topic.power = side'.hub.bus.lastPayload Topic.power
    rw [hbus]
    exact h.kept
  current := hcurrent
  acknowledged now on hat := hrelay.trans (h.acknowledged now on hat)
  shown hecho _ := absurd ⟨_, hdue⟩ hecho

/-- A power state or the relay's record is published. -/
theorem published {side : PanelSide ℓ BusRecord} {point point' : Option TickPoint}
    {chores chores' : List Chore} {payload : String} (h : Told ⟨side, point, chores⟩)
    (hpayload : payload = switchPayload side.hub.sign.powered ∨
      ∃ on, side.relay = some on ∧ payload = switchPayload on)
    (hchores : ∀ payload, .echo Topic.power payload ∈ chores' →
      .echo Topic.power payload ∈ chores)
    (hpoint : ∀ now on, point' = some (.acknowledged now on) →
      point = some (.acknowledged now on)) :
    Told ⟨side.mapHub (Hub.taken (.publish Topic.power payload true)), point', chores'⟩ where
  accepting := h.accepting
  kept := by simp [bus, PanelSide.mapHub, Hub.taken]
  current payload hmem := h.current payload (hchores payload hmem)
  acknowledged now on hat := h.acknowledged now on (hpoint now on hat)
  shown _ _ := by
    have hlast : (side.mapHub (Hub.taken (.publish Topic.power payload true))).hub.bus.lastPayload
        Topic.power = some payload := by
      simp [PanelSide.mapHub, Hub.taken]
    rcases hpayload with rfl | ⟨on, hrelay, rfl⟩
    · exact .inl hlast
    · exact .inr (.inl ⟨on, hrelay, hlast⟩)

/-- The control side echoes a power state. -/
theorem echo {side : PanelSide ℓ BusRecord} {point : Option TickPoint} {payload : String}
    {rest : List Chore} (h : Told ⟨side, point, .echo Topic.power payload :: rest⟩) :
    Told ⟨side.mapHub (Chore.echo Topic.power payload).perform, point, rest⟩ := by
  have hperform : (Chore.echo Topic.power payload).perform side.hub =
      side.hub.taken (.publish Topic.power payload true) := Hub.request_taken h.accepting _ _
  rw [PanelSide.mapHub, hperform]
  exact h.published (.inl (h.current payload List.mem_cons_self))
    (fun _ hmem => List.mem_cons_of_mem _ hmem) (fun _ _ hat => hat)

/-- The panel side publishes a relay state. -/
theorem publishRelay {side : PanelSide ℓ BusRecord} {now : ClockReading} {on : Bool}
    {chores : List Chore} (h : Told ⟨side, some (.acknowledged now on), chores⟩) :
    Told ⟨side.publishRelay on, some (.kept now on), chores⟩ := by
  have hrequest := Hub.request_taken h.accepting (.publish Topic.power (switchPayload on) true)
    fun e => ⟨.warn, "publish power state failed: " ++ e.message⟩
  have hpublish : side.publishRelay on =
      side.mapHub (Hub.taken (.publish Topic.power (switchPayload on) true)) :=
    congrArg (fun hub => { side with hub := hub }) hrequest
  rw [hpublish]
  exact h.published (.inr ⟨on, h.acknowledged now on rfl, rfl⟩) (fun _ hmem => hmem)
    (fun _ _ hat => by simp at hat)

/-- The control side does what it has to do next. -/
theorem chore {side : PanelSide ℓ BusRecord} {point : Option TickPoint} {chore : Chore}
    {rest : List Chore} (h : Told ⟨side, point, chore :: rest⟩) :
    Told ⟨side.mapHub chore.perform, point, rest⟩ := by
  by_cases hpower : ∃ payload, chore = .echo Topic.power payload
  · obtain ⟨payload, rfl⟩ := hpower
    exact h.echo
  · have hother : ∀ payload, chore ≠ .echo Topic.power payload := fun payload heq =>
      hpower ⟨payload, heq⟩
    have hsign := (chore.perform_rest side.hub).1
    refine h.congr (Chore.perform_alike h.accepting hother) (congrArg Sign.powered hsign) rfl
      (fun payload => ?_) (fun _ _ => Iff.rfl)
    simp [Ne.symm (hother payload)]

/-- The control side has the sign carry out an order. -/
theorem obey {side : PanelSide ℓ BusRecord} {point : Option TickPoint}
    (h : Told ⟨side, point, []⟩) (order : Order) (nowMs : Nat) :
    Told ⟨side.mapHub fun hub => (hub.applyOrder order nowMs).2, point,
      Chore.tidings side.hub.timings.lifetimeS order (side.hub.applyOrder order nowMs).1⟩ := by
  cases order with
  | power on =>
    refine h.echo_due rfl rfl (fun payload hmem => ?_) ?_
    · simpa [Hub.applyOrder, Sign.obey, Sign.withPower, Chore.tidings, PanelSide.mapHub] using hmem
    · simp [Hub.applyOrder, Sign.obey, Sign.withPower, Chore.tidings, PanelSide.mapHub]
  | inversion on =>
    refine h.congr (.refl _ _) rfl rfl (fun payload => ?_) (fun _ _ => Iff.rfl)
    simp [Hub.applyOrder, Sign.obey, Chore.tidings, Topic.power, Topic.inversion]
  | message text =>
    refine h.congr (.refl _ _) rfl rfl (fun payload => ?_) (fun _ _ => Iff.rfl)
    simp [Hub.applyOrder, Sign.obey, Chore.tidings]

variable [Link ℓ]

/-- A tick goes through its next section. -/
theorem proceed {side : PanelSide ℓ BusRecord} {point : TickPoint} {chores : List Chore}
    (h : Told ⟨side, some point, chores⟩) :
    Told ⟨(side.proceed point).2, (side.proceed point).1, chores⟩ := by
  have hpowered : (side.proceed point).2.hub.sign.powered = side.hub.sign.powered := by
    obtain ⟨-, hturns⟩ := side.proceed_turns point
    rw [hturns.powered]
    cases point <;> rfl
  rcases side.proceed_cases point with ⟨now, on, rfl, hat, hrelay, hbus⟩ |
    ⟨now, on, rfl, hproceed⟩ | ⟨hno, hno', hrelay, hbus⟩
  · -- From here on the publication is due.
    constructor
    · exact (congrArg BusRecord.failing hbus).trans h.accepting
    · change (side.proceed _).2.hub.bus.retained _ = (side.proceed _).2.hub.bus.lastPayload _
      rw [hbus]
      exact h.kept
    · intro payload hmem
      exact (h.current payload hmem).trans (congrArg switchPayload hpowered.symm)
    · intro now' on' hat'
      obtain ⟨-, rfl⟩ : now = now' ∧ on = on' := by simpa [hat] using hat'
      exact hrelay
    · intro _ hpublish
      exact absurd ⟨now, on, hat⟩ hpublish
  · rw [hproceed]
    exact h.publishRelay
  · refine h.congr ?_ hpowered hrelay (fun _ => Iff.rfl) (fun now on => ?_)
    · change side.hub.bus.Alike _ (side.proceed point).2.hub.bus
      rw [hbus]
      exact .refl _ _
    · exact iff_of_false (hno' now on) (fun hat => hno now on (Option.some.inj hat))

/-- Every step preserves the invariant. -/
theorem step (h : Told p) {incident : Incident} (step : Step p incident q) : Told q := by
  cases step with
  | panels side point chores panels =>
    exact h.congr (.refl _ _) rfl rfl (fun _ => Iff.rfl) (fun _ _ => Iff.rfl)
  | remark side point level text =>
    exact h.congr (.refl _ _) rfl rfl (fun _ => Iff.rfl) (fun _ _ => Iff.rfl)
  | greet side point =>
    refine h.echo_due rfl rfl (fun payload hmem => ?_) ?_
    · simpa [Chore.greeting, Topic.power, Topic.available, Topic.inversion] using hmem
    · simp [Chore.greeting]
  | obey side point order nowMs => exact h.obey order nowMs
  | chore side point chore rest => exact h.chore
  | begin side chores now =>
    exact h.congr (.refl _ _) rfl rfl (fun _ => Iff.rfl) (fun _ _ => by simp)
  | proceed side point chores => exact h.proceed

end Told

/-- After any run the invariant holds. -/
theorem Run.told [Link ℓ] {timings : Timings} {panels : Trio ℓ} {past : List Incident}
    (run : Run (start timings .new panels) past p) : Told p := by
  induction run with
  | refl => exact told_start timings panels
  | step _ step ih => exact ih.step step

end Interplay

/-! ## The power topic settles -/

/-- However the steps of both sides follow one another, and whatever the panel makes of the commands
to its relay: when the control side has no power state left to echo and the panel side no
acknowledged relay state to publish, the last payload on the power topic is that of the power state
or of the relay state acknowledged last. If these agree, the bus keeps the power state there. -/
theorem power_topic_settles {ℓ : Type} [Link ℓ] (timings : Timings) (panels : Trio ℓ)
    {past : List Incident} {p : Interplay ℓ BusRecord}
    (run : Interplay.Run (.start timings .new panels) past p)
    (told : ∀ payload, .echo Topic.power payload ∉ p.chores)
    (published : ∀ now on, p.point ≠ some (.acknowledged now on)) :
    (∀ payload, p.bus.lastPayload Topic.power = some payload →
      payload = switchPayload p.sign.powered ∨
        ∃ on, p.side.relay = some on ∧ payload = switchPayload on) ∧
    (p.side.relay = some p.sign.powered →
      p.bus.retained Topic.power = some (switchPayload p.sign.powered)) := by
  have htold := run.told
  have hshown : p.PowerShown :=
    htold.shown (fun ⟨payload, hmem⟩ => told payload hmem)
      (fun ⟨now, on, hat⟩ => published now on hat)
  constructor
  · intro payload hlast
    rcases hshown with hpower | ⟨on, hrelay, hshows⟩ | ⟨hnone, -⟩
    · exact .inl (Option.some.inj (hlast.symm.trans hpower))
    · exact .inr ⟨on, hrelay, Option.some.inj (hlast.symm.trans hshows)⟩
    · rw [hnone] at hlast
      cases hlast
  · intro hagree
    rw [htold.kept]
    rcases hshown with hpower | ⟨on, hrelay, hshows⟩ | ⟨-, hnone⟩
    · exact hpower
    · obtain rfl := Option.some.inj (hagree.symm.trans hrelay)
      exact hshows
    · rw [hnone] at hagree
      cases hagree

/-- A tick that read the power state before an order publishes what the relay acknowledged after the
echo of that order. The next tick makes up for it. -/
theorem power_topic_settles_overtaken :
    let start : Interplay (ChannelLink PanelLine) BusRecord :=
      .start .default .new ⟨⟨.new 0⟩, ⟨.new 1⟩, ⟨.new 2⟩⟩
    ∃ past later p q, Interplay.Run start past p ∧ Interplay.Run start (past ++ later) q ∧
      p.sign.powered = true ∧ p.side.relay = some false ∧
      p.bus.retained Topic.power = some "OFF" ∧
      q.sign.powered = true ∧ q.side.relay = some true ∧
      q.bus.retained Topic.power = some "ON" := by
  intro start
  have overtaken := Interplay.Run.refl (p := start)
    |>.step (.obey _ _ (.power false) 0) |>.step (.chore _ _ _ _) |>.step (.chore _ _ _ _)
    |>.step (.begin _ _ ⟨0, 0⟩)
    |>.step (.obey _ _ (.power true) 0) |>.step (.chore _ _ _ _) |>.step (.chore _ _ _ _)
    |>.step (.proceed _ _ _) |>.step (.proceed _ _ _) |>.step (.proceed _ _ _)
  have settled := overtaken
    |>.step (.begin _ _ ⟨1000, 0⟩) |>.step (.proceed _ _ _) |>.step (.proceed _ _ _)
  have published (now : ClockReading) (on : Bool) :
      some (TickPoint.kept ⟨1000, 0⟩ true) ≠ some (.acknowledged now on) := by simp
  obtain ⟨-, hkeeps⟩ := power_topic_settles _ _ settled (by simp) published
  exact ⟨_, _, _, _, overtaken, settled, rfl, rfl, rfl, rfl, rfl, hkeeps rfl⟩

end Marquee
