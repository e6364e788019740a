import Marquee.Proofs.Service.PowerTopic
import Marquee.Proofs.Sign.Order
import Marquee.Service.ControlSide

/-!
# What comes of a bus message

A bus message is an order or nothing (`Order.of?`). What is nothing leaves the sign and the bus as
they are. An order to a switch sets that switch and is followed by one echo on the switch's own
topic; a message order is not echoed. So a topic of a switch shows the state of the switch from the
first order on (`hearAll_tells`), whatever else comes in.
-/

namespace Marquee

/-! ## Switches -/

/-- The switches of the sign. -/
inductive Switch
  /-- the power state -/
  | power
  /-- the inversion -/
  | inversion
deriving DecidableEq

namespace Switch

/-- The order that sets the switch. -/
def order : Switch → Bool → Order
  | .power => .power
  | .inversion => .inversion

/-- What such an order changes. -/
def change : Switch → Bool → SignChange
  | .power => .power
  | .inversion => .inversion

/-- The topic of its orders. -/
def orderTopic : Switch → String
  | .power => Topic.powerOrder
  | .inversion => Topic.inversionOrder

/-- The topic of its echo. -/
def echoTopic : Switch → String
  | .power => Topic.power
  | .inversion => Topic.inversion

/-- Its state. -/
def state : Switch → Sign → Bool
  | .power => Sign.powered
  | .inversion => Sign.inverted

/-- The sign with the switch set. -/
def set : Switch → Bool → Sign → Sign
  | .power => Sign.withPower
  | .inversion => Sign.withInversion

@[simp] theorem order_topic (switch : Switch) (on : Bool) :
    (switch.order on).topic = switch.orderTopic := by
  cases switch <;> rfl

@[simp] theorem order_payload (switch : Switch) (on : Bool) :
    (switch.order on).payload = Text.utf8 (switchPayload on) := by
  cases switch <;> rfl

@[simp] theorem state_set (switch : Switch) (on : Bool) (s : Sign) :
    switch.state (switch.set on s) = on := by
  cases switch <;> rfl

/-- Setting one switch leaves the other. -/
theorem state_set_of_ne {switch other : Switch} (h : other ≠ switch) (on : Bool) (s : Sign) :
    switch.state (other.set on s) = switch.state s := by
  cases switch <;> cases other <;> first | rfl | exact absurd rfl h

/-- Two switches have two topics for their echoes. -/
theorem echoTopic_ne {switch other : Switch} (h : other ≠ switch) :
    other.echoTopic ≠ switch.echoTopic := by
  cases switch <;> cases other <;> first | exact absurd rfl h | decide

end Switch

/-- Every order is one to a switch, or brings a message. -/
theorem Order.cases_switch (order : Order) :
    (∃ switch on, order = Switch.order switch on) ∨ ∃ text, order = .message text := by
  cases order with
  | power on => exact .inl ⟨.power, on, rfl⟩
  | inversion on => exact .inl ⟨.inversion, on, rfl⟩
  | message text => exact .inr ⟨text, rfl⟩

/-! ## One message -/

/-- The bus message brings this order. -/
def BusMessage.Brings (m : BusMessage) (order : Order) : Prop :=
  m.topic = order.topic ∧ m.payload = order.payload

/-- What is held once a message order is carried out. -/
def HeldMessage.ordered (c : Timings) (text : String) (nowMs : Nat) : HeldMessage where
  text := Text.fit maxMessage text
  expiryMs := Sign.expiryOf c nowMs
  width := messageSpan (Text.fit maxMessage text)
  interval := c.secondsPerColumn (messageSpan (Text.fit maxMessage text))

namespace Hub

variable {β : Type} [Bus β]

/-- The hub hears a message. -/
def heard (m : BusMessage) (hub : Hub β) : Option SignChange × Hub β :=
  hub.hear m.now m.topic m.payload

variable {m : BusMessage} (hub : Hub β)

/-- What is no order is remarked on, and that is all. -/
theorem heard_of_not_brings (h : ∀ order, ¬ m.Brings order) :
    (hub.heard m).1 = none ∧ (hub.heard m).2.sign = hub.sign ∧
      (hub.heard m).2.bus = hub.bus := by
  rw [heard, hear]
  cases hread : Order.of? m.topic m.payload with
  | error e => exact ⟨rfl, rfl, rfl⟩
  | ok order => exact absurd (Order.of?_eq_ok_iff.mp hread) (h order)

/-- An order is carried out and told about. -/
theorem heard_of_brings {order : Order} (h : m.Brings order) :
    hub.heard m = (some (hub.applyOrder order m.now.sinceEpochMs).1,
      (hub.applyOrder order m.now.sinceEpochMs).2.tell order
        (hub.applyOrder order m.now.sinceEpochMs).1) := by
  rw [heard, hear, Order.of?_eq_ok_iff.mpr h]

/-- An order to a switch sets the switch and is echoed once. -/
theorem heard_switch {switch : Switch} {on : Bool} (h : m.Brings (switch.order on)) :
    (hub.heard m).1 = some (switch.change on) ∧
      (hub.heard m).2.sign = switch.set on hub.sign ∧
      (hub.heard m).2.bus =
        (Bus.publish switch.echoTopic (switchPayload on) true hub.bus).2 := by
  rw [hub.heard_of_brings h]
  cases switch with
  | power => exact ⟨rfl, (Chore.perform_rest (.echo _ _) _).1, request_bus ..⟩
  | inversion => exact ⟨rfl, (Chore.perform_rest (.echo _ _) _).1, request_bus ..⟩

/-- Only remarks are made on a new message. -/
theorem tell_message (text : String) (truncated : Bool) :
    (hub.tell (.message text) (.message truncated)).sign = hub.sign ∧
      (hub.tell (.message text) (.message truncated)).bus = hub.bus := by
  cases truncated <;> exact ⟨rfl, rfl⟩

/-- A message order replaces the message, and nothing is published. -/
theorem heard_message {text : String} (h : m.Brings (.message text)) :
    (hub.heard m).1 = some (.message (decide (maxMessage < Text.byteCount text))) ∧
      (hub.heard m).2.sign =
        { hub.sign with
          message := some (.ordered hub.timings text m.now.sinceEpochMs), scrolledOut := .zero } ∧
      (hub.heard m).2.bus = hub.bus := by
  rw [hub.heard_of_brings h]
  obtain ⟨hsign, hbus⟩ := (hub.applyOrder (.message text) m.now.sinceEpochMs).2.tell_message
    text (decide (maxMessage < Text.byteCount text))
  exact ⟨rfl, hsign, hbus⟩

/-- A message sets one switch, and that is echoed, or it leaves the switches and the bus alone. -/
theorem heard_cases (m : BusMessage) :
    (∃ switch on, m.Brings (Switch.order switch on) ∧
      (hub.heard m).2.sign = switch.set on hub.sign ∧
      (hub.heard m).2.bus =
        (Bus.publish switch.echoTopic (switchPayload on) true hub.bus).2) ∨
    (∀ switch : Switch, switch.state (hub.heard m).2.sign = switch.state hub.sign) ∧
      (hub.heard m).2.bus = hub.bus := by
  by_cases hbrings : ∃ order, m.Brings order
  · obtain ⟨order, hbrings⟩ := hbrings
    obtain ⟨switch, on, rfl⟩ | ⟨text, rfl⟩ := order.cases_switch
    · obtain ⟨-, hset⟩ := hub.heard_switch hbrings
      exact .inl ⟨switch, on, hbrings, hset⟩
    · obtain ⟨-, hsign, hbus⟩ := hub.heard_message hbrings
      refine .inr ⟨?_, hbus⟩
      intro switch
      rw [hsign]
      cases switch <;> rfl
  · obtain ⟨-, hsign, hbus⟩ := hub.heard_of_not_brings (not_exists.mp hbrings)
    refine .inr ⟨?_, hbus⟩
    intro switch
    rw [hsign]

/-- A message is accepted exactly if it is an order. -/
theorem heard_isSome_iff : (hub.heard m).1.isSome ↔ ∃ order, m.Brings order := by
  constructor
  · intro hsome
    by_contra hnot
    obtain ⟨hnone, -⟩ := hub.heard_of_not_brings (not_exists.mp hnot)
    rw [hnone] at hsome
    cases hsome
  · rintro ⟨order, hbrings⟩
    rw [hub.heard_of_brings hbrings]
    rfl

end Hub

/-- A bus message brings an order if it is on or off for a switch, or a text on the message topic.
-/
theorem BusMessage.brings_iff {m : BusMessage} :
    (∃ order, m.Brings order) ↔
      (m.topic = Topic.powerOrder ∨ m.topic = Topic.inversionOrder) ∧
          (m.payload = Text.utf8 "ON" ∨ m.payload = Text.utf8 "OFF") ∨
        m.topic = Topic.message ∧ ∃ text, m.payload = Text.utf8 text := by
  constructor
  · rintro ⟨order, htopic, hpayload⟩
    obtain ⟨switch, on, rfl⟩ | ⟨text, rfl⟩ := order.cases_switch
    · left
      rw [Switch.order_topic] at htopic
      rw [Switch.order_payload] at hpayload
      constructor
      · cases switch with
        | power => exact .inl htopic
        | inversion => exact .inr htopic
      · cases on with
        | true => exact .inl hpayload
        | false => exact .inr hpayload
    · exact .inr ⟨htopic, text, hpayload⟩
  · rintro (⟨htopic | htopic, hpayload | hpayload⟩ | ⟨htopic, text, hpayload⟩)
    · exact ⟨.power true, htopic, hpayload⟩
    · exact ⟨.power false, htopic, hpayload⟩
    · exact ⟨.inversion true, htopic, hpayload⟩
    · exact ⟨.inversion false, htopic, hpayload⟩
    · exact ⟨.message text, htopic, hpayload⟩

/-! ## One message after another, with a bus that takes requests -/

theorem BusRecord.publish_of_accepting {bus : BusRecord} (h : bus.failing = false)
    (topic payload : String) (retain : Bool) :
    (Bus.publish topic payload retain bus).2 = bus.add (.publish topic payload retain) :=
  congrArg Prod.snd (take_of_accepting _ h)

namespace Hub

/-- The topic of a switch shows the state of the switch. -/
def Tells (switch : Switch) (hub : Hub BusRecord) : Prop :=
  hub.bus.lastPayload switch.echoTopic = some (switchPayload (switch.state hub.sign))

/-- Neither a switch nor its topic has changed. -/
def Same (switch : Switch) (before after : Hub BusRecord) : Prop :=
  switch.state after.sign = switch.state before.sign ∧
    after.bus.lastPayload switch.echoTopic = before.bus.lastPayload switch.echoTopic

/-- What leaves a switch and its topic alone leaves them in agreement. -/
theorem Tells.same {switch : Switch} {before after : Hub BusRecord} (h : before.Tells switch)
    (hsame : before.Same switch after) : after.Tells switch := by
  rw [Tells, hsame.1, hsame.2]
  exact h

theorem Same.trans {switch : Switch} {a b c : Hub BusRecord} (h : a.Same switch b)
    (k : b.Same switch c) : a.Same switch c :=
  ⟨k.1.trans h.1, k.2.trans h.2⟩

variable {hub : Hub BusRecord} {m : BusMessage} {messages : List BusMessage} {switch : Switch}

/-- An order to a switch is told on its topic. -/
theorem heard_tells (h : hub.bus.failing = false) {on : Bool}
    (hbrings : m.Brings (switch.order on)) : (hub.heard m).2.Tells switch := by
  obtain ⟨-, hsign, hbus⟩ := hub.heard_switch hbrings
  rw [Tells, hbus, BusRecord.publish_of_accepting h, hsign, Switch.state_set,
    BusRecord.lastPayload_add_publish, if_pos rfl]

/-- What is no order to a switch leaves it and its topic alone. -/
theorem heard_same (h : hub.bus.failing = false)
    (hnot : ∀ on, ¬ m.Brings (switch.order on)) : hub.Same switch (hub.heard m).2 := by
  obtain ⟨other, on, hbrings, hsign, hbus⟩ | ⟨hstates, hbus⟩ := hub.heard_cases m
  · have hother : other ≠ switch := by
      rintro rfl
      exact hnot on hbrings
    constructor
    · rw [hsign, Switch.state_set_of_ne hother]
    · rw [hbus, BusRecord.publish_of_accepting h, BusRecord.lastPayload_add_publish,
        if_neg (Switch.echoTopic_ne hother)]
  · exact ⟨hstates switch, by rw [hbus]⟩

/-- Hearing a message does not make the bus fail. -/
theorem heard_accepting (h : hub.bus.failing = false) :
    (hub.heard m).2.bus.failing = false := by
  obtain ⟨switch, on, -, -, hbus⟩ | ⟨-, hbus⟩ := hub.heard_cases m
  · rw [hbus, BusRecord.publish_of_accepting h]
    exact h
  · rw [hbus, h]

/-- As long as no order to a switch comes in, it and its topic stay as they are. -/
theorem hearAll_same (h : hub.bus.failing = false)
    (hnot : ∀ m ∈ messages, ∀ on, ¬ m.Brings (switch.order on)) :
    hub.Same switch (hub.hearAll messages).2 := by
  induction messages generalizing hub with
  | nil => exact ⟨rfl, rfl⟩
  | cons m rest ih =>
    have hfirst : hub.Same switch (hub.heard m).2 := heard_same h (hnot m List.mem_cons_self)
    apply hfirst.trans
    apply ih (heard_accepting h)
    intro m hmem
    exact hnot m (List.mem_cons_of_mem _ hmem)

/-- From the first order to a switch on, its topic shows its state. -/
theorem hearAll_tells (h : hub.bus.failing = false)
    (hordered : hub.Tells switch ∨ ∃ m ∈ messages, ∃ on, m.Brings (switch.order on)) :
    (hub.hearAll messages).2.Tells switch := by
  induction messages generalizing hub with
  | nil =>
    obtain htells | ⟨m, hmem, -⟩ := hordered
    · exact htells
    · cases hmem
  | cons m rest ih =>
    apply ih (heard_accepting h)
    by_cases hfirst : ∃ on, m.Brings (switch.order on)
    · obtain ⟨on, hbrings⟩ := hfirst
      exact .inl (heard_tells h hbrings)
    · obtain htells | ⟨m', hmem, hbrings⟩ := hordered
      · exact .inl (htells.same (heard_same h (not_exists.mp hfirst)))
      · obtain rfl | hmem := List.mem_cons.mp hmem
        · exact absurd hbrings hfirst
        · exact .inr ⟨m', hmem, hbrings⟩

end Hub

/-! ## Exactly what is heard -/

/-- A bus message that comes after any others is accepted exactly if it is on the topic of a switch
and its payload is on or off, or is on the message topic and is a text. One that is turned down
changes neither the sign nor the bus. One for a switch sets nothing but the switch, and its new
state is published once, to be kept, on the topic of its echo, whether or not the bus takes that.
One with a text replaces the message, and nothing is published.

With a bus that takes all requests, a topic of an echo shows the state of the switch after every
series of messages, if it did before or one of them was for the switch; otherwise nothing has
changed there. -/
theorem heard_exactly :
    (∀ {β : Type} [Bus β] (hub : Hub β) (earlier : List BusMessage) (m : BusMessage),
      let before := (hub.hearAll earlier).2
      let answer := (before.hear m.now m.topic m.payload).1
      let after := (before.hear m.now m.topic m.payload).2
      (answer.isSome ↔
        (m.topic = Topic.powerOrder ∨ m.topic = Topic.inversionOrder) ∧
            (m.payload = Text.utf8 "ON" ∨ m.payload = Text.utf8 "OFF") ∨
          m.topic = Topic.message ∧ ∃ text, m.payload = Text.utf8 text) ∧
      (answer = none → after.sign = before.sign ∧ after.bus = before.bus) ∧
      (∀ (switch : Switch) (on : Bool), m.topic = switch.orderTopic →
        m.payload = Text.utf8 (switchPayload on) →
        answer = some (switch.change on) ∧ after.sign = switch.set on before.sign ∧
          after.bus = (Bus.publish switch.echoTopic (switchPayload (switch.state after.sign)) true
            before.bus).2) ∧
      (∀ text, m.topic = Topic.message → m.payload = Text.utf8 text →
        answer = some (.message (decide (maxMessage < Text.byteCount text))) ∧
          after.sign = { before.sign with
            message := some (.ordered before.timings text m.now.sinceEpochMs)
            scrolledOut := .zero } ∧
          after.bus = before.bus)) ∧
    ∀ (hub : Hub BusRecord) (messages : List BusMessage) (switch : Switch),
      hub.bus.failing = false →
      let after := (hub.hearAll messages).2
      let shown (hub : Hub BusRecord) := hub.bus.lastPayload switch.echoTopic
      let ordered := ∃ m ∈ messages, m.topic = switch.orderTopic ∧
        ∃ on, m.payload = Text.utf8 (switchPayload on)
      (ordered ∨ shown hub = some (switchPayload (switch.state hub.sign)) →
        shown after = some (switchPayload (switch.state after.sign))) ∧
      (¬ ordered → shown after = shown hub ∧ switch.state after.sign = switch.state hub.sign) := by
  have brings {m : BusMessage} {switch : Switch} {on : Bool} :
      m.Brings (switch.order on) ↔
        m.topic = switch.orderTopic ∧ m.payload = Text.utf8 (switchPayload on) := by
    rw [BusMessage.Brings, Switch.order_topic, Switch.order_payload]
  constructor
  · -- One message: which order it brings, if any, decides everything.
    intro β _ hub earlier m before answer after
    refine ⟨before.heard_isSome_iff.trans BusMessage.brings_iff, ?_, ?_, ?_⟩
    · intro hnone
      have hnot : ¬ ∃ order, m.Brings order := by
        rw [← before.heard_isSome_iff]
        intro hsome
        exact Option.isSome_iff_ne_none.mp hsome hnone
      exact (before.heard_of_not_brings (not_exists.mp hnot)).2
    · intro switch on htopic hpayload
      obtain ⟨hanswer, hsign, hbus⟩ := before.heard_switch (brings.mpr ⟨htopic, hpayload⟩)
      have hstate : switch.state after.sign = on := by
        rw [← switch.state_set on before.sign]
        exact congrArg switch.state hsign
      rw [hstate]
      exact ⟨hanswer, hsign, hbus⟩
    · intro text htopic hpayload
      exact before.heard_message ⟨htopic, hpayload⟩
  · -- A whole series, on a bus that takes all requests.
    intro hub messages switch haccepting after shown ordered
    have hordered : ordered ↔ ∃ m ∈ messages, ∃ on, m.Brings (switch.order on) := by
      simp only [ordered, brings, exists_and_left]
    constructor
    · intro hbefore
      apply Hub.hearAll_tells haccepting
      obtain h | h := hbefore
      · exact .inr (hordered.mp h)
      · exact .inl h
    · intro hnot
      have hsame : hub.Same switch after := Hub.hearAll_same haccepting fun m hmem on hbrings =>
        hnot (hordered.mpr ⟨m, hmem, on, hbrings⟩)
      exact ⟨hsame.2, hsame.1⟩

end Marquee
