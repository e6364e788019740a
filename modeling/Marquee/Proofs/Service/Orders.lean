import Marquee.Bus.Record
import Marquee.History
import Marquee.Link.Exchange
import Marquee.Panel.Line
import Marquee.Proofs.Service.Interplay

/-!
# The sign does as it was ordered

Orders reach the sign at any time, also between two sections of a tick. What the sign says of its
power state, its inversion and its message is settled by the orders alone, in whatever way the steps
of both sides follow one another (`Sign.AsOrdered`): the last order of each kind counts, and a
message is there until its time has come. A tick takes nothing back. All it can do is to drop a
message, and it does so only at a time at which the message is not to be seen any more.
-/

namespace Marquee

/-! ## What was ordered -/

namespace Incident

/-- The power state that was ordered. -/
def power? : Incident → Option Bool
  | .ordered (.power on) _ => some on
  | _ => none

/-- The inversion that was ordered. -/
def inversion? : Incident → Option Bool
  | .ordered (.inversion on) _ => some on
  | _ => none

/-- A message was ordered. -/
def IsMessage (incident : Incident) : Prop :=
  ∃ text atMs, incident = .ordered (.message text) atMs

/-- The power state that was ordered last; the panels are powered at first. -/
def lastPower (past : List Incident) : Bool := (past.filterMap power?).getLast?.getD true

/-- The inversion that was ordered last; the picture is not inverted at first. -/
def lastInversion (past : List Incident) : Bool := (past.filterMap inversion?).getLast?.getD false

/-- The last power order is the new one, or the one before it. -/
theorem lastPower_concat (past : List Incident) (incident : Incident) :
    lastPower (past ++ [incident]) = incident.power?.getD (lastPower past) := by
  rw [lastPower, List.filterMap_append]
  cases h : incident.power? <;> simp [h, lastPower]

/-- The last inversion order is the new one, or the one before it. -/
theorem lastInversion_concat (past : List Incident) (incident : Incident) :
    lastInversion (past ++ [incident]) = incident.inversion?.getD (lastInversion past) := by
  rw [lastInversion, List.filterMap_append]
  cases h : incident.inversion? <;> simp [h, lastInversion]

end Incident

/-! ## What a tick sees -/

namespace Sign

/-- A tick keeps the message unless its time has come. -/
theorem tick_message (nowMs : Nat) (tickS : Single) (s : Sign) :
    (s.tick nowMs tickS).2.message = s.message.filter fun held => nowMs < held.expiryMs := by
  have hscroll := congrArg Sign.message ((s.dropExpired nowMs).2.scroll_rest tickS)
  change ((s.dropExpired nowMs).2.scroll tickS).message = _
  rw [hscroll, dropExpired]
  cases h : s.message with
  | none => exact h
  | some held =>
    by_cases gone : held.expiryMs ≤ nowMs
    · simp [gone, Option.filter_some]
    · simp [gone, h, Option.filter_some, Nat.lt_of_not_le gone]

/-- A tick changes neither switch. -/
theorem tick_switches (nowMs : Nat) (tickS : Single) (s : Sign) :
    (s.tick nowMs tickS).2.powered = s.powered ∧ (s.tick nowMs tickS).2.inverted = s.inverted := by
  rw [tick_rest]
  exact ⟨rfl, rfl⟩

/-- A message is visible until its end. -/
theorem visibleText_eq (nowMs : Nat) (s : Sign) :
    s.visibleText nowMs =
      (s.message.filter fun held => nowMs < held.expiryMs).map HeldMessage.text := by
  rw [visibleText]
  cases s.message with
  | none => rfl
  | some held =>
    by_cases there : nowMs < held.expiryMs <;> simp [there, Option.filter_some]

/-- A tick sees the text that is to be seen at its time. -/
theorem tick_view (nowMs : Nat) (tickS : Single) (s : Sign) :
    (s.tick nowMs tickS).1.view.message.map ScrolledText.text = s.visibleText nowMs := by
  change ((s.dropExpired nowMs).2.message.map _).map ScrolledText.text = _
  rw [Option.map_map, dropExpired, visibleText]
  cases h : s.message with
  | none => simp [h]
  | some held =>
    by_cases gone : held.expiryMs ≤ nowMs
    · simp [gone]
    · simp [gone, h, Nat.lt_of_not_le gone]

end Sign

/-! ## What an incident does -/

namespace Incident

variable {c : Timings} {s t : Sign} {incident : Incident}

/-- The power state is changed by power orders only. -/
theorem Turns.powered (h : incident.Turns c s t) :
    t.powered = incident.power?.getD s.powered := by
  cases incident with
  | ordered order nowMs =>
    obtain rfl := h
    cases order <;> rfl
  | looked nowMs view =>
    obtain ⟨-, rfl⟩ := h
    exact (s.tick_switches nowMs c.activePeriodS).1
  | quiet =>
    obtain ⟨confirmed, rfl⟩ := h
    rfl

/-- The inversion is changed by inversion orders only. -/
theorem Turns.inverted (h : incident.Turns c s t) :
    t.inverted = incident.inversion?.getD s.inverted := by
  cases incident with
  | ordered order nowMs =>
    obtain rfl := h
    cases order <;> rfl
  | looked nowMs view =>
    obtain ⟨-, rfl⟩ := h
    exact (s.tick_switches nowMs c.activePeriodS).2
  | quiet =>
    obtain ⟨confirmed, rfl⟩ := h
    rfl

/-- A message comes with an order, and goes when a tick looks at it after its end. -/
theorem Turns.message (h : incident.Turns c s t) :
    (∃ text atMs, incident = .ordered (.message text) atMs ∧
        ∃ held, t.message = some held ∧ held.text = Text.fit maxMessage text ∧
          held.expiryMs = Sign.expiryOf c atMs) ∨
      (¬ incident.IsMessage ∧ t.message = s.message) ∨
      ∃ lookMs view, incident = .looked lookMs view ∧
        t.message = s.message.filter fun held => lookMs < held.expiryMs := by
  cases incident with
  | ordered order nowMs =>
    obtain rfl := h
    cases order with
    | message text => exact .inl ⟨text, nowMs, rfl, _, rfl, rfl, rfl⟩
    | power on =>
      refine .inr (.inl ⟨?_, rfl⟩)
      rintro ⟨text, atMs, h⟩
      simp at h
    | inversion on =>
      refine .inr (.inl ⟨?_, rfl⟩)
      rintro ⟨text, atMs, h⟩
      simp at h
  | looked nowMs view =>
    obtain ⟨-, rfl⟩ := h
    exact .inr (.inr ⟨nowMs, view, rfl, s.tick_message nowMs c.activePeriodS⟩)
  | quiet =>
    obtain ⟨confirmed, rfl⟩ := h
    refine .inr (.inl ⟨?_, rfl⟩)
    rintro ⟨text, atMs, h⟩
    cases h

/-- Without a new message the visible text stays, or a tick that came after its end has dropped
it. -/
theorem Turns.visibleText (h : incident.Turns c s t) (hquiet : ¬ incident.IsMessage) (nowMs : Nat) :
    t.visibleText nowMs = s.visibleText nowMs ∨
      t.visibleText nowMs = none ∧
        ∃ lookMs view, incident = .looked lookMs view ∧ nowMs < lookMs := by
  rw [t.visibleText_eq, s.visibleText_eq]
  rcases h.message with ⟨text, atMs, rfl, -⟩ | ⟨-, hsame⟩ | ⟨lookMs, view, rfl, hlook⟩
  · exact absurd ⟨text, atMs, rfl⟩ hquiet
  · rw [hsame]
    exact .inl rfl
  · rw [hlook]
    cases s.message with
    | none => exact .inl rfl
    | some held =>
      by_cases there : lookMs < held.expiryMs
      · simp [there, Option.filter_some]
      · by_cases later : nowMs < lookMs
        · exact .inr ⟨by simp [there, Option.filter_some], lookMs, view, rfl, later⟩
        · have gone : ¬ nowMs < held.expiryMs := by omega
          simp [there, gone, Option.filter_some]

end Incident

/-! ## What the sign remembers -/

namespace Sign

/-- The sign has the message that came at a time, or a tick among the later incidents has met it
after its end. -/
def Remembers (c : Timings) (text : String) (atMs : Nat) (later : List Incident) (s : Sign) :
    Prop :=
  (∃ held, s.message = some held ∧ held.text = Text.fit maxMessage text ∧
      held.expiryMs = expiryOf c atMs) ∨
    s.message = none ∧
      ∃ lookMs view, .looked lookMs view ∈ later ∧ expiryOf c atMs ≤ lookMs

/-- The sign is as the orders among the incidents have made it. -/
structure AsOrdered (c : Timings) (past : List Incident) (s : Sign) : Prop where
  /-- the power state is the last one ordered -/
  powered : s.powered = Incident.lastPower past
  /-- the inversion is the last one ordered -/
  inverted : s.inverted = Incident.lastInversion past
  /-- without an order there is no message -/
  silent : (∀ incident ∈ past, ¬ incident.IsMessage) → s.message = none
  /-- the last message is the one that is remembered -/
  remembers : ∀ before text atMs later,
    past = before ++ .ordered (.message text) atMs :: later →
      (∀ incident ∈ later, ¬ incident.IsMessage) → s.Remembers c text atMs later

variable {c : Timings} {text : String} {atMs : Nat} {later past : List Incident} {s t : Sign}
  {incident : Incident}

/-- What leaves the message alone leaves it remembered. -/
theorem Remembers.same (h : s.Remembers c text atMs later) (hsame : t.message = s.message) :
    t.Remembers c text atMs (later ++ [incident]) := by
  rcases h with ⟨held, hheld, hrest⟩ | ⟨hnone, lookMs, view, hmem, hend⟩
  · exact .inl ⟨held, hsame.trans hheld, hrest⟩
  · exact .inr ⟨hsame.trans hnone, lookMs, view, List.mem_append_left _ hmem, hend⟩

/-- A look drops the message only once its end has come. -/
theorem Remembers.look (h : s.Remembers c text atMs later) {lookMs : Nat} {view : SignView}
    (hlook : t.message = s.message.filter fun held => lookMs < held.expiryMs) :
    t.Remembers c text atMs (later ++ [.looked lookMs view]) := by
  rcases h with ⟨held, hheld, htext, hend⟩ | ⟨hnone, hgone⟩
  · rw [hheld] at hlook
    by_cases there : lookMs < held.expiryMs
    · exact .inl ⟨held, by simp [hlook, there, Option.filter_some], htext, hend⟩
    · refine .inr ⟨by simp [hlook, there, Option.filter_some], lookMs, view, ?_, ?_⟩
      · exact List.mem_append_right _ (List.mem_singleton_self _)
      · omega
  · obtain ⟨before, view', hmem, hbefore⟩ := hgone
    exact .inr ⟨by simp [hlook, hnone], before, view', List.mem_append_left _ hmem, hbefore⟩

/-- At a time that no tick has gone past, what is to be seen is the message until its end. -/
theorem Remembers.visibleText (h : s.Remembers c text atMs later) {nowMs : Nat}
    (hlooks : ∀ lookMs view, .looked lookMs view ∈ later → lookMs ≤ nowMs) :
    s.visibleText nowMs =
      if nowMs < expiryOf c atMs then some (Text.fit maxMessage text) else none := by
  rcases h with ⟨held, hheld, htext, hend⟩ | ⟨hnone, lookMs, view, hmem, hend⟩
  · rw [Sign.visibleText, hheld, ← htext, ← hend]
  · have gone : ¬ nowMs < expiryOf c atMs := by
      have := hlooks lookMs view hmem
      omega
    rw [Sign.visibleText, hnone, if_neg gone]

/-- A new sign is as it was before any order. -/
theorem asOrdered_new (c : Timings) : new.AsOrdered c [] where
  powered := rfl
  inverted := rfl
  silent _ := rfl
  remembers before text atMs later h := by simp at h

/-- One incident keeps the sign as it was ordered. -/
theorem AsOrdered.turns (h : s.AsOrdered c past) (hturns : incident.Turns c s t) :
    t.AsOrdered c (past ++ [incident]) where
  powered := by rw [hturns.powered, Incident.lastPower_concat, h.powered]
  inverted := by rw [hturns.inverted, Incident.lastInversion_concat, h.inverted]
  silent hnone := by
    obtain ⟨hpast, hlast⟩ := forall_mem_concat.mp hnone
    have hs := h.silent hpast
    rcases hturns.message with ⟨text, atMs, rfl, -⟩ | ⟨-, hsame⟩ | ⟨lookMs, view, -, hlook⟩
    · exact absurd ⟨text, atMs, rfl⟩ hlast
    · exact hsame.trans hs
    · rw [hlook, hs]
      rfl
  remembers before text atMs later hpast hlater := by
    -- The last message is the order itself, or it came before and the incident is another one.
    rcases split_concat hpast with ⟨-, hlast, rfl⟩ | ⟨init, rfl, hinit⟩
    · rcases hturns.message with ⟨text', atMs', hmsg, hheld⟩ | ⟨hother, -⟩ | ⟨_, _, hlook, -⟩
      · rw [hmsg] at hlast
        cases hlast
        exact .inl hheld
      · exact absurd ⟨text, atMs, hlast.symm⟩ hother
      · rw [hlook] at hlast
        cases hlast
    · obtain ⟨hinitOther, hother⟩ := forall_mem_concat.mp hlater
      have hs := h.remembers before text atMs init hinit hinitOther
      rcases hturns.message with ⟨text', atMs', hmsg, -⟩ | ⟨-, hsame⟩ | ⟨lookMs, view, rfl, hlook⟩
      · exact absurd ⟨text', atMs', hmsg⟩ hother
      · exact hs.same hsame
      · exact hs.look hlook

end Sign

namespace Interplay

variable {ℓ β : Type} [Link ℓ] [Bus β]

/-- After any run the sign is as ordered, and the timings are what they were. -/
theorem Run.asOrdered {timings : Timings} {bus : β} {panels : Trio ℓ} {past : List Incident}
    {p : Interplay ℓ β} (run : Run (start timings bus panels) past p) :
    p.side.hub.timings = timings ∧ p.sign.AsOrdered timings past := by
  induction run with
  | refl => exact ⟨rfl, Sign.asOrdered_new timings⟩
  | step _ step ih =>
    obtain ⟨htimings, hsign⟩ := ih
    obtain ⟨hsame, hturns⟩ := step.turns
    rw [htimings] at hsame hturns
    exact ⟨hsame, hsign.turns hturns⟩

end Interplay

/-! ## The sign follows its orders -/

/-- However the steps of both sides follow one another, at every point the switches are as they were
ordered last, and the text to be seen is the one ordered last until its time has come, as far as no
tick has looked further ahead since. What a tick sees is the text of its own time. No step but an
order changes a switch or what is to be seen from the time of its look on. -/
theorem sign_as_ordered {ℓ β : Type} [Link ℓ] [Bus β] (timings : Timings) (bus : β)
    (panels : Trio ℓ) {past : List Incident} {p : Interplay ℓ β}
    (run : Interplay.Run (.start timings bus panels) past p) :
    p.sign.powered = Incident.lastPower past ∧
    p.sign.inverted = Incident.lastInversion past ∧
    ((∀ incident ∈ past, ¬ incident.IsMessage) → ∀ nowMs, p.sign.visibleText nowMs = none) ∧
    (∀ before text atMs later, past = before ++ .ordered (.message text) atMs :: later →
      (∀ incident ∈ later, ¬ incident.IsMessage) →
      ∀ nowMs, (∀ lookMs view, .looked lookMs view ∈ later → lookMs ≤ nowMs) →
        p.sign.visibleText nowMs =
          if nowMs < min (atMs + timings.lifetimeMs) lastMoment then
            some (Text.fit maxMessage text)
          else none) ∧
    ∀ incident q, Interplay.Step p incident q →
      (∀ nowMs view, incident = .looked nowMs view →
        view.message.map ScrolledText.text = p.sign.visibleText nowMs) ∧
      ((∀ order atMs, incident ≠ .ordered order atMs) →
        q.sign.powered = p.sign.powered ∧ q.sign.inverted = p.sign.inverted ∧
        ∀ nowMs, q.sign.visibleText nowMs = p.sign.visibleText nowMs ∨
          q.sign.visibleText nowMs = none ∧
            ∃ lookMs view, incident = .looked lookMs view ∧ nowMs < lookMs) := by
  obtain ⟨-, hordered⟩ := run.asOrdered
  refine ⟨hordered.powered, hordered.inverted, ?_, ?_, ?_⟩
  · intro hnone nowMs
    rw [Sign.visibleText, hordered.silent hnone]
  · intro before text atMs later hpast hlater nowMs hlooks
    exact (hordered.remembers before text atMs later hpast hlater).visibleText hlooks
  · intro incident q step
    obtain ⟨-, hturns⟩ := step.turns
    constructor
    · rintro nowMs view rfl
      obtain ⟨rfl, -⟩ := hturns
      exact p.sign.tick_view nowMs _
    · intro hother
      have hquiet : ¬ incident.IsMessage := by
        rintro ⟨text, atMs, h⟩
        exact hother _ _ h
      have hpower : incident.power? = none ∧ incident.inversion? = none := by
        cases incident with
        | ordered order atMs => exact absurd rfl (hother order atMs)
        | looked nowMs view => exact ⟨rfl, rfl⟩
        | quiet => exact ⟨rfl, rfl⟩
      refine ⟨?_, ?_, hturns.visibleText hquiet⟩
      · rw [hturns.powered, hpower.1]
        rfl
      · rw [hturns.inverted, hpower.2]
        rfl

/-- Power is ordered off and a message comes after a tick has read that the panels are powered. -/
theorem sign_as_ordered_amid_tick :
    let start : Interplay (ChannelLink PanelLine) BusRecord :=
      .start .default .new ⟨⟨.new 0⟩, ⟨.new 1⟩, ⟨.new 2⟩⟩
    ∃ p, Interplay.Run start [.quiet, .ordered (.power false) 400, .quiet, .quiet, .quiet,
        .ordered (.message "HELLO") 500] p ∧
      p.sign.powered = false ∧ p.sign.visibleText 30499 = some "HELLO" ∧
      p.sign.visibleText 30500 = none := by
  intro start
  have run := (((((Interplay.Run.refl (p := start)).step (.begin start.side [] ⟨1000, 0⟩)).step
    (.obey _ _ (.power false) 400)).step (.chore _ _ _ _)).step (.chore _ _ _ _)).step
      (.proceed _ _ _) |>.step (.obey _ _ (.message "HELLO") 500)
  obtain ⟨hpowered, -, -, hseen, -⟩ := sign_as_ordered _ _ _ run
  have seen := hseen [.quiet, .ordered (.power false) 400, .quiet, .quiet, .quiet] "HELLO" 500 []
    rfl (by simp)
  refine ⟨_, run, hpowered, ?_, ?_⟩
  · rw [seen 30499 (by simp)]
    decide
  · rw [seen 30500 (by simp)]
    decide

end Marquee
