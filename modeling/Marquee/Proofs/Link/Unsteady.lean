import Marquee.Link.Unsteady
import Marquee.Proofs.Link.Requests

/-!
# What reaches a panel over an unsteady line

Whatever an unsteady line does to a series of requests, what reaches the panel is the first few of
their frames, in order and each once; if the series succeeds, it is all of them
(`exchangeAll_moved`), and the same goes for the requests of a call (`call_moved`). The panel
executes what reaches it, and shows nothing that it does not show after some of these frames
(`Moved`). Whether it answers makes no difference to that (`Firmware.Like`).
-/

namespace Marquee

namespace Firmware

/-- The panel after the frames, executed in order. -/
def handle (p : Firmware) (frames : List Frame) : Firmware :=
  frames.foldl (fun p f => (p.answer f).2) p

/-- The same panel, but perhaps for whether it answers. -/
def Like (p q : Firmware) : Prop := ∃ on, p = { q with responsive := on }

namespace Like

variable {p q r : Firmware}

theorem refl (p : Firmware) : p.Like p := ⟨p.responsive, rfl⟩

theorem trans (h₁ : p.Like q) (h₂ : q.Like r) : p.Like r := by
  obtain ⟨on, rfl⟩ := h₁
  obtain ⟨_, rfl⟩ := h₂
  exact ⟨on, rfl⟩

theorem front (h : p.Like q) : p.front = q.front := by
  obtain ⟨_, rfl⟩ := h
  rfl

theorem flipCount (h : p.Like q) : p.flipCount = q.flipCount := by
  obtain ⟨_, rfl⟩ := h
  rfl

/-- A panel does its work whether it answers or not. -/
theorem answer (h : p.Like q) (f : Frame) : (p.answer f).2.Like (q.answer f).2 := by
  obtain ⟨on, rfl⟩ := h
  rw [Firmware.answer, Firmware.answer]
  rcases Command.ofFrame? f with e | c
  · exact ⟨on, rfl⟩
  · cases c with
    | bitmap bytes | firstHalf bytes | secondHalf bytes =>
      simp only [execute]
      rcases Bytes.ofList? _ bytes with _ | block
      · exact ⟨on, rfl⟩
      · exact ⟨on, rfl⟩
    | _ => exact ⟨on, rfl⟩

theorem handle (h : p.Like q) (frames : List Frame) : (p.handle frames).Like (q.handle frames) := by
  induction frames generalizing p q with
  | nil => exact h
  | cons f rest ih => exact ih (h.answer f)

end Like

theorem handle_append (p : Firmware) (frames more : List Frame) :
    p.handle (frames ++ more) = (p.handle frames).handle more := List.foldl_append

end Firmware

namespace UnsteadyLine

/-- Some frames have reached the panel and were executed. -/
structure Moved (t : UnsteadyLine) (frames : List Frame) (t' : UnsteadyLine) : Prop where
  /-- the panel waits for an opcode -/
  idle : t'.line.reader = .idle
  /-- these are the frames -/
  delivered : t'.delivered = t.delivered ++ frames
  /-- the panel has executed them -/
  panel : t'.line.panel.Like (t.line.panel.handle frames)
  /-- nothing was shown that is not shown after some of them -/
  shown : ∀ bitmap ∈ t'.shown, bitmap ∈ t.shown ∨
    ∃ first, first <+: frames ∧ bitmap = (t.line.panel.handle first).front

variable {t t₁ t₂ : UnsteadyLine} {frames more : List Frame}

theorem Moved.refl (h : t.line.reader = .idle) : Moved t [] t :=
  ⟨h, (List.append_nil _).symm, .refl _, fun _ hmem => .inl hmem⟩

theorem Moved.trans (h₁ : Moved t frames t₁) (h₂ : Moved t₁ more t₂) :
    Moved t (frames ++ more) t₂ where
  idle := h₂.idle
  delivered := by rw [h₂.delivered, h₁.delivered, List.append_assoc]
  panel := by
    rw [Firmware.handle_append]
    exact h₂.panel.trans (h₁.panel.handle more)
  shown := by
    intro bitmap hmem
    rcases h₂.shown bitmap hmem with hmem | ⟨first, hfirst, rfl⟩
    · rcases h₁.shown bitmap hmem with hmem | ⟨first, hfirst, rfl⟩
      · exact .inl hmem
      · exact .inr ⟨first, hfirst.trans (List.prefix_append _ _), rfl⟩
    · refine .inr ⟨frames ++ first, (List.prefix_append_right_inj frames).mpr hfirst, ?_⟩
      rw [Firmware.handle_append]
      exact (h₁.panel.handle first).front

/-! ## Operations -/

/-- An operation is over, and some frames have reached the panel by it. -/
theorem moved_left {l : PanelLine} (hidle : l.reader = .idle)
    (hpanel : l.panel.Like (t.line.panel.handle frames)) : Moved t frames (t.left l frames) where
  idle := hidle
  delivered := rfl
  panel := hpanel
  shown := by
    intro bitmap hmem
    rcases List.mem_append.mp hmem with hmem | hmem
    · exact .inl hmem
    · rw [List.mem_singleton.mp hmem]
      exact .inr ⟨frames, List.prefix_refl frames, hpanel.front⟩

/-- The panel may have changed its mind on answering, and that is all. -/
theorem found_like (t : UnsteadyLine) : t.found.panel.Like t.line.panel := ⟨_, rfl⟩

/-- No frame reaches the panel by an operation that leaves reader and panel alone. -/
theorem through_moved {α : Type} {operation : Attempt PanelLine ChannelError α}
    (quiet : ∀ l, (operation l).2.reader = l.reader ∧ (operation l).2.panel = l.panel)
    (h : Moved t frames t₁) : Moved t frames (through operation [] t₁).2 := by
  have hnone : Moved t₁ [] (through operation [] t₁).2 := by
    unfold through
    split
    · exact moved_left h.idle t₁.found_like
    · obtain ⟨hreader, hpanel⟩ := quiet t₁.found
      refine moved_left (hreader.trans h.idle) ?_
      rw [hpanel]
      exact t₁.found_like
  rw [← List.append_nil frames]
  exact h.trans hnone

/-- A frame that is written reaches the panel, unless the write fails. -/
theorem write_moved (hidle : t.line.reader = .idle) (f : Frame) :
    (∃ e t', Channel.write f.encode t = (.error e, t') ∧ Moved t [] t') ∨
      ∃ t', Channel.write f.encode t = (.ok (), t') ∧ Moved t [f] t' := by
  have hwrite : Channel.write f.encode t =
      through (Channel.write f.encode) (t.line.reader.takeAll f.encode).1 t := rfl
  rw [hwrite, hidle, FrameReader.takeAll_encode]
  unfold through
  cases t.moment.fault with
  | some e => exact .inl ⟨e, _, rfl, moved_left hidle t.found_like⟩
  | none =>
    have hfound : t.found.reader = .idle := hidle
    rw [PanelLine.write_encode hfound f]
    exact .inr ⟨_, rfl, moved_left hfound (t.found_like.answer f)⟩

/-! ## Exchanges -/

/-- The frame of a request reaches the panel, unless the exchange fails. -/
theorem exchange_moved (hidle : t.line.reader = .idle) (r : Request) :
    ∃ outcome t' frames, Link.exchange r.opcode r.payload.toList (⟨t⟩ : UnsteadyLink) =
        (outcome, ⟨t'⟩) ∧ Moved t frames t' ∧
      (frames = [r.frame] ∨ frames = [] ∧ ∃ e, outcome = .error e) := by
  have hnew := r.new?_frame
  rcases write_moved hidle r.frame with ⟨e, t', hw, hmoved⟩ | ⟨t', hw, hmoved⟩
  · exact ⟨_, t', [], ChannelLink.exchange_of_write hnew hw, hmoved, .inr ⟨rfl, _, rfl⟩⟩
  · refine ⟨_, _, [r.frame], rfl, ?_, .inl rfl⟩
    refine ChannelLink.exchange_written (P := Moved t [r.frame]) ?_ ?_ ?_ hnew hw hmoved
    · exact fun s h => through_moved (fun _ => ⟨rfl, rfl⟩) h
    · intro n s h
      change Moved t [r.frame] (through (Channel.read n) [] s).2
      exact through_moved (fun _ => ⟨rfl, rfl⟩) h
    · exact fun s h => through_moved (fun _ => ⟨rfl, rfl⟩) h

/-- The first few frames of a series of requests reach the panel, and all if the series succeeds. -/
theorem exchangeAll_moved (hidle : t.line.reader = .idle) (requests : List Request) :
    ∃ result t' frames, Link.exchangeAll requests (⟨t⟩ : UnsteadyLink) = (result, ⟨t'⟩) ∧
      Moved t frames t' ∧ frames <+: requests.map Request.frame ∧
      (result = .ok () → frames = requests.map Request.frame) := by
  induction requests generalizing t with
  | nil => exact ⟨_, t, [], rfl, .refl hidle, List.prefix_refl [], fun _ => rfl⟩
  | cons r rest ih =>
    obtain ⟨outcome, t₁, frames, hexchange, hmoved, hframes⟩ := exchange_moved hidle r
    have hprefix : frames <+: (r :: rest).map Request.frame := by
      rcases hframes with rfl | ⟨rfl, -⟩
      · exact List.prefix_append [r.frame] _
      · exact List.nil_prefix
    cases outcome with
    | error e => exact ⟨_, t₁, frames, Attempt.bind_of_error hexchange, hmoved, hprefix, nofun⟩
    | ok answer =>
      obtain rfl : frames = [r.frame] := by
        rcases hframes with rfl | ⟨-, e, he⟩
        · rfl
        · cases he
      obtain ⟨result, t₂, more, hrest, hmoved', hmore, hall⟩ := ih hmoved.idle
      refine ⟨result, t₂, [r.frame] ++ more, (Attempt.bind_of_ok hexchange).trans hrest,
        hmoved.trans hmoved', (List.prefix_append_right_inj [r.frame]).mpr hmore, fun hok => ?_⟩
      rw [hall hok]
      rfl

/-! ## Calls -/

/-- The first few frames of a call reach the panel, and all if the call succeeds. -/
theorem call_moved (hidle : t.line.reader = .idle) (call : Call) :
    ∃ result t' frames, call.perform (⟨t⟩ : UnsteadyLink) = (result, ⟨t'⟩) ∧ Moved t frames t' ∧
      frames <+: call.frames ∧
      (result = .ok () → frames = call.frames ∧ ∃ requests, call.requests = .ok requests) := by
  cases hrequests : call.requests with
  | error e =>
    exact ⟨_, t, [], ChannelLink.perform_of_error hrequests _, .refl hidle, List.nil_prefix, nofun⟩
  | ok requests =>
    rw [Call.frames_of_ok hrequests]
    obtain ⟨result, t', frames, hall, hmoved, hprefix, hok⟩ := exchangeAll_moved hidle requests
    by_cases hask : call = .askIdentity
    · subst hask
      obtain rfl : [⟨.askId, .empty⟩] = requests := Except.ok.inj hrequests
      obtain ⟨hsnd, hfst⟩ := Call.perform_askIdentity_snd (⟨t⟩ : UnsteadyLink)
      rw [hall] at hsnd hfst
      exact ⟨_, t', frames, Prod.ext rfl hsnd, hmoved, hprefix,
        fun h => ⟨hok (hfst h), _, rfl⟩⟩
    · rw [Call.perform_eq_exchangeAll hrequests hask]
      exact ⟨result, t', frames, hall, hmoved, hprefix, fun h => ⟨hok h, requests, rfl⟩⟩

end UnsteadyLine

end Marquee
