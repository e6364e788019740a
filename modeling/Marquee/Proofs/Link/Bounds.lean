import Marquee.Link.Logged
import Marquee.Proofs.Link.Requests
import Marquee.Proofs.Link.Tapped
import Marquee.Proofs.Text.Utf8
import Marquee.Proofs.Wire.Language

/-!
# Calls and their bounds

The checks of a call stand at several places: lengths and coordinates are checked by the call, the
size of a payload when its frame is made. Together they turn away the calls with arguments out of
bounds (`Call.inBounds_of_requests`) and no others (`Call.exists_requests_of_inBounds`), and they
are all done before the channel is touched. From then on only the channel and the panel can fail,
and their errors carry the opcode of the request in progress (`ChannelLink.exchange_failsWith`). A
log on the channel tells how far a call has come: `Carried` is kept from one request to the next,
and `calls_checked` is what holds of every call on every channel.
-/

namespace Marquee

/-- The opcode of the command that failed. -/
def ExchangeError.opcode : ExchangeError → UInt8
  | .status opcode .. | .timeout opcode | .io opcode | .unexpectedResponse opcode _ => opcode

/-- The failure of a command with this opcode. -/
def LinkError.IsOf (opcode : UInt8) (e : LinkError) : Prop :=
  ∃ error : ExchangeError, e = .exchange error ∧ error.opcode = opcode

/-! ## Arguments in bounds -/

namespace Request

variable {opcode : Opcode} {bytes : List UInt8}

theorem fits_of_only? {requests : List Request} (h : only? opcode bytes = .ok requests) :
    bytes.length ≤ maxPayload := by
  refine Nat.not_lt.mp fun large => ?_
  rw [only?_of_lt large] at h
  cases h

theorem exists_only? (fits : bytes.length ≤ maxPayload) :
    ∃ requests, only? opcode bytes = .ok requests ∧ requests ≠ [] :=
  ⟨_, only?_of_le fits, List.cons_ne_nil _ _⟩

end Request

namespace Call

/-- The arguments are in bounds. -/
def InBounds : Call → Prop
  | .exchange _ payload => payload.length ≤ 255
  | .send command => command.Fits
  | .showText text x y => text.utf8ByteSize ≤ 120 ∧ FitsSignedByte x ∧ FitsSignedByte y
  | .showBitmap bytes | .showHalves bytes => bytes.length = 120
  | .passThrough bytes => bytes.length ≤ 255
  | .askIdentity | .storeId _ | .switchRelay _ | .flip => True

/-- The checks let no arguments out of bounds pass. -/
theorem inBounds_of_requests {call : Call} {requests : List Request}
    (h : call.requests = .ok requests) : call.InBounds := by
  cases call with
  | exchange opcode payload => exact Request.fits_of_only? h
  | send command => exact command.fits_iff.mpr (Request.fits_of_only? h)
  | showText text x y =>
    rw [Call.requests] at h
    split at h
    · cases h
    rename_i held
    split at h
    · rename_i hx
      split at h
      · rename_i hy
        exact ⟨Nat.not_lt.mp held, hx, hy⟩
      · cases h
    · cases h
  | showBitmap bytes | showHalves bytes =>
    rw [Call.requests] at h
    split at h
    · assumption
    · cases h
  | passThrough bytes => exact Request.fits_of_only? h
  | askIdentity | storeId id | switchRelay on | flip => trivial

/-- No check is in the way of arguments in bounds, and then something is asked for. -/
theorem exists_requests_of_inBounds {call : Call} (h : call.InBounds) :
    ∃ requests, call.requests = .ok requests ∧ requests ≠ [] := by
  cases call with
  | exchange opcode payload => exact Request.exists_only? h
  | send command => exact Request.exists_only? (command.fits_iff.mp h)
  | showText text x y =>
    obtain ⟨short, hx, hy⟩ := h
    have held : ¬ maxPanelText < text.utf8ByteSize := Nat.not_lt.mpr short
    rw [requests, if_neg held, if_pos hx, if_pos hy]
    refine Request.exists_only? ?_
    -- A text that the panel can hold fits a frame, coordinates included.
    have hlength := Text.length_utf8 text
    simp only [maxPayload, List.length_cons]
    omega
  | showBitmap bytes =>
    have whole : bytes.length = panelWidth := h
    rw [requests, if_pos whole]
    refine Request.exists_only? ?_
    rw [whole]
    decide
  | showHalves bytes =>
    have whole : bytes.length = panelWidth := h
    obtain ⟨hfirst, hsecond⟩ := Link.halves_fit whole
    rw [requests, if_pos whole, Request.of?_of_le hfirst, Request.of?_of_le hsecond]
    exact ⟨_, rfl, List.cons_ne_nil _ _⟩
  | passThrough bytes => exact Request.exists_only? h
  | askIdentity | storeId id | switchRelay on | flip => exact ⟨_, rfl, List.cons_ne_nil _ _⟩

end Call

/-! ## Errors of an exchange -/

namespace ChannelLink

variable {σ : Type}

/-- A failure of the channel becomes an error with the opcode of the exchange. -/
theorem exchangeError_isOf (opcode : UInt8) (e : ChannelError) :
    (LinkError.exchange (exchangeError opcode e)).IsOf opcode := by
  cases e <;> exact ⟨_, rfl, rfl⟩

/-- A step of an exchange fails with the opcode of the exchange. -/
theorem step_failsWith {α : Type} (opcode : UInt8) (operation : Attempt σ ChannelError α) :
    Attempt.FailsWith (LinkError.IsOf opcode) (step opcode operation) := by
  intro link e hfail
  rcases h : operation link.channel with ⟨failure | a, s⟩
  · rw [step_of_error h] at hfail
    cases hfail
    exact exchangeError_isOf opcode failure
  · rw [step_of_ok h] at hfail
    cases hfail

variable [Channel σ]

/-- Reading a part of an answer fails with the opcode of the exchange. -/
theorem readPart_failsWith (opcode : UInt8) (n : Nat) :
    Attempt.FailsWith (LinkError.IsOf opcode)
      (readPart opcode n : Attempt (ChannelLink σ) LinkError (Bytes n)) := by
  intro link e hfail
  rcases h : Channel.read n link.channel with ⟨failure | bytes, s⟩
  · by_cases htimeout : failure = .timeout
    · subst htimeout
      rw [readPart_of_timeout opcode h] at hfail
      cases hfail
      exact ⟨_, rfl, rfl⟩
    · rw [readPart_of_failure opcode htimeout h] at hfail
      cases hfail
      exact ⟨_, rfl, rfl⟩
  · rw [readPart_of_ok opcode h] at hfail
    cases hfail

/-- On any channel the exchange of a request fails only as the command that it is. -/
theorem exchange_failsWith (r : Request) :
    Attempt.FailsWith (LinkError.IsOf r.opcode.toByte)
      (Link.exchange r.opcode r.payload.toList :
        Attempt (ChannelLink σ) LinkError (List UInt8)) := by
  change Attempt.FailsWith _ (exchange r.opcode r.payload.toList)
  rw [exchange, r.new?_frame]
  refine (step_failsWith _ _).bind fun _ => ?_
  refine (step_failsWith _ _).bind fun _ => ?_
  refine (readPart_failsWith _ _).bind fun header => ?_
  refine (readPart_failsWith _ _).bind fun answer => ?_
  split
  · exact Attempt.failsWith_pure _
  · exact Attempt.failsWith_throw ⟨_, rfl, rfl⟩

/-- So does the question for the identity. -/
theorem askIdentity_failsWith :
    Attempt.FailsWith (LinkError.IsOf Opcode.askId.toByte)
      (Call.askIdentity.perform : Attempt (ChannelLink σ) LinkError Unit) := by
  have hsend : Attempt.FailsWith (LinkError.IsOf Opcode.askId.toByte)
      (Link.send .askId : Attempt (ChannelLink σ) LinkError (List UInt8)) :=
    exchange_failsWith ⟨.askId, .empty⟩
  have hask : Attempt.FailsWith (LinkError.IsOf Opcode.askId.toByte)
      (Link.askIdentity : Attempt (ChannelLink σ) LinkError UInt8) := by
    refine hsend.bind fun answer => ?_
    split
    · exact Attempt.failsWith_pure _
    · exact Attempt.failsWith_throw ⟨_, rfl, rfl⟩
  exact hask.bind fun _ => Attempt.failsWith_pure _

end ChannelLink

/-! ## Logs -/

namespace Logged

variable {σ : Type} [Channel σ] {t : Logged σ}

theorem writes_write (bytes : List UInt8) :
    (Channel.write bytes t).2.writes = t.writes ++ [bytes] :=
  List.filterMap_append ..

theorem writes_flush : (Channel.flush t).2.writes = t.writes :=
  (List.filterMap_append ..).trans (List.append_nil _)

theorem writes_read (n : Nat) : (Channel.read n t).2.writes = t.writes :=
  (List.filterMap_append ..).trans (List.append_nil _)

theorem writes_discard : (Channel.discard t).2.writes = t.writes :=
  (List.filterMap_append ..).trans (List.append_nil _)

/-- A channel with a log cannot be told from the channel without it. -/
theorem related : Channel.Related fun (t : Logged σ) (s : σ) => t.channel = s where
  write bytes := by
    rintro t _ rfl
    exact ⟨rfl, rfl⟩
  flush := by
    rintro t _ rfl
    exact ⟨rfl, rfl⟩
  read n := by
    rintro t _ rfl
    exact ⟨rfl, rfl⟩
  discard := by
    rintro t _ rfl
    exact ⟨rfl, rfl⟩

/-- A call does to a logged channel what it does to the channel. -/
theorem perform_eq (call : Call) (t : Logged σ) :
    call.perform (⟨t.channel⟩ : ChannelLink σ) =
      ((call.perform (⟨t⟩ : ChannelLink (Logged σ))).1,
        ⟨(call.perform (⟨t⟩ : ChannelLink (Logged σ))).2.channel.channel⟩) := by
  have hrelated : ChannelLink.Over (fun (t : Logged σ) (s : σ) => t.channel = s) ⟨t⟩ ⟨t.channel⟩ :=
    rfl
  obtain ⟨hanswer, hchannel⟩ :=
    call.perform_related (ChannelLink.exchange_related related) hrelated
  exact Prod.ext hanswer.symm (congrArg ChannelLink.mk hchannel.symm)

/-- The exchange of a request writes its frame and nothing else, whatever becomes of it. -/
theorem exchange_writes (r : Request) :
    (Link.exchange r.opcode r.payload.toList (⟨t⟩ : ChannelLink (Logged σ))).2.channel.writes =
      t.writes ++ [r.frame.encode] := by
  change (ChannelLink.exchange r.opcode r.payload.toList ⟨t⟩).2.channel.writes = _
  have hwrites := writes_write (t := t) r.frame.encode
  rcases hw : Channel.write r.frame.encode t with ⟨e | _, t'⟩
  · rw [hw] at hwrites
    rw [ChannelLink.exchange_of_write r.new?_frame hw]
    exact hwrites
  · rw [hw] at hwrites
    exact ChannelLink.exchange_written (P := fun t' => t'.writes = t.writes ++ [r.frame.encode])
      (fun _ => writes_flush.trans) (fun n _ => (writes_read n).trans)
      (fun _ => writes_discard.trans) r.new?_frame hw hwrites

end Logged

/-! ## How far a call comes -/

section Carried

variable {σ : Type} [Channel σ]

/-- Of these requests those were begun on a logged channel, with this result. -/
structure Carried (requests begun : List Request) (t : Logged σ)
    (result : Except LinkError Unit × ChannelLink (Logged σ)) : Prop where
  /-- they are begun in their order -/
  inOrder : begun <+: requests
  /-- the first one is begun -/
  starts : requests ≠ [] → begun ≠ []
  /-- one frame is written for each, and nothing else -/
  writes : result.2.channel.writes = t.writes ++ begun.map fun r => r.frame.encode
  /-- a success leaves none out -/
  all : result.1 = .ok () → begun = requests
  /-- a failure is that of the last one, and the others have succeeded -/
  failure : ∀ e, result.1 = .error e → ∃ done r, begun = done ++ [r] ∧ e.IsOf r.opcode.toByte ∧
    (Link.exchangeAll done (⟨t⟩ : ChannelLink (Logged σ))).1 = .ok ()

/-- Requests are begun one after another, up to the first that fails. -/
theorem Link.exists_carried (requests : List Request) (t : Logged σ) :
    ∃ begun, Carried requests begun t (Link.exchangeAll requests ⟨t⟩) := by
  induction requests generalizing t with
  | nil =>
    exact ⟨[], ⟨List.prefix_rfl, id, (List.append_nil _).symm, fun _ => rfl, fun _ => nofun⟩⟩
  | cons r rest ih =>
    have hwrites := Logged.exchange_writes (t := t) r
    have hfails := ChannelLink.exchange_failsWith r (⟨t⟩ : ChannelLink (Logged σ))
    rcases hr : Link.exchange r.opcode r.payload.toList (⟨t⟩ : ChannelLink (Logged σ)) with
      ⟨e | answer, ⟨t'⟩⟩
    · -- The first request fails, and no other is begun.
      rw [hr] at hwrites hfails
      have hall : Link.exchangeAll (r :: rest) (⟨t⟩ : ChannelLink (Logged σ)) = (.error e, ⟨t'⟩) :=
        Attempt.bind_of_error hr
      rw [hall]
      refine ⟨[r], ⟨rest, rfl⟩, fun _ => List.cons_ne_nil _ _, hwrites, nofun, ?_⟩
      rintro _ ⟨⟩
      exact ⟨[], r, rfl, hfails e rfl, rfl⟩
    · rw [hr] at hwrites
      have hall (others : List Request) :
          Link.exchangeAll (r :: others) (⟨t⟩ : ChannelLink (Logged σ)) =
            Link.exchangeAll others ⟨t'⟩ := Attempt.bind_of_ok hr
      rw [hall]
      obtain ⟨begun, hbegun⟩ := ih t'
      refine ⟨r :: begun, List.cons_prefix_cons.mpr ⟨rfl, hbegun.inOrder⟩,
        fun _ => List.cons_ne_nil _ _, ?_, fun hok => congrArg (r :: ·) (hbegun.all hok), ?_⟩
      · rw [hbegun.writes, hwrites, List.append_assoc]
        rfl
      · intro e he
        obtain ⟨done, last, rfl, hof, hdone⟩ := hbegun.failure e he
        refine ⟨r :: done, last, rfl, hof, ?_⟩
        rw [hall]
        exact hdone

/-- A call that is not turned away comes as far as its requests do. -/
theorem Call.exists_carried {call : Call} {requests : List Request}
    (h : call.requests = .ok requests) (t : Logged σ) :
    ∃ begun, Carried requests begun t (call.perform ⟨t⟩) := by
  obtain ⟨begun, hbegun⟩ := Link.exists_carried requests t
  by_cases hask : call = .askIdentity
  · subst hask
    cases h
    -- The answer may be refused for its length, when the request itself has succeeded.
    obtain ⟨hsnd, -⟩ := perform_askIdentity_snd (⟨t⟩ : ChannelLink (Logged σ))
    obtain ⟨rest, rfl, hrest⟩ := (List.prefix_cons_iff.mp hbegun.inOrder).resolve_left
      (hbegun.starts (List.cons_ne_nil _ _))
    obtain rfl := List.prefix_nil.mp hrest
    refine ⟨_, hbegun.inOrder, hbegun.starts, ?_, fun _ => rfl, fun e he => ?_⟩
    · rw [hsnd]
      exact hbegun.writes
    · exact ⟨[], ⟨.askId, .empty⟩, rfl, ChannelLink.askIdentity_failsWith _ e he, rfl⟩
  · rw [perform_eq_exchangeAll h hask]
    exact ⟨begun, hbegun⟩

end Carried

/-- Every call on every channel checks its arguments first, all of them, and turns away those out of
bounds and no others. A call that is turned away leaves the channel as it was, and no operation has
reached it. A call that is not begins its requests in their order, at least the first, and writes
one frame for each; it succeeds only if none is left out, and an error is that of the last request
begun and carries its opcode. The log has no part in it: without it the call does the same. -/
theorem calls_checked {σ : Type} [Channel σ] (call : Call) (s : σ) :
    let result := call.perform (⟨.ofChannel s⟩ : ChannelLink (Logged σ))
    call.perform (⟨s⟩ : ChannelLink σ) = (result.1, ⟨result.2.channel.channel⟩) ∧
      ((∃ e, result.1 = .error (.argument e)) ↔ ¬ call.InBounds) ∧
      (¬ call.InBounds → result.2.channel = .ofChannel s) ∧
      (call.InBounds → ∃ requests begun, call.requests = .ok requests ∧ begun ≠ [] ∧
        Carried requests begun (.ofChannel s) result) := by
  intro result
  refine ⟨Logged.perform_eq call (.ofChannel s), ?_⟩
  rcases h : call.requests with e | requests
  · have outside : ¬ call.InBounds := by
      intro inside
      obtain ⟨requests, hok, -⟩ := Call.exists_requests_of_inBounds inside
      cases h.symm.trans hok
    have hresult : result = (.error (.argument e), ⟨.ofChannel s⟩) :=
      ChannelLink.perform_of_error h _
    rw [hresult]
    exact ⟨⟨fun _ => outside, fun _ => ⟨e, rfl⟩⟩, fun _ => rfl, fun inside => absurd inside outside⟩
  · have inside := Call.inBounds_of_requests h
    obtain ⟨_, hok, hsome⟩ := Call.exists_requests_of_inBounds inside
    cases h.symm.trans hok
    obtain ⟨begun, hbegun⟩ := Call.exists_carried h (.ofChannel s)
    refine ⟨⟨?_, fun outside => absurd inside outside⟩, fun outside => absurd inside outside,
      fun _ => ⟨requests, begun, rfl, hbegun.starts hsome, hbegun⟩⟩
    rintro ⟨e, he⟩
    obtain ⟨-, -, -, ⟨error, herror, -⟩, -⟩ := hbegun.failure _ he
    cases herror

end Marquee
