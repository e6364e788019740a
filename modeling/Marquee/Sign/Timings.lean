import Marquee.Number.Binary
import Marquee.Wire.Command

/-!
# Timings

How long a message stays, how much of that time one pass of scrolling takes, and how often the
panels are served. All times in seconds are single precision values. Timings are usable
(`Timings.check`) if no time is zero and the scrolling share is a part of the whole.

While the panels are powered they are served with bitmaps; while they are not, nothing is drawn
and nothing is sent (`Activity`). Waking up makes whatever the panels showed before worthless.
-/

namespace Marquee

/-- The timings of a sign. -/
structure Timings where
  /-- how long a message stays, in seconds -/
  lifetimeS : Nat
  /-- share of that time for one pass of scrolling -/
  passShare : Single
  /-- time between two ticks while the panels are powered, in milliseconds -/
  activePeriodMs : Nat
  /-- time between two ticks while they are not, in milliseconds -/
  idlePeriodMs : Nat
deriving DecidableEq

/-- Why timings are not usable. -/
inductive TimingsError
  /-- messages would not stay at all -/
  | noLifetime
  /-- the scrolling share is not a part of the whole -/
  | shareOutOfRange
  /-- the panels would be served without a pause -/
  | noPeriod
deriving DecidableEq

/-- The wording of a timings error. -/
def TimingsError.message : TimingsError → String
  | .noLifetime => "display duration must be non-zero"
  | .shareOutOfRange => "scroll fraction must be in (0, 1]"
  | .noPeriod => "tick intervals must be non-zero"

namespace Timings

/-- Half a minute for each message, nine tenths of it for scrolling. -/
def default : Timings where
  lifetimeS := 30
  passShare := .ofFraction .single false 9 10
  activePeriodMs := 60
  idlePeriodMs := 250

/-- How long a message stays, in milliseconds. -/
def lifetimeMs (c : Timings) : Nat := c.lifetimeS * 1000

/-- Time for one pass of scrolling, in seconds. -/
def passS (c : Timings) : Single := .ofNat .single c.lifetimeS * c.passShare

/-- Time between two ticks while the panels are powered, in seconds. -/
def activePeriodS (c : Timings) : Single :=
  .ofNat .single c.activePeriodMs / .ofNat .single 1000

/-- Seconds for each column of a message of this width: none if it fits the panel, and otherwise
the time for one pass, spread over the columns that do not fit. -/
def secondsPerColumn (c : Timings) (width : UInt32) : Single :=
  if width.toNat ≤ panelWidth then .zero
  else c.passS / .ofNat .single (width.toNat - panelWidth)

/-- Checks the times in order: duration, scrolling share, ticks. -/
def check (c : Timings) : Except TimingsError Unit :=
  if c.lifetimeS = 0 then .error .noLifetime
  else if !(Binary.lt .zero c.passShare && c.passShare.le (.ofNat .single 1)) then
    .error .shareOutOfRange
  else if c.activePeriodMs = 0 ∨ c.idlePeriodMs = 0 then .error .noPeriod
  else .ok ()

end Timings

/-! ## Active and idle -/

/-- Whether the panels are served. -/
inductive Activity
  /-- a bitmap every tick -/
  | active
  /-- no drawing and no sending -/
  | idle
deriving DecidableEq

namespace Activity

/-- The activity that goes with the power state. -/
def next (_ : Activity) (powered : Bool) : Activity := if powered then active else idle

/-- Bitmaps are drawn. -/
def draws : Activity → Bool
  | active => true
  | idle => false

/-- The time until the next tick, in milliseconds. -/
def periodMs (c : Timings) : Activity → Nat
  | active => c.activePeriodMs
  | idle => c.idlePeriodMs

/-- The panels have woken up: they were idle before and are active now. -/
def awokeFrom (now before : Activity) : Bool := before == idle && now == active

end Activity

end Marquee
