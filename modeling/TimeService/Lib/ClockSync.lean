import Mathlib.Algebra.Order.Ring.Abs
import Mathlib.Tactic.Linarith
import Mathlib.Tactic.Ring

/-!
# Clock synchronisation

A client asks a server for the time and takes four stamps: its own when the request is sent and when
the reply has come back, and the server's when the request arrives and when the reply leaves.  The
server's time at the return is estimated by assuming that both ways have taken equally long.

* `Stamps.twiceTime_error`: the estimate is off by at most half the round trip, whatever the two
  ways have taken, and by the errors of the stamps;
* `Reading.Within.advance`: a time that is carried on by a second clock is off by what it was off
  before and what that clock has gone wrong since.

Times are in any ordered ring; the estimate is doubled, so that nothing is divided.
-/

namespace ClockSync

variable {R : Type*} [CommRing R] [LinearOrder R] [IsStrictOrderedRing R]

/-- The four stamps of an exchange. -/
structure Stamps (R : Type*) where
  origin : R
  receive : R
  transmit : R
  final : R

/-- What both ways have taken, by the stamps. -/
def Stamps.roundTrip (s : Stamps R) : R := (s.final - s.origin) - (s.transmit - s.receive)

/-- Twice the estimate of the time at the return: the client's time and the offset. -/
def Stamps.twiceTime (s : Stamps R) : R :=
  2 * s.final + ((s.receive - s.origin) + (s.transmit - s.final))

/-- **The error of the estimate.** The client's clock is `offset` ahead, its stamps are within `c`
    of what it shows, and the server's are within `v` of the time. -/
theorem Stamps.twiceTime_error {s : Stamps R} {sent arrived left returned offset c v : R}
    (hforth : sent ≤ arrived) (hback : left ≤ returned)
    (horigin : |s.origin - (sent + offset)| ≤ c) (hfinal : |s.final - (returned + offset)| ≤ c)
    (hreceive : |s.receive - arrived| ≤ v) (htransmit : |s.transmit - left| ≤ v) :
    |s.twiceTime - 2 * returned| ≤ s.roundTrip + (4 * c + 2 * v) := by
  rw [abs_le] at horigin hfinal hreceive htransmit
  obtain ⟨horigin, horigin'⟩ := horigin
  obtain ⟨hfinal, hfinal'⟩ := hfinal
  obtain ⟨hreceive, hreceive'⟩ := hreceive
  obtain ⟨htransmit, htransmit'⟩ := htransmit
  -- the request bounds the estimate from below, the reply from above
  have htime : s.twiceTime = s.final + s.receive + s.transmit - s.origin := by
    unfold Stamps.twiceTime
    ring
  rw [htime, Stamps.roundTrip, abs_le]
  constructor
  · linarith
  · linarith

/-- A time and what a second clock has shown at it. -/
structure Reading (R : Type*) where
  time : R
  reference : R

/-- The time when the second clock shows `clock`. -/
def Reading.at (r : Reading R) (clock : R) : R := r.time + (clock - r.reference)

/-- The reading is off by at most `e`. -/
def Reading.Within (r : Reading R) (e clock now : R) : Prop := |r.at clock - now| ≤ e

/-- **Carrying on.** The error grows by what the second clock goes wrong. -/
theorem Reading.Within.advance {r : Reading R} {e clock now clock' now' : R}
    (h : r.Within e clock now) :
    r.Within (e + |(now' - now) - (clock' - clock)|) clock' now' := by
  have hsplit : r.at clock' - now'
      = (r.at clock - now) - ((now' - now) - (clock' - clock)) := by
    unfold Reading.at
    ring
  unfold Reading.Within at h ⊢
  rw [hsplit]
  calc |(r.at clock - now) - ((now' - now) - (clock' - clock))|
      ≤ |r.at clock - now| + |(now' - now) - (clock' - clock)| := abs_sub _ _
    _ ≤ e + |(now' - now) - (clock' - clock)| := by linarith

end ClockSync
