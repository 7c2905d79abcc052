import SearchGateway.Calendar.Date

/-!
# Instants

A point in time in Coordinated Universal Time, down to the nanosecond.  Any minute may end
in a leap second, which is its second 60.  That is the only place for a leap second: it is the
one that a text can name.  A clock that is set by hand can count a second more after any other
second; such a point in time is no instant here.
-/
namespace SearchGateway.Calendar

/-- A point in time. -/
structure Instant where
  date : Date
  hour : Nat
  minute : Nat
  /-- The second of the minute; 60 is a leap second. -/
  second : Nat
  /-- The nanoseconds since the second began. -/
  nano : Nat
  hour_lt : hour < 24
  minute_lt : minute < 60
  second_le : second ≤ 60
  nano_lt : nano < 1_000_000_000
deriving DecidableEq, Repr

namespace Instant

/-- The instant without the fraction of its second. -/
def wholeSecond (t : Instant) : Instant :=
  { t with nano := 0, nano_lt := by omega }

/-- The instant that a clock shows which is `offset` minutes ahead of universal time; offsets
are below one day. -/
def ofLocal (t : Instant) (offset : Int) : Instant :=
  let shown : Int := t.hour * 60 + t.minute
  let minutes := shown - offset
  let date :=
    if minutes < 0 then t.date.prev
    else if minutes < 1440 then t.date
    else t.date.next
  let ofDay := (minutes % 1440).toNat
  { t with
    date
    hour := ofDay / 60
    minute := ofDay % 60
    hour_lt := by
      have : minutes % 1440 < 1440 := Int.emod_lt_of_pos _ (by omega)
      omega
    minute_lt := by omega }

end Instant
end SearchGateway.Calendar
