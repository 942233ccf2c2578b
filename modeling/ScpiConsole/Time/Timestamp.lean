import ScpiConsole.Time.Date
/-!
# Moments and spans of time

* `Timestamp` : a moment in UTC to the nanosecond, leap seconds included
* `Elapsed` : a span of time
-/

namespace ScpiConsole

/-- A moment in UTC. Second 60 is a leap second. -/
structure Timestamp where
  date : Date
  hour : Nat
  minute : Nat
  second : Nat
  nano : Nat
  hour_lt : hour < 24
  minute_lt : minute < 60
  second_le : second ≤ 60
  nano_lt : nano < 1000000000
deriving DecidableEq, Repr

namespace Timestamp

def of? (date : Date) (hour minute second nano : Nat) : Option Timestamp :=
  if hh : hour < 24 then
    if hm : minute < 60 then
      if hs : second ≤ 60 then
        if hn : nano < 1000000000 then some ⟨date, hour, minute, second, nano, hh, hm, hs, hn⟩
        else none
      else none
    else none
  else none

theorem of?_fields (t : Timestamp) : of? t.date t.hour t.minute t.second t.nano = some t := by
  simp [of?, t.hour_lt, t.minute_lt, t.second_le, t.nano_lt]

/-- The first moment of 1970. -/
def epoch : Timestamp := ⟨.epoch, 0, 0, 0, 0, by decide, by decide, by decide, by decide⟩

instance : Inhabited Timestamp := ⟨epoch⟩

/-- The moment that many nanoseconds after the epoch, leap seconds not counted. -/
def ofUnix (nanos : Nat) : Timestamp :=
  let seconds := nanos / 1000000000
  let minutes := seconds / 60
  let hours := minutes / 60
  ⟨Date.epoch.after (hours / 24), hours % 24, minutes % 60, seconds % 60, nanos % 1000000000,
    Nat.mod_lt _ (by decide), Nat.mod_lt _ (by decide),
    Nat.le_trans (Nat.le_of_lt (Nat.mod_lt _ (by decide))) (by decide), Nat.mod_lt _ (by decide)⟩

/-- The moment that is `minutes` earlier, less than a day. The seconds stay. -/
def minus? (t : Timestamp) (minutes : Int) : Option Timestamp :=
  let total : Int := Int.ofNat (t.hour * 60 + t.minute) - minutes
  if total < 0 then
    t.date.previous?.bind fun d =>
      of? d ((total + 1440) / 60).toNat ((total + 1440) % 60).toNat t.second t.nano
  else if 1440 ≤ total then
    t.date.next?.bind fun d =>
      of? d ((total - 1440) / 60).toNat ((total - 1440) % 60).toNat t.second t.nano
  else of? t.date (total / 60).toNat (total % 60).toNat t.second t.nano

theorem minus?_zero (t : Timestamp) : t.minus? 0 = some t := by
  have hh := t.hour_lt
  have hm := t.minute_lt
  have h0 : ¬ ((t.hour : Int) * 60 + t.minute) < 0 := by omega
  have h1 : ¬ 1440 ≤ ((t.hour : Int) * 60 + t.minute) := by omega
  have e1 : (((t.hour : Int) * 60 + t.minute) / 60).toNat = t.hour := by omega
  have e2 : (((t.hour : Int) * 60 + t.minute) % 60).toNat = t.minute := by omega
  simp only [minus?, Int.ofNat_eq_natCast, Int.natCast_add, Int.natCast_mul, Int.sub_zero,
    Int.cast_ofNat_Int, if_neg h0, if_neg h1, e1, e2]
  exact of?_fields t

end Timestamp

/-- A span of time of less than 2⁶⁴ seconds. -/
structure Elapsed where
  seconds : UInt64
  nanos : Nat
  nanos_lt : nanos < 1000000000
deriving DecidableEq, Repr

namespace Elapsed

def zero : Elapsed := ⟨0, 0, by decide⟩

instance : Inhabited Elapsed := ⟨zero⟩

/-- A span given in seconds and nanoseconds; a full second of nanoseconds is carried over. -/
def of? (seconds nanos : Nat) : Option Elapsed :=
  let seconds := seconds + nanos / 1000000000
  if seconds < UInt64.size then
    some ⟨seconds.toUInt64, nanos % 1000000000, Nat.mod_lt _ (by decide)⟩
  else none

/-- The span between two readings of a clock that counts nanoseconds; none when it ran backwards. -/
def between (start stop : Nat) : Elapsed := (of? 0 (stop - start)).getD zero

/-- Whole milliseconds. -/
def millis (e : Elapsed) : Nat := e.seconds.toNat * 1000 + e.nanos / 1000000

end Elapsed

end ScpiConsole
