import NotebookHost.Instant.Date

namespace NotebookHost

structure Instant where
  date : Date
  hour : Nat
  minute : Nat
  second : Nat
  nano : Nat
  hour_lt : hour < 24
  minute_lt : minute < 60
  second_le : second ≤ 60
  nano_lt : nano < 1000000000
  deriving DecidableEq

namespace Instant

def of? (date : Date) (hour minute second nano : Nat) : Option Instant :=
  if h : hour < 24 ∧ minute < 60 ∧ second ≤ 60 ∧ nano < 1000000000 then
    some ⟨date, hour, minute, second, nano, h.1, h.2.1, h.2.2.1, h.2.2.2⟩
  else none

/-- The instant at which a clock that is `offset` minutes ahead of universal time shows `shown`. -/
def ofClock? (shown : Instant) (offset : Int) : Option Instant :=
  let minutes : Int := (60 * shown.hour + shown.minute : Nat) - offset
  if minutes < 0 then
    shown.date.previous?.bind fun d => at? d (minutes + 1440)
  else if minutes < 1440 then at? shown.date minutes
  else shown.date.next?.bind fun d => at? d (minutes - 1440)
where
  at? (d : Date) (minutes : Int) : Option Instant :=
    of? d (minutes / 60).toNat (minutes % 60).toNat shown.second shown.nano

end Instant

end NotebookHost
