/-!
# Instants and durations

All times are natural numbers of nanoseconds on one clock that starts at zero.

## Main definitions

- `Instant`, `Duration`: readings of the clock and their differences
- `Duration.ofMillis`, `Duration.toMillis`: whole milliseconds, rounded down
- `Instant.since`: the time elapsed between two readings
-/

namespace VideoReceiver

/-- A reading of the clock, in nanoseconds since the clock was started. -/
abbrev Instant := Nat

/-- A length of time in nanoseconds. -/
abbrev Duration := Nat

/-- The duration of `ms` milliseconds. -/
def Duration.ofMillis (ms : Nat) : Duration := ms * 1000000

/-- The duration of `us` microseconds. -/
def Duration.ofMicros (us : Nat) : Duration := us * 1000

/-- The whole milliseconds of a duration, rounded down. -/
def Duration.toMillis (d : Duration) : Nat := d / 1000000

/-- The time elapsed from `earlier` to `later`; zero when `later` is not the later one. -/
def Instant.since (later earlier : Instant) : Duration := later - earlier

@[simp] theorem Duration.toMillis_ofMillis (ms : Nat) :
    Duration.toMillis (Duration.ofMillis ms) = ms := by
  simp [Duration.toMillis, Duration.ofMillis]

end VideoReceiver
