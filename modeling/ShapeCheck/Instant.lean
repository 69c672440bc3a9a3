/-!
# Instants

An instant is a count of seconds from the start of 1970, negative before it, with nanoseconds on
top, in universal time. How its date and time of day are written is not decided here: whatever
writes dates does so in any format.
-/

namespace ShapeCheck

/-- Seconds since the start of 1970, and nanoseconds that are added to them. In a leap second the
nanoseconds go on counting beyond a second. -/
structure Instant where
  seconds : Int
  nanos : Fin 2000000000
deriving DecidableEq, Repr, Inhabited

/-- How instants are written. -/
class DateFormat where
  write : Instant → String

def Instant.text [format : DateFormat] (instant : Instant) : String := format.write instant

/-- Writes the start of 1970 with its date, its time of day and the offset of universal time. Where
no other date is written, it cannot be told from any format that does so. -/
@[reducible] def DateFormat.epoch : DateFormat := ⟨fun _ => "1970-01-01T00:00:00+00:00"⟩

end ShapeCheck
