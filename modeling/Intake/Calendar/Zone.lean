/-!
# Time zones

A zone is an offset from Coordinated Universal Time that changes at given instants. Local time follows
from an instant by adding the offset in force. The other direction has to choose: a clock that is set
back shows some readings twice, and one that is set forward skips some. A repeated reading means its
first occurrence, and a skipped one is read with the offset from before the change.

All times are seconds from one origin, in Coordinated Universal Time or on the local clock.
-/

namespace Intake

/-- A change of a zone's offset. -/
structure OffsetChange where
  /-- When it happens, in Coordinated Universal Time. -/
  utc : Int
  /-- The offset from then on. -/
  offset : Int
deriving DecidableEq

/-- A zone's offset over all time. -/
structure Zone where
  /-- The offset before the first change. -/
  initial : Int
  /-- The changes, in order of time. -/
  changes : List OffsetChange

namespace Zone

/-- The offset in force at an instant, the changes still to come being given in order. -/
def offsetAfter (before : Int) (t : Int) : List OffsetChange → Int
  | [] => before
  | c :: rest => if t < c.utc then before else offsetAfter c.offset t rest

/-- The offset in force at an instant. -/
def offsetAt (z : Zone) (t : Int) : Int := offsetAfter z.initial t z.changes

/-- The local clock at an instant. -/
def localTime (z : Zone) (t : Int) : Int := t + z.offsetAt t

/-- The offset that a local reading is read with. A change takes effect on the local clock at the later
of the two readings it connects: until then a skipped reading keeps the old offset, and so does the
first occurrence of a repeated one. -/
def readingOffsetAfter (before : Int) (wall : Int) : List OffsetChange → Int
  | [] => before
  | c :: rest =>
    if wall < c.utc + max before c.offset then before else readingOffsetAfter c.offset wall rest

/-- The offset that a local reading is read with. -/
def readingOffset (z : Zone) (wall : Int) : Int := readingOffsetAfter z.initial wall z.changes

/-- The instant that a local reading means. -/
def resolve (z : Zone) (wall : Int) : Int := wall - z.readingOffset wall

end Zone

end Intake
