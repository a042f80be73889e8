import Intake.Calendar.Instant
import Intake.Calendar.Zone

/-!
# Eastern time

The civil time of New York: local mean time until the railways' noon of 18 November 1883, then Eastern
standard time, with summers an hour ahead from 1918 on. Summers up to 2006 are listed one by one; the
one that began in 1942 lasted until the war had ended. From 2007 on a summer runs from the second
Sunday of March to the first Sunday of November.
-/

namespace Intake.Eastern

/-- Local mean time, in seconds east of Greenwich. -/
def meanOffset : Int := -17762

/-- Standard time. -/
def standardOffset : Int := -18000

/-- Summer time. -/
def summerOffset : Int := -14400

/-- A stretch of summer time, by its first and its last day. -/
structure Summer where
  first : Date
  last : Date

/-- The clock goes forward at two in the morning, standard time, and back at two in the morning, summer
time. -/
def Summer.changes (s : Summer) : List OffsetChange :=
  [⟨wallSeconds s.first ⟨2, 0, 0⟩ - standardOffset, summerOffset⟩,
   ⟨wallSeconds s.last ⟨2, 0, 0⟩ - summerOffset, standardOffset⟩]

/-- The summers before the present rule. -/
def listedSummers : List Summer :=
  [⟨⟨1918, 3, 31⟩, ⟨1918, 10, 27⟩⟩, ⟨⟨1919, 3, 30⟩, ⟨1919, 10, 26⟩⟩,
   ⟨⟨1920, 3, 28⟩, ⟨1920, 10, 31⟩⟩, ⟨⟨1921, 4, 24⟩, ⟨1921, 9, 25⟩⟩, ⟨⟨1922, 4, 30⟩, ⟨1922, 9, 24⟩⟩,
   ⟨⟨1923, 4, 29⟩, ⟨1923, 9, 30⟩⟩, ⟨⟨1924, 4, 27⟩, ⟨1924, 9, 28⟩⟩, ⟨⟨1925, 4, 26⟩, ⟨1925, 9, 27⟩⟩,
   ⟨⟨1926, 4, 25⟩, ⟨1926, 9, 26⟩⟩, ⟨⟨1927, 4, 24⟩, ⟨1927, 9, 25⟩⟩, ⟨⟨1928, 4, 29⟩, ⟨1928, 9, 30⟩⟩,
   ⟨⟨1929, 4, 28⟩, ⟨1929, 9, 29⟩⟩, ⟨⟨1930, 4, 27⟩, ⟨1930, 9, 28⟩⟩, ⟨⟨1931, 4, 26⟩, ⟨1931, 9, 27⟩⟩,
   ⟨⟨1932, 4, 24⟩, ⟨1932, 9, 25⟩⟩, ⟨⟨1933, 4, 30⟩, ⟨1933, 9, 24⟩⟩, ⟨⟨1934, 4, 29⟩, ⟨1934, 9, 30⟩⟩,
   ⟨⟨1935, 4, 28⟩, ⟨1935, 9, 29⟩⟩, ⟨⟨1936, 4, 26⟩, ⟨1936, 9, 27⟩⟩, ⟨⟨1937, 4, 25⟩, ⟨1937, 9, 26⟩⟩,
   ⟨⟨1938, 4, 24⟩, ⟨1938, 9, 25⟩⟩, ⟨⟨1939, 4, 30⟩, ⟨1939, 9, 24⟩⟩, ⟨⟨1940, 4, 28⟩, ⟨1940, 9, 29⟩⟩,
   ⟨⟨1941, 4, 27⟩, ⟨1941, 9, 28⟩⟩, ⟨⟨1942, 2, 9⟩, ⟨1945, 9, 30⟩⟩, ⟨⟨1946, 4, 28⟩, ⟨1946, 9, 29⟩⟩,
   ⟨⟨1947, 4, 27⟩, ⟨1947, 9, 28⟩⟩, ⟨⟨1948, 4, 25⟩, ⟨1948, 9, 26⟩⟩, ⟨⟨1949, 4, 24⟩, ⟨1949, 9, 25⟩⟩,
   ⟨⟨1950, 4, 30⟩, ⟨1950, 9, 24⟩⟩, ⟨⟨1951, 4, 29⟩, ⟨1951, 9, 30⟩⟩, ⟨⟨1952, 4, 27⟩, ⟨1952, 9, 28⟩⟩,
   ⟨⟨1953, 4, 26⟩, ⟨1953, 9, 27⟩⟩, ⟨⟨1954, 4, 25⟩, ⟨1954, 9, 26⟩⟩, ⟨⟨1955, 4, 24⟩, ⟨1955, 10, 30⟩⟩,
   ⟨⟨1956, 4, 29⟩, ⟨1956, 10, 28⟩⟩, ⟨⟨1957, 4, 28⟩, ⟨1957, 10, 27⟩⟩,
   ⟨⟨1958, 4, 27⟩, ⟨1958, 10, 26⟩⟩, ⟨⟨1959, 4, 26⟩, ⟨1959, 10, 25⟩⟩,
   ⟨⟨1960, 4, 24⟩, ⟨1960, 10, 30⟩⟩, ⟨⟨1961, 4, 30⟩, ⟨1961, 10, 29⟩⟩,
   ⟨⟨1962, 4, 29⟩, ⟨1962, 10, 28⟩⟩, ⟨⟨1963, 4, 28⟩, ⟨1963, 10, 27⟩⟩,
   ⟨⟨1964, 4, 26⟩, ⟨1964, 10, 25⟩⟩, ⟨⟨1965, 4, 25⟩, ⟨1965, 10, 31⟩⟩,
   ⟨⟨1966, 4, 24⟩, ⟨1966, 10, 30⟩⟩, ⟨⟨1967, 4, 30⟩, ⟨1967, 10, 29⟩⟩,
   ⟨⟨1968, 4, 28⟩, ⟨1968, 10, 27⟩⟩, ⟨⟨1969, 4, 27⟩, ⟨1969, 10, 26⟩⟩,
   ⟨⟨1970, 4, 26⟩, ⟨1970, 10, 25⟩⟩, ⟨⟨1971, 4, 25⟩, ⟨1971, 10, 31⟩⟩,
   ⟨⟨1972, 4, 30⟩, ⟨1972, 10, 29⟩⟩, ⟨⟨1973, 4, 29⟩, ⟨1973, 10, 28⟩⟩,
   ⟨⟨1974, 1, 6⟩, ⟨1974, 10, 27⟩⟩, ⟨⟨1975, 2, 23⟩, ⟨1975, 10, 26⟩⟩,
   ⟨⟨1976, 4, 25⟩, ⟨1976, 10, 31⟩⟩, ⟨⟨1977, 4, 24⟩, ⟨1977, 10, 30⟩⟩,
   ⟨⟨1978, 4, 30⟩, ⟨1978, 10, 29⟩⟩, ⟨⟨1979, 4, 29⟩, ⟨1979, 10, 28⟩⟩,
   ⟨⟨1980, 4, 27⟩, ⟨1980, 10, 26⟩⟩, ⟨⟨1981, 4, 26⟩, ⟨1981, 10, 25⟩⟩,
   ⟨⟨1982, 4, 25⟩, ⟨1982, 10, 31⟩⟩, ⟨⟨1983, 4, 24⟩, ⟨1983, 10, 30⟩⟩,
   ⟨⟨1984, 4, 29⟩, ⟨1984, 10, 28⟩⟩, ⟨⟨1985, 4, 28⟩, ⟨1985, 10, 27⟩⟩,
   ⟨⟨1986, 4, 27⟩, ⟨1986, 10, 26⟩⟩, ⟨⟨1987, 4, 5⟩, ⟨1987, 10, 25⟩⟩, ⟨⟨1988, 4, 3⟩, ⟨1988, 10, 30⟩⟩,
   ⟨⟨1989, 4, 2⟩, ⟨1989, 10, 29⟩⟩, ⟨⟨1990, 4, 1⟩, ⟨1990, 10, 28⟩⟩, ⟨⟨1991, 4, 7⟩, ⟨1991, 10, 27⟩⟩,
   ⟨⟨1992, 4, 5⟩, ⟨1992, 10, 25⟩⟩, ⟨⟨1993, 4, 4⟩, ⟨1993, 10, 31⟩⟩, ⟨⟨1994, 4, 3⟩, ⟨1994, 10, 30⟩⟩,
   ⟨⟨1995, 4, 2⟩, ⟨1995, 10, 29⟩⟩, ⟨⟨1996, 4, 7⟩, ⟨1996, 10, 27⟩⟩, ⟨⟨1997, 4, 6⟩, ⟨1997, 10, 26⟩⟩,
   ⟨⟨1998, 4, 5⟩, ⟨1998, 10, 25⟩⟩, ⟨⟨1999, 4, 4⟩, ⟨1999, 10, 31⟩⟩, ⟨⟨2000, 4, 2⟩, ⟨2000, 10, 29⟩⟩,
   ⟨⟨2001, 4, 1⟩, ⟨2001, 10, 28⟩⟩, ⟨⟨2002, 4, 7⟩, ⟨2002, 10, 27⟩⟩, ⟨⟨2003, 4, 6⟩, ⟨2003, 10, 26⟩⟩,
   ⟨⟨2004, 4, 4⟩, ⟨2004, 10, 31⟩⟩, ⟨⟨2005, 4, 3⟩, ⟨2005, 10, 30⟩⟩, ⟨⟨2006, 4, 2⟩, ⟨2006, 10, 29⟩⟩]

/-- The first year of the present rule. -/
def ruleStart : Nat := 2007

/-- The summer of a year under the present rule. -/
def ruleSummer (year : Nat) : Summer := ⟨Date.nthSunday year 3 2, Date.nthSunday year 11 1⟩

/-- The end of local mean time. -/
def railwayNoon : OffsetChange := ⟨wallSeconds ⟨1883, 11, 18⟩ ⟨17, 0, 0⟩, standardOffset⟩

/-- All changes up to the end of the calendar. -/
def changes : List OffsetChange :=
  railwayNoon :: (listedSummers.flatMap Summer.changes ++
    (List.range' ruleStart (lastYear + 1 - ruleStart)).flatMap fun year => (ruleSummer year).changes)

/-- Eastern time. -/
def zone : Zone := ⟨meanOffset, changes⟩

end Intake.Eastern
