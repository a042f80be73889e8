import Intake.Text.RunTable

/-!
# Printable characters

A character is printable when it is assigned and is not a control, a format character, a surrogate, a
private-use character or a separator other than the ordinary space. Some printable characters are marks:
they combine with the character before them. The table is that of Unicode 14.
-/

namespace Intake

/-- Runs of code points: 0 where nothing is printable, 1 for printable characters, 2 for marks. -/
def printableRuns : String := "
  32 0 95 1 34 0 12 1 1 0 594 1 112 2 8 1 2 0 6 1 4 0 7 1 1 0 1 1 1 0 20 1 1 0 224 1 7 2 166 1 1 0
  38 1 2 0 50 1 2 0 3 1 1 0 45 2 1 1 1 2 1 1 2 2 1 1 2 2 1 1 1 2 8 0 27 1 4 0 6 1 17 0 10 1 11 2 1
  1 1 0 46 1 21 2 16 1 1 2 101 1 7 2 1 0 1 1 6 2 2 1 2 2 1 1 4 2 32 1 2 0 1 1 1 2 30 1 27 2 2 0 89
  1 11 2 1 1 14 0 43 1 9 2 7 1 2 0 1 2 24 1 4 2 1 1 9 2 1 1 3 2 1 1 5 2 2 0 15 1 1 0 25 1 3 2 2 0
  1 1 1 0 11 1 5 0 31 1 9 0 8 2 42 1 24 2 1 0 33 2 54 1 3 2 1 1 18 2 1 1 7 2 10 1 2 2 29 1 3 2 1 0
  8 1 2 0 2 1 2 0 22 1 1 0 7 1 1 0 1 1 3 0 4 1 2 0 1 2 1 1 7 2 2 0 2 2 2 0 3 2 1 1 8 0 1 2 4 0 2 1
  1 0 3 1 2 2 2 0 24 1 1 2 2 0 3 2 1 0 6 1 4 0 2 1 2 0 22 1 1 0 7 1 1 0 2 1 1 0 2 1 1 0 2 1 2 0 1
  2 1 0 5 2 4 0 2 2 2 0 3 2 3 0 1 2 7 0 4 1 1 0 1 1 7 0 10 1 2 2 3 1 1 2 1 1 10 0 3 2 1 0 9 1 1 0
  3 1 1 0 22 1 1 0 7 1 1 0 2 1 1 0 5 1 2 0 1 2 1 1 8 2 1 0 3 2 1 0 3 2 2 0 1 1 15 0 2 1 2 2 2 0 12
  1 7 0 1 1 6 2 1 0 3 2 1 0 8 1 2 0 2 1 2 0 22 1 1 0 7 1 1 0 2 1 1 0 5 1 2 0 1 2 1 1 7 2 2 0 2 2 2
  0 3 2 7 0 3 2 4 0 2 1 1 0 3 1 2 2 2 0 18 1 10 0 1 2 1 1 1 0 6 1 3 0 3 1 1 0 4 1 3 0 2 1 1 0 1 1
  1 0 2 1 3 0 2 1 3 0 3 1 3 0 12 1 4 0 5 2 3 0 3 2 1 0 4 2 2 0 1 1 6 0 1 2 14 0 21 1 5 0 5 2 8 1 1
  0 3 1 1 0 23 1 1 0 16 1 2 0 1 2 1 1 7 2 1 0 3 2 1 0 4 2 7 0 2 2 1 0 3 1 2 0 1 1 2 0 2 1 2 2 2 0
  10 1 7 0 10 1 3 2 9 1 1 0 3 1 1 0 23 1 1 0 10 1 1 0 5 1 2 0 1 2 1 1 7 2 1 0 3 2 1 0 4 2 7 0 2 2
  6 0 2 1 1 0 2 1 2 2 2 0 10 1 1 0 2 1 13 0 4 2 9 1 1 0 3 1 1 0 41 1 2 2 1 1 7 2 1 0 3 2 1 0 4 2 2
  1 4 0 3 1 1 2 10 1 2 2 2 0 26 1 1 0 3 2 1 0 18 1 3 0 24 1 1 0 9 1 1 0 1 1 2 0 7 1 3 0 1 2 4 0 6
  2 1 0 1 2 1 0 8 2 6 0 10 1 2 0 2 2 1 1 12 0 48 1 1 2 2 1 7 2 4 0 8 1 8 2 13 1 37 0 2 1 1 0 1 1 1
  0 5 1 1 0 24 1 1 0 1 1 1 0 10 1 1 2 2 1 9 2 1 1 2 0 5 1 1 0 1 1 1 0 6 2 2 0 10 1 2 0 4 1 32 0 24
  1 2 2 27 1 1 2 1 1 1 2 1 1 1 2 4 1 2 2 8 1 1 0 36 1 4 0 20 2 1 1 2 2 5 1 11 2 1 0 36 2 1 0 8 1 1
  2 6 1 1 0 13 1 37 0 43 1 20 2 23 1 4 2 4 1 3 2 1 1 3 2 2 1 7 2 3 1 4 2 13 1 12 2 1 1 1 2 10 1 4
  2 40 1 1 0 1 1 5 0 1 1 2 0 377 1 1 0 4 1 2 0 7 1 1 0 1 1 1 0 4 1 2 0 41 1 1 0 4 1 2 0 33 1 1 0 4
  1 2 0 7 1 1 0 1 1 1 0 4 1 2 0 15 1 1 0 57 1 1 0 4 1 2 0 67 1 2 0 3 2 29 1 3 0 26 1 6 0 86 1 2 0
  6 1 2 0 640 1 1 0 28 1 3 0 89 1 7 0 18 1 4 2 9 0 19 1 3 2 2 1 9 0 18 1 2 2 12 0 13 1 1 0 3 1 1 0
  2 2 12 0 52 1 32 2 9 1 1 2 2 0 10 1 6 0 10 1 6 0 11 1 3 2 1 0 1 2 10 1 6 0 89 1 7 0 5 1 2 2 34 1
  1 2 1 1 5 0 70 1 10 0 31 1 1 0 12 2 4 0 12 2 4 0 1 1 3 0 42 1 2 0 5 1 11 0 44 1 4 0 26 1 6 0 11
  1 3 0 57 1 5 2 2 0 55 1 10 2 1 0 29 2 2 0 1 2 10 1 6 0 10 1 6 0 14 1 2 0 31 2 49 0 5 2 47 1 17 2
  8 1 3 0 27 1 9 2 11 1 1 0 3 2 30 1 13 2 56 1 14 2 8 0 40 1 20 2 3 0 15 1 3 0 60 1 7 0 43 1 2 0
  11 1 8 0 3 2 1 1 21 2 4 1 1 2 6 1 1 2 2 1 3 2 1 1 5 0 192 1 64 2 278 1 2 0 6 1 2 0 38 1 2 0 6 1
  2 0 8 1 1 0 1 1 1 0 1 1 1 0 1 1 1 0 31 1 2 0 53 1 1 0 15 1 1 0 14 1 2 0 6 1 1 0 19 1 2 0 3 1 1 0
  9 1 17 0 24 1 8 0 47 1 17 0 2 1 2 0 27 1 1 0 13 1 3 0 33 1 15 0 33 2 15 0 140 1 4 0 663 1 25 0
  11 1 21 0 1812 1 2 0 32 1 1 0 344 1 3 2 2 1 5 0 45 1 1 0 1 1 5 0 1 1 2 0 56 1 7 0 2 1 14 0 1 2
  23 1 9 0 7 1 1 0 7 1 1 0 7 1 1 0 7 1 1 0 7 1 1 0 7 1 1 0 7 1 1 0 7 1 1 0 32 2 94 1 34 0 26 1 1 0
  89 1 12 0 214 1 26 0 12 1 5 0 41 1 6 2 16 1 1 0 86 1 2 0 2 2 101 1 5 0 43 1 1 0 94 1 1 0 84 1 12
  0 47 1 1 0 29293 1 3 0 55 1 9 0 348 1 20 0 47 1 4 2 1 1 10 2 32 1 2 2 80 1 2 2 6 1 8 0 203 1 5 0
  2 1 1 0 1 1 1 0 5 1 24 0 16 1 1 2 3 1 1 2 4 1 1 2 23 1 5 2 4 1 1 2 3 0 10 1 6 0 56 1 8 0 2 2 50
  1 18 2 8 0 12 1 6 0 18 2 13 1 1 2 38 1 8 2 25 1 13 2 11 0 30 1 3 0 4 2 47 1 14 2 13 1 1 0 11 1 4
  0 7 1 1 2 25 1 1 0 41 1 14 2 9 0 3 1 1 2 8 1 2 2 2 0 10 1 2 0 31 1 3 2 50 1 1 2 1 1 3 2 2 1 2 2
  5 1 2 2 1 1 1 2 1 1 24 0 16 1 5 2 5 1 2 2 10 0 6 1 2 0 6 1 2 0 6 1 9 0 7 1 1 0 7 1 1 0 60 1 4 0
  115 1 8 2 1 1 2 2 2 0 10 1 6 0 11172 1 12 0 23 1 4 0 49 1 8452 0 366 1 2 0 106 1 38 0 7 1 12 0 5
  1 5 0 1 1 1 2 24 1 1 0 5 1 1 0 1 1 1 0 2 1 1 0 2 1 1 0 125 1 16 0 445 1 2 0 54 1 7 0 1 1 32 0 16
  1 16 2 10 1 6 0 16 2 35 1 1 0 19 1 1 0 4 1 4 0 5 1 1 0 135 1 4 0 190 1 3 0 6 1 2 0 6 1 2 0 6 1 2
  0 3 1 3 0 7 1 1 0 7 1 13 0 2 1 2 0 12 1 1 0 26 1 1 0 19 1 1 0 2 1 1 0 15 1 2 0 14 1 34 0 123 1 5
  0 3 1 4 0 45 1 3 0 88 1 1 0 13 1 3 0 1 1 47 0 45 1 1 2 130 0 29 1 3 0 49 1 15 0 1 2 27 1 4 0 36
  1 9 0 30 1 5 0 38 1 5 2 5 0 30 1 1 0 37 1 4 0 14 1 42 0 158 1 2 0 10 1 6 0 36 1 4 0 36 1 4 0 40
  1 8 0 52 1 11 0 12 1 1 0 15 1 1 0 7 1 1 0 2 1 1 0 11 1 1 0 15 1 1 0 7 1 1 0 2 1 67 0 311 1 9 0
  22 1 10 0 8 1 24 0 6 1 1 0 42 1 1 0 9 1 69 0 6 1 2 0 1 1 1 0 44 1 1 0 2 1 3 0 1 1 2 0 23 1 1 0
  72 1 8 0 9 1 48 0 19 1 1 0 2 1 5 0 33 1 3 0 27 1 5 0 1 1 64 0 56 1 4 0 20 1 2 0 47 1 3 2 1 0 2 2
  5 0 4 2 4 1 1 0 3 1 1 0 29 1 2 0 3 2 4 0 1 2 9 1 7 0 9 1 7 0 64 1 32 0 37 1 2 2 4 0 12 1 9 0 54
  1 3 0 29 1 2 0 27 1 5 0 26 1 7 0 4 1 12 0 7 1 80 0 73 1 55 0 51 1 13 0 51 1 7 0 42 1 4 2 8 0 10
  1 294 0 31 1 1 0 42 1 1 0 2 2 1 1 2 0 2 1 78 0 40 1 8 0 22 1 11 2 9 1 22 0 18 1 4 2 4 1 38 0 28
  1 20 0 23 1 9 0 3 2 53 1 15 2 7 1 4 0 30 1 1 2 2 1 2 2 1 1 9 0 4 2 45 1 11 2 2 1 1 0 4 1 1 2 13
  0 25 1 7 0 10 1 6 0 3 2 36 1 14 2 1 0 15 1 2 2 1 1 8 0 35 1 1 2 3 1 9 0 3 2 48 1 14 2 8 1 4 2 1
  1 2 2 16 1 1 0 20 1 11 0 18 1 1 0 25 1 12 2 6 1 1 2 65 0 7 1 1 0 1 1 1 0 4 1 1 0 15 1 1 0 11 1 6
  0 47 1 12 2 5 0 10 1 6 0 4 2 1 0 8 1 2 0 2 1 2 0 22 1 1 0 7 1 1 0 2 1 1 0 5 1 1 0 2 2 1 1 7 2 2
  0 2 2 2 0 3 2 2 0 1 1 6 0 1 2 5 0 5 1 2 2 2 0 7 2 3 0 5 2 139 0 53 1 18 2 21 1 1 0 1 1 1 2 3 1
  30 0 48 1 20 2 4 1 8 0 10 1 166 0 47 1 7 2 2 0 9 2 27 1 2 2 34 0 48 1 17 2 4 1 11 0 10 1 6 0 13
  1 19 0 43 1 13 2 2 1 6 0 10 1 54 0 27 1 2 0 15 2 4 0 23 1 185 0 44 1 15 2 1 1 100 0 83 1 12 0 8
  1 2 0 1 1 2 0 8 1 1 0 2 1 1 0 24 1 6 2 1 0 2 2 2 0 4 2 1 1 1 2 1 1 2 2 3 1 9 0 10 1 70 0 8 1 2 0
  39 1 7 2 2 0 7 2 3 1 1 2 27 0 1 1 10 2 40 1 7 2 1 1 4 2 8 1 1 2 8 0 1 1 11 2 46 1 16 2 9 1 13 0
  73 1 263 0 9 1 1 0 37 1 8 2 1 0 8 2 6 1 10 0 29 1 3 0 32 1 2 0 22 2 1 0 14 2 73 0 7 1 1 0 2 1 1
  0 38 1 6 2 3 0 1 2 1 0 2 2 1 0 7 2 1 1 1 2 8 0 10 1 6 0 6 1 1 0 2 1 1 0 32 1 5 2 1 0 2 2 1 0 5 2
  1 1 7 0 10 1 310 0 19 1 4 2 2 1 183 0 1 1 15 0 50 1 13 0 923 1 102 0 111 1 1 0 5 1 11 0 196 1
  2636 0 99 1 13 0 1071 1 4049 0 583 1 8633 0 569 1 7 0 31 1 1 0 10 1 4 0 81 1 1 0 10 1 6 0 30 1 2
  0 5 2 1 1 10 0 48 1 7 2 15 1 10 0 10 1 1 0 7 1 1 0 21 1 5 0 19 1 688 0 91 1 101 0 75 1 4 0 1 2 1
  1 55 2 7 0 4 2 13 1 64 0 4 1 1 2 11 0 2 2 14 0 6136 1 8 0 1238 1 42 0 9 1 8935 0 4 1 1 0 7 1 1 0
  2 1 1 0 291 1 45 0 3 1 17 0 4 1 8 0 396 1 2308 0 107 1 5 0 13 1 3 0 9 1 7 0 10 1 2 0 1 1 2 2 1 1
  4704 0 46 2 2 0 23 2 9 0 116 1 60 0 246 1 10 0 39 1 2 0 60 1 5 2 3 1 6 2 8 0 8 2 2 1 7 2 30 1 4
  2 61 1 21 0 66 1 3 2 1 1 154 0 20 1 12 0 87 1 9 0 25 1 135 0 85 1 1 0 71 1 1 0 2 1 2 0 1 1 2 0 2
  1 2 0 4 1 1 0 12 1 1 0 1 1 1 0 7 1 1 0 65 1 1 0 4 1 2 0 8 1 1 0 7 1 1 0 28 1 1 0 4 1 1 0 5 1 1 0
  1 1 3 0 7 1 1 0 340 1 2 0 292 1 2 0 562 1 55 2 4 1 50 2 8 1 1 2 14 1 1 2 7 1 15 0 5 2 1 0 15 2
  1104 0 31 1 225 0 7 2 1 0 17 2 2 0 7 2 1 0 2 2 1 0 5 2 213 0 45 1 3 0 7 2 7 1 2 0 10 1 4 0 2 1
  320 0 30 1 1 2 17 0 44 1 4 2 10 1 5 0 1 1 1248 0 7 1 1 0 4 1 1 0 2 1 1 0 15 1 1 0 197 1 2 0 9 1
  7 2 41 0 68 1 7 2 1 1 4 0 10 1 4 0 2 1 785 0 68 1 76 0 61 1 194 0 4 1 1 0 27 1 1 0 2 1 1 0 1 1 2
  0 1 1 1 0 10 1 1 0 4 1 1 0 1 1 1 0 1 1 6 0 1 1 4 0 1 1 1 0 1 1 1 0 1 1 1 0 3 1 1 0 2 1 1 0 1 1 2
  0 1 1 1 0 1 1 1 0 1 1 1 0 1 1 1 0 1 1 1 0 2 1 1 0 1 1 2 0 4 1 1 0 7 1 1 0 4 1 1 0 4 1 1 0 1 1 1
  0 10 1 1 0 17 1 5 0 3 1 1 0 5 1 1 0 17 1 52 0 2 1 270 0 44 1 4 0 100 1 12 0 15 1 2 0 15 1 1 0 15
  1 1 0 37 1 10 0 174 1 56 0 29 1 13 0 44 1 4 0 9 1 7 0 2 1 14 0 6 1 154 0 984 1 5 0 16 1 3 0 13 1
  3 0 116 1 12 0 89 1 7 0 12 1 4 0 1 1 15 0 12 1 4 0 56 1 8 0 10 1 6 0 40 1 8 0 30 1 2 0 2 1 78 0
  340 1 12 0 14 1 2 0 5 1 3 0 5 1 3 0 7 1 9 0 29 1 3 0 11 1 5 0 6 1 10 0 10 1 6 0 8 1 8 0 7 1 9 0
  147 1 1 0 55 1 37 0 10 1 1030 0 42720 1 32 0 4153 1 7 0 222 1 2 0 5762 1 14 0 7473 1 3103 0 542
  1 1506 0 4939 1 716213 0 240 2 196112 0"

/-- The table, ready for look-ups. -/
def printableTable : RunTable Nat := .ofText printableRuns

/-- Printable characters of ASCII. -/
def isPrintableAscii (c : Char) : Bool := ' ' ≤ c && c ≤ '~'

/-- Whether a character can be shown as it is. The table is asked about characters beyond ASCII only. -/
def isPrintable (c : Char) : Bool :=
  if c.toNat < 0x80 then isPrintableAscii c else printableTable.valueAt c != 0

/-- Whether a character combines with the one before it. No character of ASCII does. -/
def isMark (c : Char) : Bool := 0x80 ≤ c.toNat && printableTable.valueAt c == 2

end Intake
