import Intake.Text.RunTable

/-!
# Canonical equivalence

Some characters are canonically equivalent to others: to a single one, or to a character and a mark. Marks
have a combining class, which says in which order they follow their character. The tables are those of
Unicode 14; the syllables of Hangul follow from a rule.
-/

namespace Intake.Canonical

/-- Runs of code points and their combining class; 0 is no class. -/
def combiningRuns : String := "
  768 0 21 230 1 232 4 220 1 232 1 216 5 220 2 202 4 220 2 202 11 220 5 1 4 220 8 230 1 240 1 230
  3 220 3 230 2 220 1 0 3 230 4 220 1 230 1 232 2 220 1 230 1 233 2 234 1 233 2 234 1 233 13 230
  275 0 5 230 265 0 1 220 4 230 1 220 3 230 1 222 1 220 6 230 6 220 2 230 1 220 2 230 1 222 1 228
  1 230 1 10 1 11 1 12 1 13 1 14 1 15 1 16 1 17 1 18 2 19 1 20 1 21 1 22 1 0 1 23 1 0 1 24 1 25 1
  0 1 230 1 220 1 0 1 18 72 0 8 230 1 30 1 31 1 32 48 0 1 27 1 28 1 29 1 30 1 31 1 32 1 33 1 34 2
  230 2 220 5 230 1 220 2 230 1 220 16 0 1 35 101 0 7 230 2 0 4 230 1 220 1 230 2 0 2 230 1 0 1
  220 2 230 1 220 35 0 1 36 30 0 1 230 1 220 2 230 1 220 2 230 3 220 1 230 2 220 1 230 1 220 3 230
  1 220 1 230 1 220 1 230 1 220 1 230 1 220 2 230 160 0 7 230 1 220 1 230 9 0 1 220 24 0 4 230 1 0
  9 230 1 0 3 230 1 0 5 230 43 0 3 220 60 0 1 230 3 220 4 230 42 0 5 230 5 220 14 230 1 0 1 220 2
  230 1 220 2 230 1 220 3 230 3 220 1 27 1 28 1 29 3 230 1 220 2 230 2 220 5 230 60 0 1 7 16 0 1 9
  3 0 1 230 1 220 2 230 103 0 1 7 16 0 1 9 48 0 1 230 61 0 1 7 16 0 1 9 110 0 1 7 16 0 1 9 110 0 1
  7 16 0 1 9 127 0 1 9 110 0 1 7 16 0 1 9 7 0 1 84 1 91 101 0 1 7 16 0 1 9 109 0 2 9 16 0 1 9 124
  0 1 9 109 0 2 103 1 9 13 0 4 107 108 0 2 118 1 9 13 0 4 122 76 0 2 220 27 0 1 220 1 0 1 220 1 0
  1 216 55 0 1 129 1 130 1 0 1 132 5 0 4 130 2 0 1 130 1 0 2 230 1 9 1 0 2 230 62 0 1 220 112 0 1
  7 1 0 2 9 82 0 1 220 719 0 3 230 948 0 2 9 30 0 1 9 157 0 1 9 10 0 1 230 203 0 1 228 143 0 1 222
  1 230 1 220 219 0 1 230 1 220 71 0 1 9 20 0 8 230 2 0 1 220 48 0 5 230 6 220 2 230 1 220 1 0 2
  220 2 230 2 220 5 230 1 220 4 230 101 0 1 7 15 0 1 9 38 0 1 230 1 220 7 230 54 0 2 9 58 0 1 7 11
  0 2 9 67 0 1 7 152 0 3 230 1 0 1 1 5 220 2 230 4 220 1 230 1 0 7 1 4 0 1 220 6 0 1 230 3 0 2 230
  198 0 2 230 1 220 7 230 1 220 2 230 1 234 1 214 1 220 1 202 37 230 1 232 2 228 1 220 1 218 1 230
  1 233 1 220 1 230 1 220 720 0 2 230 2 1 4 230 3 1 2 230 4 0 1 230 3 0 2 1 1 230 1 220 1 230 2 1
  4 220 1 230 3070 0 3 230 141 0 1 9 96 0 32 230 554 0 1 218 1 228 1 232 1 222 2 224 105 0 2 8
  30164 0 1 230 4 0 10 230 32 0 2 230 80 0 2 230 276 0 1 9 37 0 1 9 151 0 1 9 27 0 18 230 57 0 3
  220 37 0 1 9 95 0 1 7 12 0 1 9 239 0 1 230 1 0 2 230 1 220 2 0 2 230 5 0 2 230 1 0 1 230 52 0 1
  9 246 0 1 9 20272 0 1 26 769 0 7 230 7 220 2 230 973 0 1 220 226 0 1 220 149 0 5 230 1682 0 1
  220 1 0 1 230 40 0 1 230 1 1 1 220 4 0 1 9 165 0 1 230 1 220 573 0 4 230 387 0 2 230 153 0 2 220
  3 230 1 220 1 230 4 220 49 0 1 230 1 220 1 230 1 220 192 0 1 9 41 0 1 9 14 0 1 9 57 0 1 9 1 7 69
  0 3 230 48 0 2 9 62 0 1 7 76 0 1 9 9 0 1 7 106 0 1 9 1 7 178 0 1 7 1 9 80 0 2 7 16 0 1 9 24 0 7
  230 3 0 5 230 205 0 1 9 3 0 1 7 23 0 1 230 99 0 1 9 1 7 251 0 1 9 1 7 126 0 1 9 118 0 1 9 1 7
  115 0 1 9 269 0 1 9 1 7 258 0 2 9 4 0 1 7 156 0 1 9 83 0 1 9 18 0 1 9 81 0 1 9 421 0 1 9 258 0 1
  7 1 0 2 9 81 0 1 9 19800 0 5 1 59 0 7 230 1209 0 2 6 19628 0 1 1 5318 0 2 216 3 1 3 0 1 226 5
  216 8 0 8 220 2 0 5 230 2 220 30 0 4 230 148 0 3 230 3515 0 7 230 1 0 17 230 2 0 7 230 1 0 2 230
  1 0 5 230 261 0 7 230 375 0 1 230 61 0 4 230 1504 0 7 220 109 0 6 230 1 7 988853 0"

/-- Characters and what they are equivalent to. An entry is the distance from the entry before, a kind,
and one character or two: kind 1 has one, kind 2 has two that make up the character again, and kind 3 has
two that do not. -/
def decompositionEntries : String := "
  192 2 65 768 1 2 65 769 1 2 65 770 1 2 65 771 1 2 65 776 1 2 65 778 2 2 67 807 1 2 69 768 1 2 69
  769 1 2 69 770 1 2 69 776 1 2 73 768 1 2 73 769 1 2 73 770 1 2 73 776 2 2 78 771 1 2 79 768 1 2
  79 769 1 2 79 770 1 2 79 771 1 2 79 776 3 2 85 768 1 2 85 769 1 2 85 770 1 2 85 776 1 2 89 769 3
  2 97 768 1 2 97 769 1 2 97 770 1 2 97 771 1 2 97 776 1 2 97 778 2 2 99 807 1 2 101 768 1 2 101
  769 1 2 101 770 1 2 101 776 1 2 105 768 1 2 105 769 1 2 105 770 1 2 105 776 2 2 110 771 1 2 111
  768 1 2 111 769 1 2 111 770 1 2 111 771 1 2 111 776 3 2 117 768 1 2 117 769 1 2 117 770 1 2 117
  776 1 2 121 769 2 2 121 776 1 2 65 772 1 2 97 772 1 2 65 774 1 2 97 774 1 2 65 808 1 2 97 808 1
  2 67 769 1 2 99 769 1 2 67 770 1 2 99 770 1 2 67 775 1 2 99 775 1 2 67 780 1 2 99 780 1 2 68 780
  1 2 100 780 3 2 69 772 1 2 101 772 1 2 69 774 1 2 101 774 1 2 69 775 1 2 101 775 1 2 69 808 1 2
  101 808 1 2 69 780 1 2 101 780 1 2 71 770 1 2 103 770 1 2 71 774 1 2 103 774 1 2 71 775 1 2 103
  775 1 2 71 807 1 2 103 807 1 2 72 770 1 2 104 770 3 2 73 771 1 2 105 771 1 2 73 772 1 2 105 772
  1 2 73 774 1 2 105 774 1 2 73 808 1 2 105 808 1 2 73 775 4 2 74 770 1 2 106 770 1 2 75 807 1 2
  107 807 2 2 76 769 1 2 108 769 1 2 76 807 1 2 108 807 1 2 76 780 1 2 108 780 5 2 78 769 1 2 110
  769 1 2 78 807 1 2 110 807 1 2 78 780 1 2 110 780 4 2 79 772 1 2 111 772 1 2 79 774 1 2 111 774
  1 2 79 779 1 2 111 779 3 2 82 769 1 2 114 769 1 2 82 807 1 2 114 807 1 2 82 780 1 2 114 780 1 2
  83 769 1 2 115 769 1 2 83 770 1 2 115 770 1 2 83 807 1 2 115 807 1 2 83 780 1 2 115 780 1 2 84
  807 1 2 116 807 1 2 84 780 1 2 116 780 3 2 85 771 1 2 117 771 1 2 85 772 1 2 117 772 1 2 85 774
  1 2 117 774 1 2 85 778 1 2 117 778 1 2 85 779 1 2 117 779 1 2 85 808 1 2 117 808 1 2 87 770 1 2
  119 770 1 2 89 770 1 2 121 770 1 2 89 776 1 2 90 769 1 2 122 769 1 2 90 775 1 2 122 775 1 2 90
  780 1 2 122 780 34 2 79 795 1 2 111 795 14 2 85 795 1 2 117 795 29 2 65 780 1 2 97 780 1 2 73
  780 1 2 105 780 1 2 79 780 1 2 111 780 1 2 85 780 1 2 117 780 1 2 220 772 1 2 252 772 1 2 220
  769 1 2 252 769 1 2 220 780 1 2 252 780 1 2 220 768 1 2 252 768 2 2 196 772 1 2 228 772 1 2 550
  772 1 2 551 772 1 2 198 772 1 2 230 772 3 2 71 780 1 2 103 780 1 2 75 780 1 2 107 780 1 2 79 808
  1 2 111 808 1 2 490 772 1 2 491 772 1 2 439 780 1 2 658 780 1 2 106 780 4 2 71 769 1 2 103 769 3
  2 78 768 1 2 110 768 1 2 197 769 1 2 229 769 1 2 198 769 1 2 230 769 1 2 216 769 1 2 248 769 1 2
  65 783 1 2 97 783 1 2 65 785 1 2 97 785 1 2 69 783 1 2 101 783 1 2 69 785 1 2 101 785 1 2 73 783
  1 2 105 783 1 2 73 785 1 2 105 785 1 2 79 783 1 2 111 783 1 2 79 785 1 2 111 785 1 2 82 783 1 2
  114 783 1 2 82 785 1 2 114 785 1 2 85 783 1 2 117 783 1 2 85 785 1 2 117 785 1 2 83 806 1 2 115
  806 1 2 84 806 1 2 116 806 3 2 72 780 1 2 104 780 7 2 65 775 1 2 97 775 1 2 69 807 1 2 101 807 1
  2 214 772 1 2 246 772 1 2 213 772 1 2 245 772 1 2 79 775 1 2 111 775 1 2 558 772 1 2 559 772 1 2
  89 772 1 2 121 772 269 1 768 1 1 769 2 1 787 1 3 776 769 48 1 697 10 1 59 7 2 168 769 1 2 913
  769 1 1 183 1 2 917 769 1 2 919 769 1 2 921 769 2 2 927 769 2 2 933 769 1 2 937 769 1 2 970 769
  26 2 921 776 1 2 933 776 1 2 945 769 1 2 949 769 1 2 951 769 1 2 953 769 1 2 971 769 26 2 953
  776 1 2 965 776 1 2 959 769 1 2 965 769 1 2 969 769 5 2 978 769 1 2 978 776 44 2 1045 768 1 2
  1045 776 2 2 1043 769 4 2 1030 776 5 2 1050 769 1 2 1048 768 1 2 1059 774 11 2 1048 774 32 2
  1080 774 23 2 1077 768 1 2 1077 776 2 2 1075 769 4 2 1110 776 5 2 1082 769 1 2 1080 768 1 2 1091
  774 24 2 1140 783 1 2 1141 783 74 2 1046 774 1 2 1078 774 14 2 1040 774 1 2 1072 774 1 2 1040
  776 1 2 1072 776 3 2 1045 774 1 2 1077 774 3 2 1240 776 1 2 1241 776 1 2 1046 776 1 2 1078 776 1
  2 1047 776 1 2 1079 776 3 2 1048 772 1 2 1080 772 1 2 1048 776 1 2 1080 776 1 2 1054 776 1 2
  1086 776 3 2 1256 776 1 2 1257 776 1 2 1069 776 1 2 1101 776 1 2 1059 772 1 2 1091 772 1 2 1059
  776 1 2 1091 776 1 2 1059 779 1 2 1091 779 1 2 1063 776 1 2 1095 776 3 2 1067 776 1 2 1099 776
  297 2 1575 1619 1 2 1575 1620 1 2 1608 1620 1 2 1575 1621 1 2 1610 1620 154 2 1749 1620 2 2 1729
  1620 17 2 1746 1620 598 2 2344 2364 8 2 2352 2364 3 2 2355 2364 36 3 2325 2364 1 3 2326 2364 1 3
  2327 2364 1 3 2332 2364 1 3 2337 2364 1 3 2338 2364 1 3 2347 2364 1 3 2351 2364 108 2 2503 2494
  1 2 2503 2519 16 3 2465 2492 1 3 2466 2492 2 3 2479 2492 84 3 2610 2620 3 3 2616 2620 35 3 2582
  2620 1 3 2583 2620 1 3 2588 2620 3 3 2603 2620 234 2 2887 2902 3 2 2887 2878 1 2 2887 2903 16 3
  2849 2876 1 3 2850 2876 55 2 2962 3031 54 2 3014 3006 1 2 3015 3006 1 2 3014 3031 124 2 3142
  3158 120 2 3263 3285 7 2 3270 3285 1 2 3270 3286 2 2 3270 3266 1 2 3274 3285 127 2 3398 3390 1 2
  3399 3390 1 2 3398 3415 142 2 3545 3530 2 2 3545 3535 1 2 3548 3530 1 2 3545 3551 357 3 3906
  4023 10 3 3916 4023 5 3 3921 4023 5 3 3926 4023 5 3 3931 4023 13 3 3904 4021 10 3 3953 3954 2 3
  3953 3956 1 3 4018 3968 2 3 4019 3968 9 3 3953 3968 18 3 3986 4023 10 3 3996 4023 5 3 4001 4023
  5 3 4006 4023 5 3 4011 4023 13 3 3984 4021 109 2 4133 4142 2784 2 6917 6965 2 2 6919 6965 2 2
  6921 6965 2 2 6923 6965 2 2 6925 6965 4 2 6929 6965 41 2 6970 6965 2 2 6972 6965 3 2 6974 6965 1
  2 6975 6965 2 2 6978 6965 701 2 65 805 1 2 97 805 1 2 66 775 1 2 98 775 1 2 66 803 1 2 98 803 1
  2 66 817 1 2 98 817 1 2 199 769 1 2 231 769 1 2 68 775 1 2 100 775 1 2 68 803 1 2 100 803 1 2 68
  817 1 2 100 817 1 2 68 807 1 2 100 807 1 2 68 813 1 2 100 813 1 2 274 768 1 2 275 768 1 2 274
  769 1 2 275 769 1 2 69 813 1 2 101 813 1 2 69 816 1 2 101 816 1 2 552 774 1 2 553 774 1 2 70 775
  1 2 102 775 1 2 71 772 1 2 103 772 1 2 72 775 1 2 104 775 1 2 72 803 1 2 104 803 1 2 72 776 1 2
  104 776 1 2 72 807 1 2 104 807 1 2 72 814 1 2 104 814 1 2 73 816 1 2 105 816 1 2 207 769 1 2 239
  769 1 2 75 769 1 2 107 769 1 2 75 803 1 2 107 803 1 2 75 817 1 2 107 817 1 2 76 803 1 2 108 803
  1 2 7734 772 1 2 7735 772 1 2 76 817 1 2 108 817 1 2 76 813 1 2 108 813 1 2 77 769 1 2 109 769 1
  2 77 775 1 2 109 775 1 2 77 803 1 2 109 803 1 2 78 775 1 2 110 775 1 2 78 803 1 2 110 803 1 2 78
  817 1 2 110 817 1 2 78 813 1 2 110 813 1 2 213 769 1 2 245 769 1 2 213 776 1 2 245 776 1 2 332
  768 1 2 333 768 1 2 332 769 1 2 333 769 1 2 80 769 1 2 112 769 1 2 80 775 1 2 112 775 1 2 82 775
  1 2 114 775 1 2 82 803 1 2 114 803 1 2 7770 772 1 2 7771 772 1 2 82 817 1 2 114 817 1 2 83 775 1
  2 115 775 1 2 83 803 1 2 115 803 1 2 346 775 1 2 347 775 1 2 352 775 1 2 353 775 1 2 7778 775 1
  2 7779 775 1 2 84 775 1 2 116 775 1 2 84 803 1 2 116 803 1 2 84 817 1 2 116 817 1 2 84 813 1 2
  116 813 1 2 85 804 1 2 117 804 1 2 85 816 1 2 117 816 1 2 85 813 1 2 117 813 1 2 360 769 1 2 361
  769 1 2 362 776 1 2 363 776 1 2 86 771 1 2 118 771 1 2 86 803 1 2 118 803 1 2 87 768 1 2 119 768
  1 2 87 769 1 2 119 769 1 2 87 776 1 2 119 776 1 2 87 775 1 2 119 775 1 2 87 803 1 2 119 803 1 2
  88 775 1 2 120 775 1 2 88 776 1 2 120 776 1 2 89 775 1 2 121 775 1 2 90 770 1 2 122 770 1 2 90
  803 1 2 122 803 1 2 90 817 1 2 122 817 1 2 104 817 1 2 116 776 1 2 119 778 1 2 121 778 2 2 383
  775 5 2 65 803 1 2 97 803 1 2 65 777 1 2 97 777 1 2 194 769 1 2 226 769 1 2 194 768 1 2 226 768
  1 2 194 777 1 2 226 777 1 2 194 771 1 2 226 771 1 2 7840 770 1 2 7841 770 1 2 258 769 1 2 259
  769 1 2 258 768 1 2 259 768 1 2 258 777 1 2 259 777 1 2 258 771 1 2 259 771 1 2 7840 774 1 2
  7841 774 1 2 69 803 1 2 101 803 1 2 69 777 1 2 101 777 1 2 69 771 1 2 101 771 1 2 202 769 1 2
  234 769 1 2 202 768 1 2 234 768 1 2 202 777 1 2 234 777 1 2 202 771 1 2 234 771 1 2 7864 770 1 2
  7865 770 1 2 73 777 1 2 105 777 1 2 73 803 1 2 105 803 1 2 79 803 1 2 111 803 1 2 79 777 1 2 111
  777 1 2 212 769 1 2 244 769 1 2 212 768 1 2 244 768 1 2 212 777 1 2 244 777 1 2 212 771 1 2 244
  771 1 2 7884 770 1 2 7885 770 1 2 416 769 1 2 417 769 1 2 416 768 1 2 417 768 1 2 416 777 1 2
  417 777 1 2 416 771 1 2 417 771 1 2 416 803 1 2 417 803 1 2 85 803 1 2 117 803 1 2 85 777 1 2
  117 777 1 2 431 769 1 2 432 769 1 2 431 768 1 2 432 768 1 2 431 777 1 2 432 777 1 2 431 771 1 2
  432 771 1 2 431 803 1 2 432 803 1 2 89 768 1 2 121 768 1 2 89 803 1 2 121 803 1 2 89 777 1 2 121
  777 1 2 89 771 1 2 121 771 7 2 945 787 1 2 945 788 1 2 7936 768 1 2 7937 768 1 2 7936 769 1 2
  7937 769 1 2 7936 834 1 2 7937 834 1 2 913 787 1 2 913 788 1 2 7944 768 1 2 7945 768 1 2 7944
  769 1 2 7945 769 1 2 7944 834 1 2 7945 834 1 2 949 787 1 2 949 788 1 2 7952 768 1 2 7953 768 1 2
  7952 769 1 2 7953 769 3 2 917 787 1 2 917 788 1 2 7960 768 1 2 7961 768 1 2 7960 769 1 2 7961
  769 3 2 951 787 1 2 951 788 1 2 7968 768 1 2 7969 768 1 2 7968 769 1 2 7969 769 1 2 7968 834 1 2
  7969 834 1 2 919 787 1 2 919 788 1 2 7976 768 1 2 7977 768 1 2 7976 769 1 2 7977 769 1 2 7976
  834 1 2 7977 834 1 2 953 787 1 2 953 788 1 2 7984 768 1 2 7985 768 1 2 7984 769 1 2 7985 769 1 2
  7984 834 1 2 7985 834 1 2 921 787 1 2 921 788 1 2 7992 768 1 2 7993 768 1 2 7992 769 1 2 7993
  769 1 2 7992 834 1 2 7993 834 1 2 959 787 1 2 959 788 1 2 8000 768 1 2 8001 768 1 2 8000 769 1 2
  8001 769 3 2 927 787 1 2 927 788 1 2 8008 768 1 2 8009 768 1 2 8008 769 1 2 8009 769 3 2 965 787
  1 2 965 788 1 2 8016 768 1 2 8017 768 1 2 8016 769 1 2 8017 769 1 2 8016 834 1 2 8017 834 2 2
  933 788 2 2 8025 768 2 2 8025 769 2 2 8025 834 1 2 969 787 1 2 969 788 1 2 8032 768 1 2 8033 768
  1 2 8032 769 1 2 8033 769 1 2 8032 834 1 2 8033 834 1 2 937 787 1 2 937 788 1 2 8040 768 1 2
  8041 768 1 2 8040 769 1 2 8041 769 1 2 8040 834 1 2 8041 834 1 2 945 768 1 1 940 1 2 949 768 1 1
  941 1 2 951 768 1 1 942 1 2 953 768 1 1 943 1 2 959 768 1 1 972 1 2 965 768 1 1 973 1 2 969 768
  1 1 974 3 2 7936 837 1 2 7937 837 1 2 7938 837 1 2 7939 837 1 2 7940 837 1 2 7941 837 1 2 7942
  837 1 2 7943 837 1 2 7944 837 1 2 7945 837 1 2 7946 837 1 2 7947 837 1 2 7948 837 1 2 7949 837 1
  2 7950 837 1 2 7951 837 1 2 7968 837 1 2 7969 837 1 2 7970 837 1 2 7971 837 1 2 7972 837 1 2
  7973 837 1 2 7974 837 1 2 7975 837 1 2 7976 837 1 2 7977 837 1 2 7978 837 1 2 7979 837 1 2 7980
  837 1 2 7981 837 1 2 7982 837 1 2 7983 837 1 2 8032 837 1 2 8033 837 1 2 8034 837 1 2 8035 837 1
  2 8036 837 1 2 8037 837 1 2 8038 837 1 2 8039 837 1 2 8040 837 1 2 8041 837 1 2 8042 837 1 2
  8043 837 1 2 8044 837 1 2 8045 837 1 2 8046 837 1 2 8047 837 1 2 945 774 1 2 945 772 1 2 8048
  837 1 2 945 837 1 2 940 837 2 2 945 834 1 2 8118 837 1 2 913 774 1 2 913 772 1 2 913 768 1 1 902
  1 2 913 837 2 1 953 3 2 168 834 1 2 8052 837 1 2 951 837 1 2 942 837 2 2 951 834 1 2 8134 837 1
  2 917 768 1 1 904 1 2 919 768 1 1 905 1 2 919 837 1 2 8127 768 1 2 8127 769 1 2 8127 834 1 2 953
  774 1 2 953 772 1 2 970 768 1 1 912 3 2 953 834 1 2 970 834 1 2 921 774 1 2 921 772 1 2 921 768
  1 1 906 2 2 8190 768 1 2 8190 769 1 2 8190 834 1 2 965 774 1 2 965 772 1 2 971 768 1 1 944 1 2
  961 787 1 2 961 788 1 2 965 834 1 2 971 834 1 2 933 774 1 2 933 772 1 2 933 768 1 1 910 1 2 929
  788 1 2 168 768 1 1 901 1 1 96 3 2 8060 837 1 2 969 837 1 2 974 837 2 2 969 834 1 2 8182 837 1 2
  927 768 1 1 908 1 2 937 768 1 1 911 1 2 937 837 1 1 180 3 1 8194 1 1 8195 293 1 937 4 1 75 1 1
  197 111 2 8592 824 1 2 8594 824 19 2 8596 824 31 2 8656 824 1 2 8660 824 1 2 8658 824 53 2 8707
  824 5 2 8712 824 3 2 8715 824 24 2 8739 824 2 2 8741 824 27 2 8764 824 3 2 8771 824 3 2 8773 824
  2 2 8776 824 23 2 61 824 2 2 8801 824 11 2 8781 824 1 2 60 824 1 2 62 824 1 2 8804 824 1 2 8805
  824 3 2 8818 824 1 2 8819 824 3 2 8822 824 1 2 8823 824 7 2 8826 824 1 2 8827 824 3 2 8834 824 1
  2 8835 824 3 2 8838 824 1 2 8839 824 35 2 8866 824 1 2 8872 824 1 2 8873 824 1 2 8875 824 49 2
  8828 824 1 2 8829 824 1 2 8849 824 1 2 8850 824 7 2 8882 824 1 2 8883 824 1 2 8884 824 1 2 8885
  824 60 1 12296 1 1 12297 1970 3 10973 824 1392 2 12363 12441 2 2 12365 12441 2 2 12367 12441 2 2
  12369 12441 2 2 12371 12441 2 2 12373 12441 2 2 12375 12441 2 2 12377 12441 2 2 12379 12441 2 2
  12381 12441 2 2 12383 12441 2 2 12385 12441 3 2 12388 12441 2 2 12390 12441 2 2 12392 12441 7 2
  12399 12441 1 2 12399 12442 2 2 12402 12441 1 2 12402 12442 2 2 12405 12441 1 2 12405 12442 2 2
  12408 12441 1 2 12408 12442 2 2 12411 12441 1 2 12411 12442 23 2 12358 12441 10 2 12445 12441 14
  2 12459 12441 2 2 12461 12441 2 2 12463 12441 2 2 12465 12441 2 2 12467 12441 2 2 12469 12441 2
  2 12471 12441 2 2 12473 12441 2 2 12475 12441 2 2 12477 12441 2 2 12479 12441 2 2 12481 12441 3
  2 12484 12441 2 2 12486 12441 2 2 12488 12441 7 2 12495 12441 1 2 12495 12442 2 2 12498 12441 1
  2 12498 12442 2 2 12501 12441 1 2 12501 12442 2 2 12504 12441 1 2 12504 12442 2 2 12507 12441 1
  2 12507 12442 23 2 12454 12441 3 2 12527 12441 1 2 12528 12441 1 2 12529 12441 1 2 12530 12441 4
  2 12541 12441 51202 1 35912 1 1 26356 1 1 36554 1 1 36040 1 1 28369 1 1 20018 1 1 21477 1 1
  40860 1 1 40860 1 1 22865 1 1 37329 1 1 21895 1 1 22856 1 1 25078 1 1 30313 1 1 32645 1 1 34367
  1 1 34746 1 1 35064 1 1 37007 1 1 27138 1 1 27931 1 1 28889 1 1 29662 1 1 33853 1 1 37226 1 1
  39409 1 1 20098 1 1 21365 1 1 27396 1 1 29211 1 1 34349 1 1 40478 1 1 23888 1 1 28651 1 1 34253
  1 1 35172 1 1 25289 1 1 33240 1 1 34847 1 1 24266 1 1 26391 1 1 28010 1 1 29436 1 1 37070 1 1
  20358 1 1 20919 1 1 21214 1 1 25796 1 1 27347 1 1 29200 1 1 30439 1 1 32769 1 1 34310 1 1 34396
  1 1 36335 1 1 38706 1 1 39791 1 1 40442 1 1 30860 1 1 31103 1 1 32160 1 1 33737 1 1 37636 1 1
  40575 1 1 35542 1 1 22751 1 1 24324 1 1 31840 1 1 32894 1 1 29282 1 1 30922 1 1 36034 1 1 38647
  1 1 22744 1 1 23650 1 1 27155 1 1 28122 1 1 28431 1 1 32047 1 1 32311 1 1 38475 1 1 21202 1 1
  32907 1 1 20956 1 1 20940 1 1 31260 1 1 32190 1 1 33777 1 1 38517 1 1 35712 1 1 25295 1 1 27138
  1 1 35582 1 1 20025 1 1 23527 1 1 24594 1 1 29575 1 1 30064 1 1 21271 1 1 30971 1 1 20415 1 1
  24489 1 1 19981 1 1 27852 1 1 25976 1 1 32034 1 1 21443 1 1 22622 1 1 30465 1 1 33865 1 1 35498
  1 1 27578 1 1 36784 1 1 27784 1 1 25342 1 1 33509 1 1 25504 1 1 30053 1 1 20142 1 1 20841 1 1
  20937 1 1 26753 1 1 31975 1 1 33391 1 1 35538 1 1 37327 1 1 21237 1 1 21570 1 1 22899 1 1 24300
  1 1 26053 1 1 28670 1 1 31018 1 1 38317 1 1 39530 1 1 40599 1 1 40654 1 1 21147 1 1 26310 1 1
  27511 1 1 36706 1 1 24180 1 1 24976 1 1 25088 1 1 25754 1 1 28451 1 1 29001 1 1 29833 1 1 31178
  1 1 32244 1 1 32879 1 1 36646 1 1 34030 1 1 36899 1 1 37706 1 1 21015 1 1 21155 1 1 21693 1 1
  28872 1 1 35010 1 1 35498 1 1 24265 1 1 24565 1 1 25467 1 1 27566 1 1 31806 1 1 29557 1 1 20196
  1 1 22265 1 1 23527 1 1 23994 1 1 24604 1 1 29618 1 1 29801 1 1 32666 1 1 32838 1 1 37428 1 1
  38646 1 1 38728 1 1 38936 1 1 20363 1 1 31150 1 1 37300 1 1 38584 1 1 24801 1 1 20102 1 1 20698
  1 1 23534 1 1 23615 1 1 26009 1 1 27138 1 1 29134 1 1 30274 1 1 34044 1 1 36988 1 1 40845 1 1
  26248 1 1 38446 1 1 21129 1 1 26491 1 1 26611 1 1 27969 1 1 28316 1 1 29705 1 1 30041 1 1 30827
  1 1 32016 1 1 39006 1 1 20845 1 1 25134 1 1 38520 1 1 20523 1 1 23833 1 1 28138 1 1 36650 1 1
  24459 1 1 24900 1 1 26647 1 1 29575 1 1 38534 1 1 21033 1 1 21519 1 1 23653 1 1 26131 1 1 26446
  1 1 26792 1 1 27877 1 1 29702 1 1 30178 1 1 32633 1 1 35023 1 1 35041 1 1 37324 1 1 38626 1 1
  21311 1 1 28346 1 1 21533 1 1 29136 1 1 29848 1 1 34298 1 1 38563 1 1 40023 1 1 40607 1 1 26519
  1 1 28107 1 1 33256 1 1 31435 1 1 31520 1 1 31890 1 1 29376 1 1 28825 1 1 35672 1 1 20160 1 1
  33590 1 1 21050 1 1 20999 1 1 24230 1 1 25299 1 1 31958 1 1 23429 1 1 27934 1 1 26292 1 1 36667
  1 1 34892 1 1 38477 1 1 35211 1 1 24275 1 1 20800 1 1 21952 3 1 22618 2 1 26228 3 1 20958 1 1
  29482 1 1 30410 1 1 31036 1 1 31070 1 1 31077 1 1 31119 1 1 38742 1 1 31934 1 1 32701 2 1 34322
  2 1 35576 3 1 36920 1 1 37117 4 1 39151 1 1 39164 1 1 39208 1 1 40372 1 1 37086 1 1 38583 1 1
  20398 1 1 20711 1 1 20813 1 1 21193 1 1 21220 1 1 21329 1 1 21917 1 1 22022 1 1 22120 1 1 22592
  1 1 22696 1 1 23652 1 1 23662 1 1 24724 1 1 24936 1 1 24974 1 1 25074 1 1 25935 1 1 26082 1 1
  26257 1 1 26757 1 1 28023 1 1 28186 1 1 28450 1 1 29038 1 1 29227 1 1 29730 1 1 30865 1 1 31038
  1 1 31049 1 1 31048 1 1 31056 1 1 31062 1 1 31069 1 1 31117 1 1 31118 1 1 31296 1 1 31361 1 1
  31680 1 1 32244 1 1 32265 1 1 32321 1 1 32626 1 1 32773 1 1 33261 1 1 33401 1 1 33401 1 1 33879
  1 1 35088 1 1 35222 1 1 35585 1 1 35641 1 1 36051 1 1 36104 1 1 36790 1 1 36920 1 1 38627 1 1
  38911 1 1 38971 1 1 24693 1 1 148206 1 1 33304 3 1 20006 1 1 20917 1 1 20840 1 1 20352 1 1 20805
  1 1 20864 1 1 21191 1 1 21242 1 1 21917 1 1 21845 1 1 21913 1 1 21986 1 1 22618 1 1 22707 1 1
  22852 1 1 22868 1 1 23138 1 1 23336 1 1 24274 1 1 24281 1 1 24425 1 1 24493 1 1 24792 1 1 24910
  1 1 24840 1 1 24974 1 1 24928 1 1 25074 1 1 25140 1 1 25540 1 1 25628 1 1 25682 1 1 25942 1 1
  26228 1 1 26391 1 1 26395 1 1 26454 1 1 27513 1 1 27578 1 1 27969 1 1 28379 1 1 28363 1 1 28450
  1 1 28702 1 1 29038 1 1 30631 1 1 29237 1 1 29359 1 1 29482 1 1 29809 1 1 29958 1 1 30011 1 1
  30237 1 1 30239 1 1 30410 1 1 30427 1 1 30452 1 1 30538 1 1 30528 1 1 30924 1 1 31409 1 1 31680
  1 1 31867 1 1 32091 1 1 32244 1 1 32574 1 1 32773 1 1 33618 1 1 33775 1 1 34681 1 1 35137 1 1
  35206 1 1 35222 1 1 35519 1 1 35576 1 1 35531 1 1 35585 1 1 35582 1 1 35565 1 1 35641 1 1 35722
  1 1 36104 1 1 36664 1 1 36978 1 1 37273 1 1 37494 1 1 38524 1 1 38627 1 1 38742 1 1 38875 1 1
  38911 1 1 38923 1 1 38971 1 1 39698 1 1 40860 1 1 141386 1 1 141380 1 1 144341 1 1 15261 1 1
  16408 1 1 16441 1 1 152137 1 1 154832 1 1 163539 1 1 40771 1 1 40846 68 3 1497 1460 2 3 1522
  1463 11 3 1513 1473 1 3 1513 1474 1 3 64329 1473 1 3 64329 1474 1 3 1488 1463 1 3 1488 1464 1 3
  1488 1468 1 3 1489 1468 1 3 1490 1468 1 3 1491 1468 1 3 1492 1468 1 3 1493 1468 1 3 1494 1468 2
  3 1496 1468 1 3 1497 1468 1 3 1498 1468 1 3 1499 1468 1 3 1500 1468 2 3 1502 1468 2 3 1504 1468
  1 3 1505 1468 2 3 1507 1468 1 3 1508 1468 2 3 1510 1468 1 3 1511 1468 1 3 1512 1468 1 3 1513
  1468 1 3 1514 1468 1 3 1493 1465 1 3 1489 1471 1 3 1499 1471 1 3 1508 1471 5452 2 69785 69818 2
  2 69787 69818 15 2 69797 69818 131 2 69937 69927 1 2 69938 69927 540 2 70471 70462 1 2 70471
  70487 367 2 70841 70842 1 2 70841 70832 2 2 70841 70845 252 2 71096 71087 1 2 71097 71087 893 2
  71989 71984 47142 3 119127 119141 1 3 119128 119141 1 3 119135 119150 1 3 119135 119151 1 3
  119135 119152 1 3 119135 119153 1 3 119135 119154 87 3 119225 119141 1 3 119226 119141 1 3
  119227 119150 1 3 119228 119150 1 3 119227 119151 1 3 119228 119151 75328 1 20029 1 1 20024 1 1
  20033 1 1 131362 1 1 20320 1 1 20398 1 1 20411 1 1 20482 1 1 20602 1 1 20633 1 1 20711 1 1 20687
  1 1 13470 1 1 132666 1 1 20813 1 1 20820 1 1 20836 1 1 20855 1 1 132380 1 1 13497 1 1 20839 1 1
  20877 1 1 132427 1 1 20887 1 1 20900 1 1 20172 1 1 20908 1 1 20917 1 1 168415 1 1 20981 1 1
  20995 1 1 13535 1 1 21051 1 1 21062 1 1 21106 1 1 21111 1 1 13589 1 1 21191 1 1 21193 1 1 21220
  1 1 21242 1 1 21253 1 1 21254 1 1 21271 1 1 21321 1 1 21329 1 1 21338 1 1 21363 1 1 21373 1 1
  21375 1 1 21375 1 1 21375 1 1 133676 1 1 28784 1 1 21450 1 1 21471 1 1 133987 1 1 21483 1 1
  21489 1 1 21510 1 1 21662 1 1 21560 1 1 21576 1 1 21608 1 1 21666 1 1 21750 1 1 21776 1 1 21843
  1 1 21859 1 1 21892 1 1 21892 1 1 21913 1 1 21931 1 1 21939 1 1 21954 1 1 22294 1 1 22022 1 1
  22295 1 1 22097 1 1 22132 1 1 20999 1 1 22766 1 1 22478 1 1 22516 1 1 22541 1 1 22411 1 1 22578
  1 1 22577 1 1 22700 1 1 136420 1 1 22770 1 1 22775 1 1 22790 1 1 22810 1 1 22818 1 1 22882 1 1
  136872 1 1 136938 1 1 23020 1 1 23067 1 1 23079 1 1 23000 1 1 23142 1 1 14062 1 1 14076 1 1
  23304 1 1 23358 1 1 23358 1 1 137672 1 1 23491 1 1 23512 1 1 23527 1 1 23539 1 1 138008 1 1
  23551 1 1 23558 1 1 24403 1 1 23586 1 1 14209 1 1 23648 1 1 23662 1 1 23744 1 1 23693 1 1 138724
  1 1 23875 1 1 138726 1 1 23918 1 1 23915 1 1 23932 1 1 24033 1 1 24034 1 1 14383 1 1 24061 1 1
  24104 1 1 24125 1 1 24169 1 1 14434 1 1 139651 1 1 14460 1 1 24240 1 1 24243 1 1 24246 1 1 24266
  1 1 172946 1 1 24318 1 1 140081 1 1 140081 1 1 33281 1 1 24354 1 1 24354 1 1 14535 1 1 144056 1
  1 156122 1 1 24418 1 1 24427 1 1 14563 1 1 24474 1 1 24525 1 1 24535 1 1 24569 1 1 24705 1 1
  14650 1 1 14620 1 1 24724 1 1 141012 1 1 24775 1 1 24904 1 1 24908 1 1 24910 1 1 24908 1 1 24954
  1 1 24974 1 1 25010 1 1 24996 1 1 25007 1 1 25054 1 1 25074 1 1 25078 1 1 25104 1 1 25115 1 1
  25181 1 1 25265 1 1 25300 1 1 25424 1 1 142092 1 1 25405 1 1 25340 1 1 25448 1 1 25475 1 1 25572
  1 1 142321 1 1 25634 1 1 25541 1 1 25513 1 1 14894 1 1 25705 1 1 25726 1 1 25757 1 1 25719 1 1
  14956 1 1 25935 1 1 25964 1 1 143370 1 1 26083 1 1 26360 1 1 26185 1 1 15129 1 1 26257 1 1 15112
  1 1 15076 1 1 20882 1 1 20885 1 1 26368 1 1 26268 1 1 32941 1 1 17369 1 1 26391 1 1 26395 1 1
  26401 1 1 26462 1 1 26451 1 1 144323 1 1 15177 1 1 26618 1 1 26501 1 1 26706 1 1 26757 1 1
  144493 1 1 26766 1 1 26655 1 1 26900 1 1 15261 1 1 26946 1 1 27043 1 1 27114 1 1 27304 1 1
  145059 1 1 27355 1 1 15384 1 1 27425 1 1 145575 1 1 27476 1 1 15438 1 1 27506 1 1 27551 1 1
  27578 1 1 27579 1 1 146061 1 1 138507 1 1 146170 1 1 27726 1 1 146620 1 1 27839 1 1 27853 1 1
  27751 1 1 27926 1 1 27966 1 1 28023 1 1 27969 1 1 28009 1 1 28024 1 1 28037 1 1 146718 1 1 27956
  1 1 28207 1 1 28270 1 1 15667 1 1 28363 1 1 28359 1 1 147153 1 1 28153 1 1 28526 1 1 147294 1 1
  147342 1 1 28614 1 1 28729 1 1 28702 1 1 28699 1 1 15766 1 1 28746 1 1 28797 1 1 28791 1 1 28845
  1 1 132389 1 1 28997 1 1 148067 1 1 29084 1 1 148395 1 1 29224 1 1 29237 1 1 29264 1 1 149000 1
  1 29312 1 1 29333 1 1 149301 1 1 149524 1 1 29562 1 1 29579 1 1 16044 1 1 29605 1 1 16056 1 1
  16056 1 1 29767 1 1 29788 1 1 29809 1 1 29829 1 1 29898 1 1 16155 1 1 29988 1 1 150582 1 1 30014
  1 1 150674 1 1 30064 1 1 139679 1 1 30224 1 1 151457 1 1 151480 1 1 151620 1 1 16380 1 1 16392 1
  1 30452 1 1 151795 1 1 151794 1 1 151833 1 1 151859 1 1 30494 1 1 30495 1 1 30495 1 1 30538 1 1
  16441 1 1 30603 1 1 16454 1 1 16534 1 1 152605 1 1 30798 1 1 30860 1 1 30924 1 1 16611 1 1
  153126 1 1 31062 1 1 153242 1 1 153285 1 1 31119 1 1 31211 1 1 16687 1 1 31296 1 1 31306 1 1
  31311 1 1 153980 1 1 154279 1 1 154279 1 1 31470 1 1 16898 1 1 154539 1 1 31686 1 1 31689 1 1
  16935 1 1 154752 1 1 31954 1 1 17056 1 1 31976 1 1 31971 1 1 32000 1 1 155526 1 1 32099 1 1
  17153 1 1 32199 1 1 32258 1 1 32325 1 1 17204 1 1 156200 1 1 156231 1 1 17241 1 1 156377 1 1
  32634 1 1 156478 1 1 32661 1 1 32762 1 1 32773 1 1 156890 1 1 156963 1 1 32864 1 1 157096 1 1
  32880 1 1 144223 1 1 17365 1 1 32946 1 1 33027 1 1 17419 1 1 33086 1 1 23221 1 1 157607 1 1
  157621 1 1 144275 1 1 144284 1 1 33281 1 1 33284 1 1 36766 1 1 17515 1 1 33425 1 1 33419 1 1
  33437 1 1 21171 1 1 33457 1 1 33459 1 1 33469 1 1 33510 1 1 158524 1 1 33509 1 1 33565 1 1 33635
  1 1 33709 1 1 33571 1 1 33725 1 1 33767 1 1 33879 1 1 33619 1 1 33738 1 1 33740 1 1 33756 1 1
  158774 1 1 159083 1 1 158933 1 1 17707 1 1 34033 1 1 34035 1 1 34070 1 1 160714 1 1 34148 1 1
  159532 1 1 17757 1 1 17761 1 1 159665 1 1 159954 1 1 17771 1 1 34384 1 1 34396 1 1 34407 1 1
  34409 1 1 34473 1 1 34440 1 1 34574 1 1 34530 1 1 34681 1 1 34600 1 1 34667 1 1 34694 1 1 17879
  1 1 34785 1 1 34817 1 1 17913 1 1 34912 1 1 34915 1 1 161383 1 1 35031 1 1 35038 1 1 17973 1 1
  35066 1 1 13499 1 1 161966 1 1 162150 1 1 18110 1 1 18119 1 1 35488 1 1 35565 1 1 35722 1 1
  35925 1 1 162984 1 1 36011 1 1 36033 1 1 36123 1 1 36215 1 1 163631 1 1 133124 1 1 36299 1 1
  36284 1 1 36336 1 1 133342 1 1 36564 1 1 36664 1 1 165330 1 1 165357 1 1 37012 1 1 37105 1 1
  37137 1 1 165678 1 1 37147 1 1 37432 1 1 37591 1 1 37592 1 1 37500 1 1 37881 1 1 37909 1 1
  166906 1 1 38283 1 1 18837 1 1 38327 1 1 167287 1 1 18918 1 1 38595 1 1 23986 1 1 38691 1 1
  168261 1 1 168474 1 1 19054 1 1 19062 1 1 38880 1 1 168970 1 1 19122 1 1 169110 1 1 38923 1 1
  38923 1 1 38953 1 1 169398 1 1 39138 1 1 19251 1 1 39209 1 1 39335 1 1 39362 1 1 39422 1 1 19406
  1 1 170800 1 1 39698 1 1 40000 1 1 40189 1 1 19662 1 1 19693 1 1 40295 1 1 172238 1 1 19704 1 1
  172293 1 1 172558 1 1 172689 1 1 40635 1 1 19798 1 1 40697 1 1 40702 1 1 40709 1 1 40719 1 1
  40726 1 1 40763 1 1 173568"

/-- What a character is equivalent to. -/
structure Decomposition where
  parts : List Char
  /-- The parts make up the character again. -/
  recomposes : Bool

/-- Places entries one after the other from a code point on. -/
def placeEntries (before : Nat) : List Nat → List (Nat × Decomposition)
  | gap :: 1 :: a :: rest =>
    (before + gap, ⟨[Char.ofNat a], false⟩) :: placeEntries (before + gap) rest
  | gap :: kind :: a :: b :: rest =>
    (before + gap, ⟨[Char.ofNat a, Char.ofNat b], kind == 2⟩) :: placeEntries (before + gap) rest
  | _ => []

/-- The table of combining classes, ready for look-ups. -/
def combiningTable : RunTable Nat := .ofText combiningRuns

/-- The table of decompositions, ready for look-ups. -/
def decompositionTable : RunTable Decomposition :=
  ⟨(placeEntries 0 (RunTable.numbers decompositionEntries)).toArray⟩

/-- The pairs that make up another character, and that character. -/
def compositions : List ((Char × Char) × Char) :=
  decompositionTable.runs.toList.filterMap fun (code, d) =>
    match d.parts, d.recomposes with
    | [a, b], true => some ((a, b), Char.ofNat code)
    | _, _ => none

/-- The combining class of a character. -/
def combiningClass (c : Char) : Nat := if c.toNat < 0x80 then 0 else combiningTable.valueAt c

end Intake.Canonical
