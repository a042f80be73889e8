import Intake.Text.Composed

/-!
# Characters in domain names

Before a domain name is looked at, letters go to lower case, compatibility forms to what they are
compatible with, marks without a meaning of their own are dropped, and the whole is composed. Only
characters that Unicode 14 assigns are in the tables, and none that composing alone takes care of.
-/

namespace Intake.DomainName

/-- Several characters in a row, or every other one, that are mapped to characters in the same steps. -/
structure Shift where
  count : Nat
  stride : Nat
  target : Nat

/-- Rows of characters that are mapped alike: the distance from the row before, the number of characters,
their distance from one another, and what the first one is mapped to. -/
def shiftEntries : String := "
  65 26 1 97 113 2 1 50 14 23 1 224 24 7 1 248 40 24 2 257 52 2 2 309 5 3 2 314 8 4 2 322 9 23 2
  331 47 3 2 378 9 2 2 387 7 2 1 598 23 3 2 417 17 2 1 650 2 2 2 436 26 8 2 462 17 9 2 479 26 20 2
  505 42 9 2 547 36 5 2 583 298 2 2 881 24 3 1 941 6 2 1 973 3 17 1 945 18 9 1 963 53 12 2 985 37
  3 1 891 3 16 1 1104 16 32 1 1072 80 17 2 1121 42 27 2 1163 55 7 2 1218 15 48 2 1233 97 38 1 1377
  2927 38 1 11520 856 6 1 5104 2187 2 1 1089 13 43 1 4304 45 3 1 4349 113 2 2 98 5 8 1 103 13 2 1
  116 4 2 1 592 4 2 1 100 3 2 1 603 9 2 1 7446 3 2 1 116 6 3 1 946 3 2 1 966 4 2 1 117 2 2 1 946 3
  2 1 966 59 3 1 616 10 4 1 626 5 2 1 642 3 2 1 649 3 2 1 651 3 3 1 656 68 75 2 7681 160 48 2 7841
  104 8 1 7936 16 6 1 7952 16 8 1 7968 16 8 1 7984 16 6 1 8000 17 4 2 8017 15 8 1 8032 80 2 1 8112
  32 2 1 8144 16 2 1 8160 140 6 1 52 9 2 1 40 3 10 1 48 13 2 1 40 9 4 1 107 5 2 1 115 111 2 1 103
  9 2 2 108 6 3 1 112 19 2 1 98 4 2 1 101 5 4 1 1488 17 2 1 100 2 2 1 105 37 2 1 99 16 2 1 99 739
  9 1 49 86 26 1 97 26 26 1 97 1840 48 1 11312 103 3 2 11368 23 2 1 575 2 50 2 11393 107 2 2 11500
  846 2 1 21316 248 2 1 4352 4 2 1 4524 2 3 1 4355 3 6 1 4528 7 3 1 4358 4 10 1 4361 10 21 1 4449
  22 2 1 4372 2 2 1 4551 10 2 1 4381 3 2 1 4386 4 5 1 4395 10 2 1 4593 2 3 1 4439 3 2 1 4484 3 2 1
  4497 215 2 1 4354 2 3 1 4357 4 2 1 4363 2 5 1 4366 107 2 1 12458 16 6 1 12490 10 5 1 12510 7 6 1
  12520 6 4 1 12527 29509 23 2 42561 64 14 2 42625 162 7 2 42787 16 31 2 42803 71 2 2 42874 5 5 2
  42879 18 2 2 42897 6 10 2 42903 30 8 2 42933 19 2 2 42952 15 2 2 42967 922 80 1 5024 20402 2 1
  1491 2 3 1 1499 89 2 1 1670 34 2 1 1722 6 2 1 1728 10 2 1 1746 612 2 1 58 4 2 1 12310 30 2 1 40
  4 2 1 12308 2 2 1 12304 2 2 1 12298 2 2 1 12296 2 4 1 12300 24 2 1 40 4 2 1 12308 4 2 1 42 8 2 1
  36 23 2 1 1569 2 2 1 1570 2 2 1 1571 2 2 1 1572 2 2 1 1573 4 2 1 1574 2 2 1 1575 4 2 1 1576 2 2
  1 1577 4 2 1 1578 4 2 1 1579 4 2 1 1580 4 2 1 1581 4 2 1 1582 2 2 1 1583 2 2 1 1584 2 2 1 1585 2
  2 1 1586 4 2 1 1587 4 2 1 1588 4 2 1 1589 4 2 1 1590 4 2 1 1591 4 2 1 1592 4 2 1 1593 8 2 1 1601
  4 2 1 1602 4 2 1 1603 4 2 1 1604 4 2 1 1605 4 2 1 1606 4 2 1 1607 2 2 1 1608 2 2 1 1609 17 32 1
  33 32 26 1 97 26 36 1 91 36 2 1 10629 3 2 1 12300 19 2 1 12458 16 6 1 12490 10 5 1 12510 7 6 1
  12520 8 2 1 12441 3 2 1 4352 4 2 1 4524 2 3 1 4355 3 6 1 4528 7 3 1 4358 4 10 1 4361 13 6 1 4449
  8 6 1 4455 8 6 1 4461 8 3 1 4467 6 2 1 162 9 4 1 8592 1047 40 1 66600 176 36 1 66776 192 11 1
  66967 12 15 1 66979 16 7 1 66995 8 2 1 67003 493 2 1 720 10 2 1 598 14 2 1 682 10 2 1 630 5 2 1
  637 11 2 1 673 3 3 1 448 1226 51 1 68800 3104 32 1 71872 21920 32 1 93792 26048 26 1 97 26 26 1
  97 26 26 1 97 26 7 1 97 8 18 1 105 18 26 1 97 26 26 1 97 26 2 2 97 9 2 1 106 4 4 1 110 5 8 1 115
  8 4 1 97 5 2 2 102 3 6 1 105 7 11 1 112 11 26 1 97 26 26 1 97 26 2 1 97 3 4 1 100 6 8 1 106 9 7
  1 115 8 26 1 97 26 2 1 97 3 4 1 100 5 5 1 105 10 7 1 115 8 26 1 97 26 26 1 97 26 26 1 97 26 26 1
  97 26 26 1 97 26 26 1 97 26 26 1 97 26 26 1 97 26 26 1 97 26 26 1 97 26 26 1 97 26 26 1 97 26 26
  1 97 30 17 1 945 18 7 1 963 8 17 1 945 18 7 1 963 14 17 1 945 18 7 1 963 8 17 1 945 18 7 1 963
  14 17 1 945 18 7 1 963 8 17 1 945 18 7 1 963 14 17 1 945 18 7 1 963 8 17 1 945 18 7 1 963 14 17
  1 945 18 7 1 963 8 17 1 945 18 7 1 963 18 10 1 48 10 10 1 48 10 10 1 48 10 10 1 48 10 10 1 48
  4362 34 1 125218 1280 2 1 1575 10 4 1 1603 11 2 1 1578 21 4 1 1603 11 2 1 1578 22 2 2 1604 31 2
  2 1603 11 2 1 1578 11 2 1 1575 4 2 1 1607 7 3 1 1604 10 2 1 1578 22 3 1 1604 10 2 1 1578 635 26
  1 97 2752 10 1 48"

/-- Single characters: the distance from the one before, the number of characters it is mapped to, and those
characters. -/
def expansionEntries : String := "
  168 2 32 776 2 1 97 5 2 32 772 5 2 32 769 1 1 956 3 2 32 807 1 1 49 1 1 111 2 3 49 8260 52 1 3
  49 8260 50 1 3 51 8260 52 114 2 105 775 2 2 105 106 1 2 105 106 12 2 108 183 1 2 108 183 9 2 700
  110 47 1 255 7 1 115 2 1 595 5 1 596 1 1 392 4 1 396 3 1 477 1 1 601 1 1 603 1 1 402 2 1 608 1 1
  611 2 1 617 1 1 616 1 1 409 4 1 623 1 1 626 2 1 629 7 1 640 1 1 424 2 1 643 3 1 429 2 1 648 1 1
  432 8 1 658 1 1 441 4 1 445 8 2 100 382 1 2 100 382 1 2 100 382 1 2 108 106 1 2 108 106 1 2 108
  106 1 2 110 106 1 2 110 106 1 2 110 106 37 2 100 122 1 2 100 122 1 2 100 122 1 1 501 2 1 405 1 1
  447 41 1 414 26 1 11365 1 1 572 2 1 410 1 1 11366 3 1 578 2 1 384 1 1 649 1 1 652 107 1 104 1 1
  614 1 1 106 1 1 114 1 1 633 1 1 635 1 1 641 1 1 119 1 1 121 32 2 32 774 1 2 32 775 1 2 32 778 1
  2 32 808 1 2 32 771 1 2 32 779 3 1 611 1 1 108 1 1 115 1 1 120 1 1 661 97 1 953 49 1 887 4 2 32
  953 5 1 1011 5 2 32 769 1 3 32 776 769 1 1 940 6 1 972 67 1 983 1 1 946 1 1 952 1 1 965 1 1 973
  1 1 971 1 1 966 1 1 960 26 1 954 1 1 961 1 1 963 2 1 952 1 1 949 2 1 1016 2 1 963 1 1 1019 198 1
  1231 199 2 1381 1410 238 2 1575 1652 1 2 1608 1652 1 2 1735 1652 1 2 1610 1652 1979 2 3661 3634
  128 2 3789 3762 41 2 3755 3737 1 2 3755 3745 47 1 3851 107 3 4018 3953 3968 2 3 4019 3953 3968
  334 1 11559 6 1 11565 47 1 4316 2948 1 1074 1 1 1076 1 1 1086 3 1 1090 1 1 1098 1 1 1123 1 1
  42571 164 1 97 1 1 230 4 1 101 1 1 477 10 1 111 1 1 547 1 1 112 1 1 114 3 1 119 1 1 97 3 1 7426
  1 1 98 3 1 601 3 1 103 2 1 107 1 1 109 1 1 331 1 1 111 1 1 596 3 1 112 3 1 7453 1 1 623 1 1 118
  1 1 7461 6 1 105 1 1 114 5 1 961 16 1 1085 35 1 594 1 1 99 1 1 597 1 1 240 1 1 604 1 1 102 1 1
  607 1 1 609 1 1 613 4 1 7547 1 1 669 1 1 621 1 1 7557 1 1 671 1 1 625 1 1 624 5 1 632 3 1 427 3
  1 7452 3 1 122 4 1 952 219 2 97 702 1 1 7777 3 1 223 226 2 7936 953 1 2 7937 953 1 2 7938 953 1
  2 7939 953 1 2 7940 953 1 2 7941 953 1 2 7942 953 1 2 7943 953 1 2 7936 953 1 2 7937 953 1 2
  7938 953 1 2 7939 953 1 2 7940 953 1 2 7941 953 1 2 7942 953 1 2 7943 953 1 2 7968 953 1 2 7969
  953 1 2 7970 953 1 2 7971 953 1 2 7972 953 1 2 7973 953 1 2 7974 953 1 2 7975 953 1 2 7968 953 1
  2 7969 953 1 2 7970 953 1 2 7971 953 1 2 7972 953 1 2 7973 953 1 2 7974 953 1 2 7975 953 1 2
  8032 953 1 2 8033 953 1 2 8034 953 1 2 8035 953 1 2 8036 953 1 2 8037 953 1 2 8038 953 1 2 8039
  953 1 2 8032 953 1 2 8033 953 1 2 8034 953 1 2 8035 953 1 2 8036 953 1 2 8037 953 1 2 8038 953 1
  2 8039 953 3 2 8048 953 1 2 945 953 1 2 940 953 3 2 8118 953 3 1 8048 1 1 940 1 2 945 953 1 2 32
  787 2 2 32 787 1 2 32 834 1 3 32 776 834 1 2 8052 953 1 2 951 953 1 2 942 953 3 2 8134 953 1 1
  8050 1 1 941 1 1 8052 1 1 942 1 2 951 953 1 3 32 787 768 1 3 32 787 769 1 3 32 787 834 11 1 8054
  1 1 943 2 3 32 788 768 1 3 32 788 769 1 3 32 788 834 11 1 8058 1 1 973 1 1 8165 1 3 32 776 768 1
  3 32 776 769 4 2 8060 953 1 2 969 953 1 2 974 953 3 2 8182 953 1 1 8056 1 1 972 1 1 8060 1 1 974
  1 2 969 953 1 2 32 769 1 2 32 788 19 1 8208 6 2 32 819 28 2 8242 8242 1 3 8242 8242 8242 2 2
  8245 8245 1 3 8245 8245 8245 5 2 33 33 2 2 32 773 9 2 63 63 1 2 63 33 1 2 33 63 14 4 8242 8242
  8242 8242 25 1 48 1 1 105 9 1 43 1 1 8722 1 1 61 3 1 110 11 1 43 1 1 8722 1 1 61 4 1 97 1 1 101
  1 1 111 1 1 120 1 1 601 1 1 104 5 1 112 14 2 114 115 88 3 97 47 99 1 3 97 47 115 1 1 99 1 2 176
  99 2 3 99 47 111 1 3 99 47 117 1 1 603 2 2 176 102 3 1 104 1 1 104 1 1 104 1 1 295 1 1 105 1 1
  105 1 1 108 4 2 110 111 6 1 114 1 1 114 3 2 115 109 1 3 116 101 108 1 2 116 109 2 1 122 2 1 969
  2 1 122 2 1 107 1 1 229 4 1 101 3 1 8526 1 1 109 1 1 111 5 1 105 2 3 102 97 120 1 1 960 1 1 947
  1 1 947 1 1 960 1 1 8721 5 1 100 11 3 49 8260 55 1 3 49 8260 57 1 4 49 8260 49 48 1 3 49 8260 51
  1 3 50 8260 51 1 3 49 8260 53 1 3 50 8260 53 1 3 51 8260 53 1 3 52 8260 53 1 3 49 8260 54 1 3 53
  8260 54 1 3 49 8260 56 1 3 51 8260 56 1 3 53 8260 56 1 3 55 8260 56 1 2 49 8260 1 1 105 1 2 105
  105 1 3 105 105 105 1 2 105 118 1 1 118 1 2 118 105 1 3 118 105 105 1 4 118 105 105 105 1 2 105
  120 1 1 120 1 2 120 105 1 3 120 105 105 1 1 108 3 1 109 1 1 105 1 2 105 105 1 3 105 105 105 1 2
  105 118 1 1 118 1 2 118 105 1 3 118 105 105 1 4 118 105 105 105 1 2 105 120 1 1 120 1 2 120 105
  1 3 120 105 105 1 1 108 3 1 109 4 1 8580 6 3 48 8260 51 163 2 8747 8747 1 3 8747 8747 8747 2 2
  8750 8750 1 3 8750 8750 8750 569 2 49 48 1 2 49 49 1 2 49 50 1 2 49 51 1 2 49 52 1 2 49 53 1 2
  49 54 1 2 49 55 1 2 49 56 1 2 49 57 1 2 50 48 1 3 40 49 41 1 3 40 50 41 1 3 40 51 41 1 3 40 52
  41 1 3 40 53 41 1 3 40 54 41 1 3 40 55 41 1 3 40 56 41 1 3 40 57 41 1 4 40 49 48 41 1 4 40 49 49
  41 1 4 40 49 50 41 1 4 40 49 51 41 1 4 40 49 52 41 1 4 40 49 53 41 1 4 40 49 54 41 1 4 40 49 55
  41 1 4 40 49 56 41 1 4 40 49 57 41 1 4 40 50 48 41 21 3 40 97 41 1 3 40 98 41 1 3 40 99 41 1 3
  40 100 41 1 3 40 101 41 1 3 40 102 41 1 3 40 103 41 1 3 40 104 41 1 3 40 105 41 1 3 40 106 41 1
  3 40 107 41 1 3 40 108 41 1 3 40 109 41 1 3 40 110 41 1 3 40 111 41 1 3 40 112 41 1 3 40 113 41
  1 3 40 114 41 1 3 40 115 41 1 3 40 116 41 1 3 40 117 41 1 3 40 118 41 1 3 40 119 41 1 3 40 120
  41 1 3 40 121 41 1 3 40 122 41 53 1 48 1314 4 8747 8747 8747 8747 104 3 58 58 61 1 2 61 61 1 3
  61 61 61 490 1 11361 2 1 619 1 1 7549 1 1 637 9 1 593 1 1 625 1 1 592 1 1 594 2 1 11379 3 1
  11382 7 1 106 1 1 118 117 1 11507 125 1 11617 304 1 27597 84 1 40863 13 1 19968 1 1 20008 1 1
  20022 1 1 20031 1 1 20057 1 1 20101 1 1 20108 1 1 20128 1 1 20154 1 1 20799 1 1 20837 1 1 20843
  1 1 20866 1 1 20886 1 1 20907 1 1 20960 1 1 20981 1 1 20992 1 1 21147 1 1 21241 1 1 21269 1 1
  21274 1 1 21304 1 1 21313 1 1 21340 1 1 21353 1 1 21378 1 1 21430 1 1 21448 1 1 21475 1 1 22231
  1 1 22303 1 1 22763 1 1 22786 1 1 22794 1 1 22805 1 1 22823 1 1 22899 1 1 23376 1 1 23424 1 1
  23544 1 1 23567 1 1 23586 1 1 23608 1 1 23662 1 1 23665 1 1 24027 1 1 24037 1 1 24049 1 1 24062
  1 1 24178 1 1 24186 1 1 24191 1 1 24308 1 1 24318 1 1 24331 1 1 24339 1 1 24400 1 1 24417 1 1
  24435 1 1 24515 1 1 25096 1 1 25142 1 1 25163 1 1 25903 1 1 25908 1 1 25991 1 1 26007 1 1 26020
  1 1 26041 1 1 26080 1 1 26085 1 1 26352 1 1 26376 1 1 26408 1 1 27424 1 1 27490 1 1 27513 1 1
  27571 1 1 27595 1 1 27604 1 1 27611 1 1 27663 1 1 27668 1 1 27700 1 1 28779 1 1 29226 1 1 29238
  1 1 29243 1 1 29247 1 1 29255 1 1 29273 1 1 29275 1 1 29356 1 1 29572 1 1 29577 1 1 29916 1 1
  29926 1 1 29976 1 1 29983 1 1 29992 1 1 30000 1 1 30091 1 1 30098 1 1 30326 1 1 30333 1 1 30382
  1 1 30399 1 1 30446 1 1 30683 1 1 30690 1 1 30707 1 1 31034 1 1 31160 1 1 31166 1 1 31348 1 1
  31435 1 1 31481 1 1 31859 1 1 31992 1 1 32566 1 1 32593 1 1 32650 1 1 32701 1 1 32769 1 1 32780
  1 1 32786 1 1 32819 1 1 32895 1 1 32905 1 1 33251 1 1 33258 1 1 33267 1 1 33276 1 1 33292 1 1
  33307 1 1 33311 1 1 33390 1 1 33394 1 1 33400 1 1 34381 1 1 34411 1 1 34880 1 1 34892 1 1 34915
  1 1 35198 1 1 35211 1 1 35282 1 1 35328 1 1 35895 1 1 35910 1 1 35925 1 1 35960 1 1 35997 1 1
  36196 1 1 36208 1 1 36275 1 1 36523 1 1 36554 1 1 36763 1 1 36784 1 1 36789 1 1 37009 1 1 37193
  1 1 37318 1 1 37324 1 1 37329 1 1 38263 1 1 38272 1 1 38428 1 1 38582 1 1 38585 1 1 38632 1 1
  38737 1 1 38750 1 1 38754 1 1 38761 1 1 38859 1 1 38893 1 1 38899 1 1 38913 1 1 39080 1 1 39131
  1 1 39135 1 1 39318 1 1 39321 1 1 39340 1 1 39592 1 1 39640 1 1 39647 1 1 39717 1 1 39727 1 1
  39730 1 1 39740 1 1 39770 1 1 40165 1 1 40565 1 1 40575 1 1 40613 1 1 40635 1 1 40643 1 1 40653
  1 1 40657 1 1 40697 1 1 40701 1 1 40718 1 1 40723 1 1 40736 1 1 40763 1 1 40778 1 1 40786 1 1
  40845 1 1 40860 1 1 40864 45 1 46 52 1 12306 2 1 21313 99 2 32 12441 1 2 32 12442 3 2 12424
  12426 96 2 12467 12488 52 1 4522 1 1 4354 12 1 4378 4 1 4385 37 1 4556 1 1 4558 1 1 4563 1 1
  4567 1 1 4569 1 1 4380 1 1 4573 1 1 4575 3 1 4384 3 1 4391 1 1 4393 6 1 4402 1 1 4406 1 1 4416 1
  1 4423 1 1 4428 8 1 4488 3 1 4500 1 1 4510 1 1 4513 4 1 19968 1 1 20108 1 1 19977 1 1 22235 1 1
  19978 1 1 20013 1 1 19979 1 1 30002 1 1 20057 1 1 19993 1 1 19969 1 1 22825 1 1 22320 1 1 20154
  97 3 40 4352 41 1 3 40 4354 41 1 3 40 4355 41 1 3 40 4357 41 1 3 40 4358 41 1 3 40 4359 41 1 3
  40 4361 41 1 3 40 4363 41 1 3 40 4364 41 1 3 40 4366 41 1 3 40 4367 41 1 3 40 4368 41 1 3 40
  4369 41 1 3 40 4370 41 1 3 40 44032 41 1 3 40 45208 41 1 3 40 45796 41 1 3 40 46972 41 1 3 40
  47560 41 1 3 40 48148 41 1 3 40 49324 41 1 3 40 50500 41 1 3 40 51088 41 1 3 40 52264 41 1 3 40
  52852 41 1 3 40 53440 41 1 3 40 54028 41 1 3 40 54616 41 1 3 40 51452 41 1 4 40 50724 51204 41 1
  4 40 50724 54980 41 2 3 40 19968 41 1 3 40 20108 41 1 3 40 19977 41 1 3 40 22235 41 1 3 40 20116
  41 1 3 40 20845 41 1 3 40 19971 41 1 3 40 20843 41 1 3 40 20061 41 1 3 40 21313 41 1 3 40 26376
  41 1 3 40 28779 41 1 3 40 27700 41 1 3 40 26408 41 1 3 40 37329 41 1 3 40 22303 41 1 3 40 26085
  41 1 3 40 26666 41 1 3 40 26377 41 1 3 40 31038 41 1 3 40 21517 41 1 3 40 29305 41 1 3 40 36001
  41 1 3 40 31069 41 1 3 40 21172 41 1 3 40 20195 41 1 3 40 21628 41 1 3 40 23398 41 1 3 40 30435
  41 1 3 40 20225 41 1 3 40 36039 41 1 3 40 21332 41 1 3 40 31085 41 1 3 40 20241 41 1 3 40 33258
  41 1 3 40 33267 41 1 1 21839 1 1 24188 1 1 25991 1 1 31631 9 3 112 116 101 1 2 50 49 1 2 50 50 1
  2 50 51 1 2 50 52 1 2 50 53 1 2 50 54 1 2 50 55 1 2 50 56 1 2 50 57 1 2 51 48 1 2 51 49 1 2 51
  50 1 2 51 51 1 2 51 52 1 2 51 53 1 1 4352 6 1 4361 8 1 44032 1 1 45208 1 1 45796 1 1 46972 1 1
  47560 1 1 48148 1 1 49324 1 1 50500 1 1 51088 1 1 52264 1 1 52852 1 1 53440 1 1 54028 1 1 54616
  1 2 52280 44256 1 2 51452 51032 1 1 50864 2 1 19968 1 1 20108 1 1 19977 1 1 22235 1 1 20116 1 1
  20845 1 1 19971 1 1 20843 1 1 20061 1 1 21313 1 1 26376 1 1 28779 1 1 27700 1 1 26408 1 1 37329
  1 1 22303 1 1 26085 1 1 26666 1 1 26377 1 1 31038 1 1 21517 1 1 29305 1 1 36001 1 1 31069 1 1
  21172 1 1 31192 1 1 30007 1 1 22899 1 1 36969 1 1 20778 1 1 21360 1 1 27880 1 1 38917 1 1 20241
  1 1 20889 1 1 27491 1 1 19978 1 1 20013 1 1 19979 1 1 24038 1 1 21491 1 1 21307 1 1 23447 1 1
  23398 1 1 30435 1 1 20225 1 1 36039 1 1 21332 1 1 22812 1 2 51 54 1 2 51 55 1 2 51 56 1 2 51 57
  1 2 52 48 1 2 52 49 1 2 52 50 1 2 52 51 1 2 52 52 1 2 52 53 1 2 52 54 1 2 52 55 1 2 52 56 1 2 52
  57 1 2 53 48 1 2 49 26376 1 2 50 26376 1 2 51 26376 1 2 52 26376 1 2 53 26376 1 2 54 26376 1 2
  55 26376 1 2 56 26376 1 2 57 26376 1 3 49 48 26376 1 3 49 49 26376 1 3 49 50 26376 1 2 104 103 1
  3 101 114 103 1 2 101 118 1 3 108 116 100 1 1 12450 1 1 12452 1 1 12454 1 1 12456 3 1 12461 1 1
  12463 1 1 12465 1 1 12467 1 1 12469 1 1 12471 1 1 12473 1 1 12475 1 1 12477 1 1 12479 1 1 12481
  1 1 12484 1 1 12486 1 1 12488 7 1 12498 1 1 12501 1 1 12504 1 1 12507 6 1 12516 1 1 12518 11 2
  20196 21644 1 4 12450 12497 12540 12488 1 4 12450 12523 12501 12449 1 4 12450 12531 12506 12450
  1 3 12450 12540 12523 1 4 12452 12491 12531 12464 1 3 12452 12531 12481 1 3 12454 12457 12531 1
  5 12456 12473 12463 12540 12489 1 4 12456 12540 12459 12540 1 3 12458 12531 12473 1 3 12458
  12540 12512 1 3 12459 12452 12522 1 4 12459 12521 12483 12488 1 4 12459 12525 12522 12540 1 3
  12460 12525 12531 1 3 12460 12531 12510 1 2 12462 12460 1 3 12462 12491 12540 1 4 12461 12517
  12522 12540 1 4 12462 12523 12480 12540 1 2 12461 12525 1 5 12461 12525 12464 12521 12512 1 6
  12461 12525 12513 12540 12488 12523 1 5 12461 12525 12527 12483 12488 1 3 12464 12521 12512 1 5
  12464 12521 12512 12488 12531 1 5 12463 12523 12476 12452 12525 1 4 12463 12525 12540 12493 1 3
  12465 12540 12473 1 3 12467 12523 12490 1 3 12467 12540 12509 1 4 12469 12452 12463 12523 1 5
  12469 12531 12481 12540 12512 1 4 12471 12522 12531 12464 1 3 12475 12531 12481 1 3 12475 12531
  12488 1 3 12480 12540 12473 1 2 12487 12471 1 2 12489 12523 1 2 12488 12531 1 2 12490 12494 1 3
  12494 12483 12488 1 3 12495 12452 12484 1 5 12497 12540 12475 12531 12488 1 3 12497 12540 12484
  1 4 12496 12540 12524 12523 1 5 12500 12450 12473 12488 12523 1 3 12500 12463 12523 1 2 12500
  12467 1 2 12499 12523 1 5 12501 12449 12521 12483 12489 1 4 12501 12451 12540 12488 1 5 12502
  12483 12471 12455 12523 1 3 12501 12521 12531 1 5 12504 12463 12479 12540 12523 1 2 12506 12477
  1 3 12506 12491 12498 1 3 12504 12523 12484 1 3 12506 12531 12473 1 3 12506 12540 12472 1 3
  12505 12540 12479 1 4 12509 12452 12531 12488 1 3 12508 12523 12488 1 2 12507 12531 1 3 12509
  12531 12489 1 3 12507 12540 12523 1 3 12507 12540 12531 1 4 12510 12452 12463 12525 1 3 12510
  12452 12523 1 3 12510 12483 12495 1 3 12510 12523 12463 1 5 12510 12531 12471 12519 12531 1 4
  12511 12463 12525 12531 1 2 12511 12522 1 5 12511 12522 12496 12540 12523 1 2 12513 12460 1 4
  12513 12460 12488 12531 1 4 12513 12540 12488 12523 1 3 12516 12540 12489 1 3 12516 12540 12523
  1 3 12518 12450 12531 1 4 12522 12483 12488 12523 1 2 12522 12521 1 3 12523 12500 12540 1 4
  12523 12540 12502 12523 1 2 12524 12512 1 5 12524 12531 12488 12466 12531 1 3 12527 12483 12488
  1 2 48 28857 1 2 49 28857 1 2 50 28857 1 2 51 28857 1 2 52 28857 1 2 53 28857 1 2 54 28857 1 2
  55 28857 1 2 56 28857 1 2 57 28857 1 3 49 48 28857 1 3 49 49 28857 1 3 49 50 28857 1 3 49 51
  28857 1 3 49 52 28857 1 3 49 53 28857 1 3 49 54 28857 1 3 49 55 28857 1 3 49 56 28857 1 3 49 57
  28857 1 3 50 48 28857 1 3 50 49 28857 1 3 50 50 28857 1 3 50 51 28857 1 3 50 52 28857 1 3 104
  112 97 1 2 100 97 1 2 97 117 1 3 98 97 114 1 2 111 118 1 2 112 99 1 2 100 109 1 3 100 109 50 1 3
  100 109 51 1 2 105 117 1 2 24179 25104 1 2 26157 21644 1 2 22823 27491 1 2 26126 27835 1 4 26666
  24335 20250 31038 1 2 112 97 1 2 110 97 1 2 956 97 1 2 109 97 1 2 107 97 1 2 107 98 1 2 109 98 1
  2 103 98 1 3 99 97 108 1 4 107 99 97 108 1 2 112 102 1 2 110 102 1 2 956 102 1 2 956 103 1 2 109
  103 1 2 107 103 1 2 104 122 1 3 107 104 122 1 3 109 104 122 1 3 103 104 122 1 3 116 104 122 1 2
  956 108 1 2 109 108 1 2 100 108 1 2 107 108 1 2 102 109 1 2 110 109 1 2 956 109 1 2 109 109 1 2
  99 109 1 2 107 109 1 3 109 109 50 1 3 99 109 50 1 2 109 50 1 3 107 109 50 1 3 109 109 51 1 3 99
  109 51 1 2 109 51 1 3 107 109 51 1 3 109 8725 115 1 4 109 8725 115 50 1 2 112 97 1 3 107 112 97
  1 3 109 112 97 1 3 103 112 97 1 3 114 97 100 1 5 114 97 100 8725 115 1 6 114 97 100 8725 115 50
  1 2 112 115 1 2 110 115 1 2 956 115 1 2 109 115 1 2 112 118 1 2 110 118 1 2 956 118 1 2 109 118
  1 2 107 118 1 2 109 118 1 2 112 119 1 2 110 119 1 2 956 119 1 2 109 119 1 2 107 119 1 2 109 119
  1 2 107 969 1 2 109 969 2 2 98 113 1 2 99 99 1 2 99 100 1 4 99 8725 107 103 2 2 100 98 1 2 103
  121 1 2 104 97 1 2 104 112 1 2 105 110 1 2 107 107 1 2 107 109 1 2 107 116 1 2 108 109 1 2 108
  110 1 3 108 111 103 1 2 108 120 1 2 109 98 1 3 109 105 108 1 3 109 111 108 1 2 112 104 2 3 112
  112 109 1 2 112 114 1 2 115 114 1 2 115 118 1 2 119 98 1 3 118 8725 109 1 3 97 8725 109 1 2 49
  26085 1 2 50 26085 1 2 51 26085 1 2 52 26085 1 2 53 26085 1 2 54 26085 1 2 55 26085 1 2 56 26085
  1 2 57 26085 1 3 49 48 26085 1 3 49 49 26085 1 3 49 50 26085 1 3 49 51 26085 1 3 49 52 26085 1 3
  49 53 26085 1 3 49 54 26085 1 3 49 55 26085 1 3 49 56 26085 1 3 49 57 26085 1 3 50 48 26085 1 3
  50 49 26085 1 3 50 50 26085 1 3 50 51 26085 1 3 50 52 26085 1 3 50 53 26085 1 3 50 54 26085 1 3
  50 55 26085 1 3 50 56 26085 1 3 50 57 26085 1 3 51 48 26085 1 3 51 49 26085 1 3 103 97 108 29341
  1 1098 1 1 1100 211 1 42863 13 1 7545 14 1 42892 2 1 613 29 1 614 1 1 604 1 1 609 1 1 620 1 1
  618 2 1 670 1 1 647 1 1 669 1 1 43859 17 1 42900 1 1 642 1 1 7566 10 1 42961 34 1 99 1 1 102 1 1
  113 1 1 42998 3 1 295 1 1 339 867 1 42791 1 1 43831 1 1 619 1 1 43858 10 1 653 20375 2 102 102 1
  2 102 105 1 2 102 108 1 3 102 102 105 1 3 102 102 108 1 2 115 116 1 2 115 116 13 2 1396 1398 1 2
  1396 1381 1 2 1396 1387 1 2 1406 1398 1 2 1396 1389 9 1 1506 1 1 1488 6 1 1512 1 1 1514 1 1 43
  38 2 1488 1500 1 1 1649 1 1 1649 1 1 1659 1 1 1659 1 1 1659 1 1 1659 1 1 1662 1 1 1662 1 1 1662
  1 1 1662 1 1 1664 1 1 1664 1 1 1664 1 1 1664 1 1 1658 1 1 1658 1 1 1658 1 1 1658 1 1 1663 1 1
  1663 1 1 1663 1 1 1663 1 1 1657 1 1 1657 1 1 1657 1 1 1657 1 1 1700 1 1 1700 1 1 1700 1 1 1700 1
  1 1702 1 1 1702 1 1 1702 1 1 1702 1 1 1668 1 1 1668 1 1 1668 1 1 1668 1 1 1667 1 1 1667 1 1 1667
  1 1 1667 1 1 1670 1 1 1670 1 1 1670 3 1 1671 1 1 1671 1 1 1671 1 1 1677 1 1 1677 1 1 1676 1 1
  1676 1 1 1678 1 1 1678 1 1 1672 1 1 1672 1 1 1688 1 1 1688 1 1 1681 1 1 1681 1 1 1705 1 1 1705 1
  1 1705 1 1 1705 1 1 1711 1 1 1711 1 1 1711 1 1 1711 1 1 1715 1 1 1715 1 1 1715 1 1 1715 1 1 1713
  1 1 1713 1 1 1713 1 1 1713 1 1 1722 3 1 1723 1 1 1723 1 1 1723 1 1 1728 3 1 1729 1 1 1729 1 1
  1729 1 1 1726 1 1 1726 1 1 1726 1 1 1726 1 1 1746 3 1 1747 34 1 1709 1 1 1709 1 1 1709 1 1 1709
  1 1 1735 1 1 1735 1 1 1734 1 1 1734 1 1 1736 1 1 1736 1 2 1735 1652 1 1 1739 1 1 1739 1 1 1733 1
  1 1733 1 1 1737 1 1 1737 1 1 1744 1 1 1744 1 1 1744 1 1 1744 1 1 1609 1 1 1609 1 2 1574 1575 1 2
  1574 1575 1 2 1574 1749 1 2 1574 1749 1 2 1574 1608 1 2 1574 1608 1 2 1574 1735 1 2 1574 1735 1
  2 1574 1734 1 2 1574 1734 1 2 1574 1736 1 2 1574 1736 1 2 1574 1744 1 2 1574 1744 1 2 1574 1744
  1 2 1574 1609 1 2 1574 1609 1 2 1574 1609 1 1 1740 1 1 1740 1 1 1740 1 1 1740 1 2 1574 1580 1 2
  1574 1581 1 2 1574 1605 1 2 1574 1609 1 2 1574 1610 1 2 1576 1580 1 2 1576 1581 1 2 1576 1582 1
  2 1576 1605 1 2 1576 1609 1 2 1576 1610 1 2 1578 1580 1 2 1578 1581 1 2 1578 1582 1 2 1578 1605
  1 2 1578 1609 1 2 1578 1610 1 2 1579 1580 1 2 1579 1605 1 2 1579 1609 1 2 1579 1610 1 2 1580
  1581 1 2 1580 1605 1 2 1581 1580 1 2 1581 1605 1 2 1582 1580 1 2 1582 1581 1 2 1582 1605 1 2
  1587 1580 1 2 1587 1581 1 2 1587 1582 1 2 1587 1605 1 2 1589 1581 1 2 1589 1605 1 2 1590 1580 1
  2 1590 1581 1 2 1590 1582 1 2 1590 1605 1 2 1591 1581 1 2 1591 1605 1 2 1592 1605 1 2 1593 1580
  1 2 1593 1605 1 2 1594 1580 1 2 1594 1605 1 2 1601 1580 1 2 1601 1581 1 2 1601 1582 1 2 1601
  1605 1 2 1601 1609 1 2 1601 1610 1 2 1602 1581 1 2 1602 1605 1 2 1602 1609 1 2 1602 1610 1 2
  1603 1575 1 2 1603 1580 1 2 1603 1581 1 2 1603 1582 1 2 1603 1604 1 2 1603 1605 1 2 1603 1609 1
  2 1603 1610 1 2 1604 1580 1 2 1604 1581 1 2 1604 1582 1 2 1604 1605 1 2 1604 1609 1 2 1604 1610
  1 2 1605 1580 1 2 1605 1581 1 2 1605 1582 1 2 1605 1605 1 2 1605 1609 1 2 1605 1610 1 2 1606
  1580 1 2 1606 1581 1 2 1606 1582 1 2 1606 1605 1 2 1606 1609 1 2 1606 1610 1 2 1607 1580 1 2
  1607 1605 1 2 1607 1609 1 2 1607 1610 1 2 1610 1580 1 2 1610 1581 1 2 1610 1582 1 2 1610 1605 1
  2 1610 1609 1 2 1610 1610 1 2 1584 1648 1 2 1585 1648 1 2 1609 1648 1 3 32 1612 1617 1 3 32 1613
  1617 1 3 32 1614 1617 1 3 32 1615 1617 1 3 32 1616 1617 1 3 32 1617 1648 1 2 1574 1585 1 2 1574
  1586 1 2 1574 1605 1 2 1574 1606 1 2 1574 1609 1 2 1574 1610 1 2 1576 1585 1 2 1576 1586 1 2
  1576 1605 1 2 1576 1606 1 2 1576 1609 1 2 1576 1610 1 2 1578 1585 1 2 1578 1586 1 2 1578 1605 1
  2 1578 1606 1 2 1578 1609 1 2 1578 1610 1 2 1579 1585 1 2 1579 1586 1 2 1579 1605 1 2 1579 1606
  1 2 1579 1609 1 2 1579 1610 1 2 1601 1609 1 2 1601 1610 1 2 1602 1609 1 2 1602 1610 1 2 1603
  1575 1 2 1603 1604 1 2 1603 1605 1 2 1603 1609 1 2 1603 1610 1 2 1604 1605 1 2 1604 1609 1 2
  1604 1610 1 2 1605 1575 1 2 1605 1605 1 2 1606 1585 1 2 1606 1586 1 2 1606 1605 1 2 1606 1606 1
  2 1606 1609 1 2 1606 1610 1 2 1609 1648 1 2 1610 1585 1 2 1610 1586 1 2 1610 1605 1 2 1610 1606
  1 2 1610 1609 1 2 1610 1610 1 2 1574 1580 1 2 1574 1581 1 2 1574 1582 1 2 1574 1605 1 2 1574
  1607 1 2 1576 1580 1 2 1576 1581 1 2 1576 1582 1 2 1576 1605 1 2 1576 1607 1 2 1578 1580 1 2
  1578 1581 1 2 1578 1582 1 2 1578 1605 1 2 1578 1607 1 2 1579 1605 1 2 1580 1581 1 2 1580 1605 1
  2 1581 1580 1 2 1581 1605 1 2 1582 1580 1 2 1582 1605 1 2 1587 1580 1 2 1587 1581 1 2 1587 1582
  1 2 1587 1605 1 2 1589 1581 1 2 1589 1582 1 2 1589 1605 1 2 1590 1580 1 2 1590 1581 1 2 1590
  1582 1 2 1590 1605 1 2 1591 1581 1 2 1592 1605 1 2 1593 1580 1 2 1593 1605 1 2 1594 1580 1 2
  1594 1605 1 2 1601 1580 1 2 1601 1581 1 2 1601 1582 1 2 1601 1605 1 2 1602 1581 1 2 1602 1605 1
  2 1603 1580 1 2 1603 1581 1 2 1603 1582 1 2 1603 1604 1 2 1603 1605 1 2 1604 1580 1 2 1604 1581
  1 2 1604 1582 1 2 1604 1605 1 2 1604 1607 1 2 1605 1580 1 2 1605 1581 1 2 1605 1582 1 2 1605
  1605 1 2 1606 1580 1 2 1606 1581 1 2 1606 1582 1 2 1606 1605 1 2 1606 1607 1 2 1607 1580 1 2
  1607 1605 1 2 1607 1648 1 2 1610 1580 1 2 1610 1581 1 2 1610 1582 1 2 1610 1605 1 2 1610 1607 1
  2 1574 1605 1 2 1574 1607 1 2 1576 1605 1 2 1576 1607 1 2 1578 1605 1 2 1578 1607 1 2 1579 1605
  1 2 1579 1607 1 2 1587 1605 1 2 1587 1607 1 2 1588 1605 1 2 1588 1607 1 2 1603 1604 1 2 1603
  1605 1 2 1604 1605 1 2 1606 1605 1 2 1606 1607 1 2 1610 1605 1 2 1610 1607 1 3 1600 1614 1617 1
  3 1600 1615 1617 1 3 1600 1616 1617 1 2 1591 1609 1 2 1591 1610 1 2 1593 1609 1 2 1593 1610 1 2
  1594 1609 1 2 1594 1610 1 2 1587 1609 1 2 1587 1610 1 2 1588 1609 1 2 1588 1610 1 2 1581 1609 1
  2 1581 1610 1 2 1580 1609 1 2 1580 1610 1 2 1582 1609 1 2 1582 1610 1 2 1589 1609 1 2 1589 1610
  1 2 1590 1609 1 2 1590 1610 1 2 1588 1580 1 2 1588 1581 1 2 1588 1582 1 2 1588 1605 1 2 1588
  1585 1 2 1587 1585 1 2 1589 1585 1 2 1590 1585 1 2 1591 1609 1 2 1591 1610 1 2 1593 1609 1 2
  1593 1610 1 2 1594 1609 1 2 1594 1610 1 2 1587 1609 1 2 1587 1610 1 2 1588 1609 1 2 1588 1610 1
  2 1581 1609 1 2 1581 1610 1 2 1580 1609 1 2 1580 1610 1 2 1582 1609 1 2 1582 1610 1 2 1589 1609
  1 2 1589 1610 1 2 1590 1609 1 2 1590 1610 1 2 1588 1580 1 2 1588 1581 1 2 1588 1582 1 2 1588
  1605 1 2 1588 1585 1 2 1587 1585 1 2 1589 1585 1 2 1590 1585 1 2 1588 1580 1 2 1588 1581 1 2
  1588 1582 1 2 1588 1605 1 2 1587 1607 1 2 1588 1607 1 2 1591 1605 1 2 1587 1580 1 2 1587 1581 1
  2 1587 1582 1 2 1588 1580 1 2 1588 1581 1 2 1588 1582 1 2 1591 1605 1 2 1592 1605 1 2 1575 1611
  1 2 1575 1611 19 3 1578 1580 1605 1 3 1578 1581 1580 1 3 1578 1581 1580 1 3 1578 1581 1605 1 3
  1578 1582 1605 1 3 1578 1605 1580 1 3 1578 1605 1581 1 3 1578 1605 1582 1 3 1580 1605 1581 1 3
  1580 1605 1581 1 3 1581 1605 1610 1 3 1581 1605 1609 1 3 1587 1581 1580 1 3 1587 1580 1581 1 3
  1587 1580 1609 1 3 1587 1605 1581 1 3 1587 1605 1581 1 3 1587 1605 1580 1 3 1587 1605 1605 1 3
  1587 1605 1605 1 3 1589 1581 1581 1 3 1589 1581 1581 1 3 1589 1605 1605 1 3 1588 1581 1605 1 3
  1588 1581 1605 1 3 1588 1580 1610 1 3 1588 1605 1582 1 3 1588 1605 1582 1 3 1588 1605 1605 1 3
  1588 1605 1605 1 3 1590 1581 1609 1 3 1590 1582 1605 1 3 1590 1582 1605 1 3 1591 1605 1581 1 3
  1591 1605 1581 1 3 1591 1605 1605 1 3 1591 1605 1610 1 3 1593 1580 1605 1 3 1593 1605 1605 1 3
  1593 1605 1605 1 3 1593 1605 1609 1 3 1594 1605 1605 1 3 1594 1605 1610 1 3 1594 1605 1609 1 3
  1601 1582 1605 1 3 1601 1582 1605 1 3 1602 1605 1581 1 3 1602 1605 1605 1 3 1604 1581 1605 1 3
  1604 1581 1610 1 3 1604 1581 1609 1 3 1604 1580 1580 1 3 1604 1580 1580 1 3 1604 1582 1605 1 3
  1604 1582 1605 1 3 1604 1605 1581 1 3 1604 1605 1581 1 3 1605 1581 1580 1 3 1605 1581 1605 1 3
  1605 1581 1610 1 3 1605 1580 1581 1 3 1605 1580 1605 1 3 1605 1582 1580 1 3 1605 1582 1605 3 3
  1605 1580 1582 1 3 1607 1605 1580 1 3 1607 1605 1605 1 3 1606 1581 1605 1 3 1606 1581 1609 1 3
  1606 1580 1605 1 3 1606 1580 1605 1 3 1606 1580 1609 1 3 1606 1605 1610 1 3 1606 1605 1609 1 3
  1610 1605 1605 1 3 1610 1605 1605 1 3 1576 1582 1610 1 3 1578 1580 1610 1 3 1578 1580 1609 1 3
  1578 1582 1610 1 3 1578 1582 1609 1 3 1578 1605 1610 1 3 1578 1605 1609 1 3 1580 1605 1610 1 3
  1580 1581 1609 1 3 1580 1605 1609 1 3 1587 1582 1609 1 3 1589 1581 1610 1 3 1588 1581 1610 1 3
  1590 1581 1610 1 3 1604 1580 1610 1 3 1604 1605 1610 1 3 1610 1581 1610 1 3 1610 1580 1610 1 3
  1610 1605 1610 1 3 1605 1605 1610 1 3 1602 1605 1610 1 3 1606 1581 1610 1 3 1602 1605 1581 1 3
  1604 1581 1605 1 3 1593 1605 1610 1 3 1603 1605 1610 1 3 1606 1580 1581 1 3 1605 1582 1610 1 3
  1604 1580 1605 1 3 1603 1605 1605 1 3 1604 1580 1605 1 3 1606 1580 1581 1 3 1580 1581 1610 1 3
  1581 1580 1610 1 3 1605 1580 1610 1 3 1601 1605 1610 1 3 1576 1581 1610 1 3 1603 1605 1605 1 3
  1593 1580 1605 1 3 1589 1605 1605 1 3 1587 1582 1610 1 3 1606 1580 1610 41 3 1589 1604 1746 1 3
  1602 1604 1746 1 4 1575 1604 1604 1607 1 4 1575 1603 1576 1585 1 4 1605 1581 1605 1583 1 4 1589
  1604 1593 1605 1 4 1585 1587 1608 1604 1 4 1593 1604 1610 1607 1 4 1608 1587 1604 1605 1 3 1589
  1604 1609 1 18 1589 1604 1609 32 1575 1604 1604 1607 32 1593 1604 1610 1607 32 1608 1587 1604
  1605 1 8 1580 1604 32 1580 1604 1575 1604 1607 1 4 1585 1740 1575 1604 20 1 44 1 1 12289 4 1 33
  1 1 63 27 1 8212 1 1 8211 1 1 95 1 1 95 3 1 123 1 1 125 15 1 91 1 1 93 1 2 32 773 1 2 32 773 1 2
  32 773 1 2 32 773 1 1 95 1 1 95 1 1 95 1 1 44 1 1 12289 3 1 59 1 1 58 1 1 63 1 1 33 1 1 8212 3 1
  123 1 1 125 3 1 35 1 1 38 3 1 45 1 1 60 1 1 62 1 1 61 2 1 92 3 1 64 5 2 32 1611 1 2 1600 1611 1
  2 32 1612 2 2 32 1613 2 2 32 1614 1 2 1600 1614 1 2 32 1615 1 2 1600 1615 1 2 32 1616 1 2 1600
  1616 1 2 32 1617 1 2 1600 1617 1 2 32 1618 1 2 1600 1618 11 1 1574 1 1 1574 5 1 1576 1 1 1576 5
  1 1578 1 1 1578 3 1 1579 1 1 1579 3 1 1580 1 1 1580 3 1 1581 1 1 1581 3 1 1582 1 1 1582 11 1
  1587 1 1 1587 3 1 1588 1 1 1588 3 1 1589 1 1 1589 3 1 1590 1 1 1590 3 1 1591 1 1 1591 3 1 1592 1
  1 1592 3 1 1593 1 1 1593 3 1 1594 1 1 1594 1 1 1594 1 1 1601 1 1 1601 1 1 1601 3 1 1602 1 1 1602
  3 1 1603 1 1 1603 3 1 1604 1 1 1604 3 1 1605 1 1 1605 3 1 1606 1 1 1606 3 1 1607 1 1 1607 7 1
  1610 1 1 1610 1 1 1610 1 2 1604 1570 1 2 1604 1570 1 2 1604 1571 1 2 1604 1571 1 2 1604 1573 1 2
  1604 1573 1 2 1604 1575 1 2 1604 1575 101 1 46 3 1 12289 1 1 12539 1 1 12530 1 1 12449 1 1 12451
  1 1 12453 1 1 12455 1 1 12457 1 1 12515 1 1 12517 1 1 12519 1 1 12483 1 1 12540 1 1 12450 1 1
  12452 1 1 12454 1 1 12456 3 1 12461 1 1 12463 1 1 12465 1 1 12467 1 1 12469 1 1 12471 1 1 12473
  1 1 12475 1 1 12477 1 1 12479 1 1 12481 1 1 12484 1 1 12486 1 1 12488 7 1 12498 1 1 12501 1 1
  12504 1 1 12507 6 1 12516 1 1 12518 7 1 12527 1 1 12531 6 1 4522 1 1 4354 12 1 4378 4 1 4385 46
  1 172 1 2 32 772 1 1 166 1 1 165 1 1 8361 2 1 9474 5 1 9632 1 1 9675 1941 1 230 1 1 665 1 1 595
  2 1 675 1 1 43878 1 1 677 1 1 676 3 1 7569 1 1 600 1 1 606 1 1 681 1 1 612 1 1 610 1 1 608 1 1
  667 1 1 295 1 1 668 1 1 615 1 1 644 3 1 620 1 1 122628 1 1 42894 1 1 622 1 1 122629 1 1 654 1 1
  122630 1 1 248 3 1 113 1 1 634 1 1 122632 3 1 640 1 1 680 1 1 678 1 1 43879 1 1 679 1 1 648 1 1
  11377 2 1 655 3 1 664 4 1 122634 1 1 122654 52453 1 100 3 1 103 164 1 111 350 1 305 1 1 567 20 1
  952 8 1 8711 18 1 963 8 1 8706 1 1 949 1 1 952 1 1 954 1 1 966 1 1 961 1 1 960 18 1 952 8 1 8711
  18 1 963 8 1 8706 1 1 949 1 1 952 1 1 954 1 1 966 1 1 961 1 1 960 18 1 952 8 1 8711 18 1 963 8 1
  8706 1 1 949 1 1 952 1 1 954 1 1 966 1 1 961 1 1 960 18 1 952 8 1 8711 18 1 963 8 1 8706 1 1 949
  1 1 952 1 1 954 1 1 966 1 1 961 1 1 960 18 1 952 8 1 8711 18 1 963 8 1 8706 1 1 949 1 1 952 1 1
  954 1 1 966 1 1 961 1 1 960 1 1 989 1 1 989 5687 1 1580 1 1 1583 2 1 1608 1 1 1586 1 1 1581 1 1
  1591 1 1 1610 5 1 1587 1 1 1593 1 1 1601 1 1 1589 1 1 1602 1 1 1585 1 1 1588 3 1 1582 1 1 1584 1
  1 1590 1 1 1592 1 1 1594 1 1 1646 1 1 1722 1 1 1697 1 1 1647 2 1 1576 1 1 1580 2 1 1607 3 1 1581
  2 1 1610 5 1 1587 1 1 1593 1 1 1601 1 1 1589 1 1 1602 2 1 1588 3 1 1582 2 1 1590 2 1 1594 7 1
  1580 5 1 1581 2 1 1610 5 1 1587 1 1 1593 2 1 1589 1 1 1602 2 1 1588 3 1 1582 2 1 1590 2 1 1594 2
  1 1722 2 1 1647 2 1 1576 1 1 1580 2 1 1607 3 1 1581 1 1 1591 1 1 1610 4 1 1606 1 1 1587 1 1 1593
  1 1 1601 1 1 1589 1 1 1602 2 1 1588 3 1 1582 2 1 1590 1 1 1592 1 1 1594 1 1 1646 2 1 1697 4 1
  1580 1 1 1583 3 1 1586 1 1 1581 1 1 1591 1 1 1610 5 1 1587 1 1 1593 1 1 1601 1 1 1589 1 1 1602 1
  1 1585 1 1 1588 3 1 1582 1 1 1584 1 1 1590 1 1 1592 1 1 1594 6 1 1576 1 1 1580 1 1 1583 2 1 1608
  1 1 1586 1 1 1581 1 1 1591 1 1 1610 5 1 1587 1 1 1593 1 1 1601 1 1 1589 1 1 1602 1 1 1585 1 1
  1588 3 1 1582 1 1 1584 1 1 1590 1 1 1592 1 1 1594 582 2 48 44 1 2 49 44 1 2 50 44 1 2 51 44 1 2
  52 44 1 2 53 44 1 2 54 44 1 2 55 44 1 2 56 44 1 2 57 44 6 3 40 97 41 1 3 40 98 41 1 3 40 99 41 1
  3 40 100 41 1 3 40 101 41 1 3 40 102 41 1 3 40 103 41 1 3 40 104 41 1 3 40 105 41 1 3 40 106 41
  1 3 40 107 41 1 3 40 108 41 1 3 40 109 41 1 3 40 110 41 1 3 40 111 41 1 3 40 112 41 1 3 40 113
  41 1 3 40 114 41 1 3 40 115 41 1 3 40 116 41 1 3 40 117 41 1 3 40 118 41 1 3 40 119 41 1 3 40
  120 41 1 3 40 121 41 1 3 40 122 41 1 3 12308 115 12309 1 1 99 1 1 114 1 2 99 100 1 2 119 122 28
  2 104 118 1 2 109 118 1 2 115 100 1 2 115 115 1 3 112 112 118 1 2 119 99 27 2 109 99 1 2 109 100
  1 2 109 114 36 2 100 106 112 2 12411 12363 1 2 12467 12467 1 1 12469 14 1 25163 1 1 23383 1 1
  21452 1 1 12487 1 1 20108 1 1 22810 1 1 35299 1 1 22825 1 1 20132 1 1 26144 1 1 28961 1 1 26009
  1 1 21069 1 1 24460 1 1 20877 1 1 26032 1 1 21021 1 1 32066 1 1 29983 1 1 36009 1 1 22768 1 1
  21561 1 1 28436 1 1 25237 1 1 25429 1 1 19968 1 1 19977 1 1 36938 1 1 24038 1 1 20013 1 1 21491
  1 1 25351 1 1 36208 1 1 25171 1 1 31105 1 1 31354 1 1 21512 1 1 28288 1 1 26377 1 1 26376 1 1
  30003 1 1 21106 1 1 21942 1 1 37197 5 3 12308 26412 12309 1 3 12308 19977 12309 1 3 12308 20108
  12309 1 3 12308 23433 12309 1 3 12308 28857 12309 1 3 12308 25171 12309 1 3 12308 30423 12309 1
  3 12308 21213 12309 1 3 12308 25943 12309 8 1 24471 1 1 21487"

/-- The first and last characters of the ranges that are dropped. -/
def droppedRanges : List (Nat × Nat) :=
  [(0x034F, 0x034F), (0x115F, 0x1160), (0x17B4, 0x17B5), (0x180B, 0x180D), (0x180F, 0x180F), (0x3164, 0x3164),
    (0xFE00, 0xFE0F), (0xFFA0, 0xFFA0), (0xE0100, 0xE01EF)]

/-- Places rows one after the other from a code point on. -/
def placeShifts (before : Nat) : List Nat → List (Nat × Shift)
  | gap :: count :: stride :: target :: rest =>
    (before + gap, ⟨count, stride, target⟩) :: placeShifts (before + gap) rest
  | _ => []

/-- Places single characters one after the other from a code point on; what is left to be done is bounded
by the number of the numbers. -/
def placeExpansions : Nat → Nat → List Nat → List (Nat × List Char)
  | bound + 1, before, gap :: count :: rest =>
    (before + gap, (rest.take count).map Char.ofNat) ::
      placeExpansions bound (before + gap) (rest.drop count)
  | _, _, _ => []

/-- The table of rows, ready for look-ups. -/
def shiftTable : RunTable Shift := ⟨(placeShifts 0 (RunTable.numbers shiftEntries)).toArray⟩

/-- The table of single characters, ready for look-ups. -/
def expansionTable : RunTable (List Char) :=
  let entries := RunTable.numbers expansionEntries
  ⟨(placeExpansions entries.length 0 entries).toArray⟩

/-- What a character of a row is mapped to. -/
def shifted? (c : Char) : Option Char :=
  match shiftTable.runAt? c with
  | none => none
  | some (first, row) =>
    let distance := c.toNat - first
    if distance < row.count * row.stride ∧ distance % row.stride = 0 then
      some (Char.ofNat (row.target + distance))
    else none

/-- Whether a character is dropped. -/
def isDropped (c : Char) : Bool :=
  droppedRanges.any fun (first, last) => first ≤ c.toNat && c.toNat ≤ last

/-- What a character is mapped to; most characters stay as they are. -/
def mapped (c : Char) : List Char :=
  match shifted? c with
  | some d => [d]
  | none => if isDropped c then [] else (expansionTable.entryAt? c).getD [c]

/-- A name with all its characters mapped. -/
def remapped (cs : List Char) : List Char := Canonical.composed (cs.flatMap mapped)

end Intake.DomainName
