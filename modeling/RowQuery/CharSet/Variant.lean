/-
# Case variants

Characters that differ in nothing but their case are variants of each other:
`k`, `K` and the Kelvin sign, or the three small and capital forms of sigma.
There are at most four in a class. A set without case has with a character all
its variants.

Key definitions: `CharSet.nextVariants`, `CharSet.caseless`, `CharSet.asciiCaseless`.
-/
import RowQuery.CharSet

namespace RowQuery.CharSet

/-- The next one among the variants of a character, from the last one back to the first. -/
def variantMap : Text.CharMap := .ofLines
  ["65 26 1 97 97 10 1 65 107 1 1 8490 108 8 2 76 109 3 2 77 115 1 1 383 117 3 2 85 181 1 1 924",
   "192 23 1 224 216 7 1 248 223 1 1 7838 224 16 2 192 225 2 2 193 229 1 1 8491 231 8 2 199 249",
   "3 2 217 255 1 1 376 256 24 2 257 257 24 2 256 306 3 2 307 307 3 2 306 313 8 2 314 314 8 2",
   "313 330 23 2 331 331 23 2 330 376 1 1 255 377 3 2 378 378 3 2 377 383 1 1 83 384 1 1 579 385",
   "1 1 595 386 2 2 387 387 2 2 386 390 1 1 596 391 1 1 392 392 1 1 391 393 2 1 598 395 1 1 396",
   "396 1 1 395 398 1 1 477 399 1 1 601 400 1 1 603 401 1 1 402 402 1 1 401 403 1 1 608 404 1 1",
   "611 405 1 1 502 406 1 1 617 407 1 1 616 408 1 1 409 409 1 1 408 410 1 1 573 411 1 1 42972",
   "412 1 1 623 413 1 1 626 414 1 1 544 415 1 1 629 416 3 2 417 417 3 2 416 422 1 1 640 423 1 1",
   "424 424 1 1 423 425 1 1 643 428 1 1 429 429 1 1 428 430 1 1 648 431 1 1 432 432 1 1 431 433",
   "2 1 650 435 2 2 436 436 2 2 435 439 1 1 658 440 1 1 441 441 1 1 440 444 1 1 445 445 1 1 444",
   "447 1 1 503 452 2 1 453 454 1 1 452 455 2 1 456 457 1 1 455 458 2 1 459 460 1 1 458 461 8 2",
   "462 462 8 2 461 477 1 1 398 478 9 2 479 479 9 2 478 497 2 1 498 499 1 1 497 500 1 1 501 501",
   "1 1 500 502 1 1 405 503 1 1 447 504 20 2 505 505 20 2 504 544 1 1 414 546 9 2 547 547 9 2",
   "546 570 1 1 11365 571 1 1 572 572 1 1 571 573 1 1 410 574 1 1 11366 575 2 1 11390 577 1 1",
   "578 578 1 1 577 579 1 1 384 580 1 1 649 581 1 1 652 582 5 2 583 583 5 2 582 592 1 1 11375",
   "593 1 1 11373 594 1 1 11376 595 1 1 385 596 1 1 390 598 2 1 393 601 1 1 399 603 1 1 400 604",
   "1 1 42923 608 1 1 403 609 1 1 42924 611 1 1 404 612 1 1 42955 613 1 1 42893 614 1 1 42922",
   "616 1 1 407 617 1 1 406 618 1 1 42926 619 1 1 11362 620 1 1 42925 623 1 1 412 625 1 1 11374",
   "626 1 1 413 629 1 1 415 637 1 1 11364 640 1 1 422 642 1 1 42949 643 1 1 425 647 1 1 42929",
   "648 1 1 430 649 1 1 580 650 2 1 433 652 1 1 581 658 1 1 439 669 1 1 42930 670 1 1 42928 837",
   "1 1 921 880 2 2 881 881 2 2 880 886 1 1 887 887 1 1 886 891 3 1 1021 895 1 1 1011 902 1 1",
   "940 904 3 1 941 908 1 1 972 910 2 1 973 912 1 1 8147 913 17 1 945 931 1 1 962 932 8 1 964",
   "940 1 1 902 941 3 1 904 944 1 1 8163 945 2 2 913 946 1 1 976 948 2 2 916 949 1 1 1013 951 1",
   "1 919 952 1 1 977 953 1 1 8126 954 1 1 1008 955 3 2 923 956 1 1 181 958 1 1 926 960 1 1 982",
   "961 1 1 1009 962 1 1 963 963 3 1 931 966 1 1 981 967 2 1 935 969 1 1 8486 970 2 1 938 972 1",
   "1 908 973 2 1 910 975 1 1 983 976 1 1 914 977 1 1 1012 981 1 1 934 982 1 1 928 983 1 1 975",
   "984 12 2 985 985 12 2 984 1008 1 1 922 1009 1 1 929 1010 1 1 1017 1011 1 1 895 1012 1 1 920",
   "1013 1 1 917 1015 1 1 1016 1016 1 1 1015 1017 1 1 1010 1018 1 1 1019 1019 1 1 1018 1021 3 1",
   "891 1024 16 1 1104 1040 32 1 1072 1072 2 1 1040 1074 1 1 7296 1075 7 2 1043 1076 1 1 7297",
   "1078 4 2 1046 1086 1 1 7298 1088 1 1 1056 1089 2 1 7299 1091 7 1 1059 1098 1 1 7302 1099 5 1",
   "1067 1104 16 1 1024 1120 17 2 1121 1121 1 1 1120 1123 1 1 7303 1125 15 2 1124 1162 27 2 1163",
   "1163 27 2 1162 1216 1 1 1231 1217 7 2 1218 1218 7 2 1217 1231 1 1 1216 1232 48 2 1233 1233",
   "48 2 1232 1329 38 1 1377 1377 38 1 1329 4256 38 1 11520 4295 1 1 11559 4301 1 1 11565 4304",
   "43 1 7312 4349 3 1 7357 5024 80 1 43888 5104 6 1 5112 5112 6 1 5104 7296 1 1 1042 7297 1 1",
   "1044 7298 1 1 1054 7299 1 1 1057 7300 1 1 7301 7301 1 1 1058 7302 1 1 1066 7303 1 1 1122",
   "7304 1 1 42570 7305 1 1 7306 7306 1 1 7305 7312 43 1 4304 7357 3 1 4349 7545 1 1 42877 7549",
   "1 1 11363 7566 1 1 42950 7680 75 2 7681 7681 48 2 7680 7777 1 1 7835 7779 26 2 7778 7835 1 1",
   "7776 7838 1 1 223 7840 48 2 7841 7841 48 2 7840 7936 8 1 7944 7944 8 1 7936 7952 6 1 7960",
   "7960 6 1 7952 7968 8 1 7976 7976 8 1 7968 7984 8 1 7992 7992 8 1 7984 8000 6 1 8008 8008 6 1",
   "8000 8017 4 2 8025 8025 4 2 8017 8032 8 1 8040 8040 8 1 8032 8048 2 1 8122 8050 4 1 8136",
   "8054 2 1 8154 8056 2 1 8184 8058 2 1 8170 8060 2 1 8186 8064 8 1 8072 8072 8 1 8064 8080 8 1",
   "8088 8088 8 1 8080 8096 8 1 8104 8104 8 1 8096 8112 2 1 8120 8115 1 1 8124 8120 2 1 8112",
   "8122 2 1 8048 8124 1 1 8115 8126 1 1 837 8131 1 1 8140 8136 4 1 8050 8140 1 1 8131 8144 2 1",
   "8152 8147 1 1 912 8152 2 1 8144 8154 2 1 8054 8160 2 1 8168 8163 1 1 944 8165 1 1 8172 8168",
   "2 1 8160 8170 2 1 8058 8172 1 1 8165 8179 1 1 8188 8184 2 1 8056 8186 2 1 8060 8188 1 1 8179",
   "8486 1 1 937 8490 1 1 75 8491 1 1 197 8498 1 1 8526 8526 1 1 8498 8544 16 1 8560 8560 16 1",
   "8544 8579 1 1 8580 8580 1 1 8579 9398 26 1 9424 9424 26 1 9398 11264 48 1 11312 11312 48 1",
   "11264 11360 1 1 11361 11361 1 1 11360 11362 1 1 619 11363 1 1 7549 11364 1 1 637 11365 1 1",
   "570 11366 1 1 574 11367 3 2 11368 11368 3 2 11367 11373 1 1 593 11374 1 1 625 11375 1 1 592",
   "11376 1 1 594 11378 1 1 11379 11379 1 1 11378 11381 1 1 11382 11382 1 1 11381 11390 2 1 575",
   "11392 50 2 11393 11393 50 2 11392 11499 2 2 11500 11500 2 2 11499 11506 1 1 11507 11507 1 1",
   "11506 11520 38 1 4256 11559 1 1 4295 11565 1 1 4301 42560 23 2 42561 42561 5 2 42560 42571 1",
   "1 7304 42573 17 2 42572 42624 14 2 42625 42625 14 2 42624 42786 7 2 42787 42787 7 2 42786",
   "42802 31 2 42803 42803 31 2 42802 42873 2 2 42874 42874 2 2 42873 42877 1 1 7545 42878 5 2",
   "42879 42879 5 2 42878 42891 1 1 42892 42892 1 1 42891 42893 1 1 613 42896 2 2 42897 42897 2",
   "2 42896 42900 1 1 42948 42902 10 2 42903 42903 10 2 42902 42922 1 1 614 42923 1 1 604 42924",
   "1 1 609 42925 1 1 620 42926 1 1 618 42928 1 1 670 42929 1 1 647 42930 1 1 669 42931 1 1",
   "43859 42932 8 2 42933 42933 8 2 42932 42948 1 1 42900 42949 1 1 642 42950 1 1 7566 42951 2 2",
   "42952 42952 2 2 42951 42955 1 1 612 42956 1 1 42957 42957 1 1 42956 42960 1 1 42961 42961 1",
   "1 42960 42966 3 2 42967 42967 3 2 42966 42972 1 1 411 42997 1 1 42998 42998 1 1 42997 43859",
   "1 1 42931 43888 80 1 5024 64261 1 1 64262 64262 1 1 64261 65313 26 1 65345 65345 26 1 65313",
   "66560 40 1 66600 66600 40 1 66560 66736 36 1 66776 66776 36 1 66736 66928 19 2 66967 66929 5",
   "2 66968 66941 7 2 66980 66957 3 2 66996 66965 1 1 67004 66967 19 2 66928 66968 5 2 66929",
   "66980 7 2 66941 66996 3 2 66957 67004 1 1 66965 68736 51 1 68800 68800 51 1 68736 68944 22 1",
   "68976 68976 22 1 68944 71840 32 1 71872 71872 32 1 71840 93760 32 1 93792 93792 32 1 93760",
   "125184 34 1 125218 125218 34 1 125184"]

/-- Every character that has variants, with the next of them, in order. -/
def nextVariants : List (Nat × Nat) :=
  (variantMap.stretches.flatMap fun s =>
    (List.range s.count).map fun n => (s.first + n * s.stride, s.image + n * s.stride)).mergeSort
      startsFirst

/-- The images of the members of some ranges; both lists are in order. -/
def images : List (Nat × Nat) → List (Nat × Nat) → List Nat
  | [], _ => []
  | _, [] => []
  | (n, image) :: pairs, (low, high) :: ranges =>
    if n < low then images pairs ((low, high) :: ranges)
    else if high < n then images ((n, image) :: pairs) ranges
    else image :: images pairs ((low, high) :: ranges)
  termination_by pairs ranges => pairs.length + ranges.length

/-- The set with the next variant of each member. -/
def withNextVariants (s : CharSet) : CharSet := s.union (ofPoints (images nextVariants s.ranges))

/-- The set with all variants of its members: three steps lead through a class of four. -/
def caseless (s : CharSet) : CharSet := s.withNextVariants.withNextVariants.withNextVariants

/-- The letters A to Z, each with its other form, in order. -/
def asciiPairs : List (Nat × Nat) :=
  ((List.range 26).map fun n => (65 + n, 97 + n)) ++ (List.range 26).map fun n => (97 + n, 65 + n)

/-- The set with both forms of the letters A to Z among its members. -/
def asciiCaseless (s : CharSet) : CharSet := s.union (ofPoints (images asciiPairs s.ranges))

end RowQuery.CharSet
