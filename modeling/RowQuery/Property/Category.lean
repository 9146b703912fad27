/-
# General categories

Every code point is in one of thirty categories: capital letters, small letters,
decimal digits, currency signs, and so on. Some categories form groups: all
letters, all marks. Categories and groups have names in small letters; the
surrogates are no characters, and their category has none. The categories are
those of version 16 of the standard.

Key definitions: `Property.categoryLabels`, `Property.category?`.
-/
import RowQuery.CharSet

namespace RowQuery.Property

/-- The names of each category; its place in the list is its number. -/
def categoryNames : List (List String) :=
  [["lu", "uppercaseletter"],
   ["ll", "lowercaseletter"],
   ["lt", "titlecaseletter"],
   ["lm", "modifierletter"],
   ["lo", "otherletter"],
   ["mn", "nonspacingmark"],
   ["mc", "spacingmark"],
   ["me", "enclosingmark"],
   ["nd", "decimalnumber", "digit"],
   ["nl", "letternumber"],
   ["no", "othernumber"],
   ["pc", "connectorpunctuation"],
   ["pd", "dashpunctuation"],
   ["ps", "openpunctuation"],
   ["pe", "closepunctuation"],
   ["pi", "initialpunctuation"],
   ["pf", "finalpunctuation"],
   ["po", "otherpunctuation"],
   ["sm", "mathsymbol"],
   ["sc", "currencysymbol"],
   ["sk", "modifiersymbol"],
   ["so", "othersymbol"],
   ["zs", "spaceseparator"],
   ["zl", "lineseparator"],
   ["zp", "paragraphseparator"],
   ["cc", "control", "cntrl"],
   ["cf", "format"],
   [],
   ["co", "privateuse"],
   ["cn", "unassigned"]]

/-- The names of each group of categories, and the numbers of the categories. -/
def categoryGroups : List (List String × List Nat) :=
  [(["l", "letter"], [0, 1, 2, 3, 4]),
   (["lc", "casedletter"], [0, 1, 2]),
   (["m", "mark", "combiningmark"], [5, 6, 7]),
   (["n", "number"], [8, 9, 10]),
   (["p", "punctuation", "punct"], [11, 12, 13, 14, 15, 16, 17]),
   (["s", "symbol"], [18, 19, 20, 21]),
   (["z", "separator"], [22, 23, 24]),
   (["c", "other"], [25, 26, 27, 28, 29])]

/-- The category of every code point. -/
def categoryLabels : Text.Labels := .ofLines
  ["32 25 1 22 3 17 1 19 3 17 1 13 1 14 1 17 1 18 1 17 1 12 2 17 10 8 2 17 3 18 2 17 26 0 1 13 1",
   "17 1 14 1 20 1 11 1 20 26 1 1 13 1 18 1 14 1 18 33 25 1 22 1 17 4 19 1 21 1 17 1 20 1 21 1 4",
   "1 15 1 18 1 26 1 21 1 20 1 21 1 18 2 10 1 20 1 1 2 17 1 20 1 10 1 4 1 16 3 10 1 17 23 0 1 18",
   "7 0 24 1 1 18 8 1 1 0 1 1 1 0 1 1 1 0 1 1 1 0 1 1 1 0 1 1 1 0 1 1 1 0 1 1 1 0 1 1 1 0 1 1 1",
   "0 1 1 1 0 1 1 1 0 1 1 1 0 1 1 1 0 1 1 1 0 1 1 1 0 1 1 1 0 1 1 1 0 1 1 1 0 1 1 1 0 1 1 1 0 1",
   "1 1 0 1 1 1 0 1 1 1 0 1 1 1 0 1 1 1 0 1 1 1 0 1 1 1 0 2 1 1 0 1 1 1 0 1 1 1 0 1 1 1 0 1 1 1",
   "0 1 1 1 0 1 1 1 0 1 1 1 0 2 1 1 0 1 1 1 0 1 1 1 0 1 1 1 0 1 1 1 0 1 1 1 0 1 1 1 0 1 1 1 0 1",
   "1 1 0 1 1 1 0 1 1 1 0 1 1 1 0 1 1 1 0 1 1 1 0 1 1 1 0 1 1 1 0 1 1 1 0 1 1 1 0 1 1 1 0 1 1 1",
   "0 1 1 1 0 1 1 1 0 1 1 1 0 1 1 2 0 1 1 1 0 1 1 1 0 3 1 2 0 1 1 1 0 1 1 2 0 1 1 3 0 2 1 4 0 1",
   "1 2 0 1 1 3 0 3 1 2 0 1 1 2 0 1 1 1 0 1 1 1 0 1 1 2 0 1 1 1 0 2 1 1 0 1 1 2 0 1 1 3 0 1 1 1",
   "0 1 1 2 0 2 1 1 4 1 0 3 1 4 4 1 0 1 2 1 1 1 0 1 2 1 1 1 0 1 2 1 1 1 0 1 1 1 0 1 1 1 0 1 1 1",
   "0 1 1 1 0 1 1 1 0 1 1 1 0 1 1 1 0 2 1 1 0 1 1 1 0 1 1 1 0 1 1 1 0 1 1 1 0 1 1 1 0 1 1 1 0 1",
   "1 1 0 1 1 1 0 2 1 1 0 1 2 1 1 1 0 1 1 3 0 1 1 1 0 1 1 1 0 1 1 1 0 1 1 1 0 1 1 1 0 1 1 1 0 1",
   "1 1 0 1 1 1 0 1 1 1 0 1 1 1 0 1 1 1 0 1 1 1 0 1 1 1 0 1 1 1 0 1 1 1 0 1 1 1 0 1 1 1 0 1 1 1",
   "0 1 1 1 0 1 1 1 0 1 1 1 0 1 1 1 0 1 1 1 0 1 1 1 0 1 1 1 0 1 1 1 0 1 1 1 0 1 1 1 0 1 1 1 0 7",
   "1 2 0 1 1 2 0 2 1 1 0 1 1 4 0 1 1 1 0 1 1 1 0 1 1 1 0 1 1 1 0 69 1 1 4 27 1 18 3 4 20 12 3",
   "14 20 5 3 7 20 1 3 1 20 1 3 17 20 112 5 1 0 1 1 1 0 1 1 1 3 1 20 1 0 1 1 2 29 1 3 3 1 1 17 1",
   "0 4 29 2 20 1 0 1 17 3 0 1 29 1 0 1 29 2 0 1 1 17 0 1 29 9 0 35 1 1 0 2 1 3 0 3 1 1 0 1 1 1",
   "0 1 1 1 0 1 1 1 0 1 1 1 0 1 1 1 0 1 1 1 0 1 1 1 0 1 1 1 0 1 1 1 0 1 1 1 0 1 1 1 0 5 1 1 0 1",
   "1 1 18 1 0 1 1 2 0 2 1 51 0 48 1 1 0 1 1 1 0 1 1 1 0 1 1 1 0 1 1 1 0 1 1 1 0 1 1 1 0 1 1 1 0",
   "1 1 1 0 1 1 1 0 1 1 1 0 1 1 1 0 1 1 1 0 1 1 1 0 1 1 1 0 1 1 1 0 1 1 1 0 1 1 1 21 5 5 2 7 1 0",
   "1 1 1 0 1 1 1 0 1 1 1 0 1 1 1 0 1 1 1 0 1 1 1 0 1 1 1 0 1 1 1 0 1 1 1 0 1 1 1 0 1 1 1 0 1 1",
   "1 0 1 1 1 0 1 1 1 0 1 1 1 0 1 1 1 0 1 1 1 0 1 1 1 0 1 1 1 0 1 1 1 0 1 1 1 0 1 1 1 0 1 1 1 0",
   "1 1 1 0 1 1 1 0 1 1 1 0 1 1 2 0 1 1 1 0 1 1 1 0 1 1 1 0 1 1 1 0 1 1 1 0 1 1 1 0 2 1 1 0 1 1",
   "1 0 1 1 1 0 1 1 1 0 1 1 1 0 1 1 1 0 1 1 1 0 1 1 1 0 1 1 1 0 1 1 1 0 1 1 1 0 1 1 1 0 1 1 1 0",
   "1 1 1 0 1 1 1 0 1 1 1 0 1 1 1 0 1 1 1 0 1 1 1 0 1 1 1 0 1 1 1 0 1 1 1 0 1 1 1 0 1 1 1 0 1 1",
   "1 0 1 1 1 0 1 1 1 0 1 1 1 0 1 1 1 0 1 1 1 0 1 1 1 0 1 1 1 0 1 1 1 0 1 1 1 0 1 1 1 0 1 1 1 0",
   "1 1 1 0 1 1 1 0 1 1 1 0 1 1 1 0 1 1 1 0 1 1 1 0 1 1 1 0 1 1 1 0 1 1 1 0 1 1 1 0 1 1 1 0 1 1",
   "1 0 1 1 1 29 38 0 2 29 1 3 6 17 41 1 1 17 1 12 2 29 2 21 1 19 1 29 45 5 1 12 1 5 1 17 2 5 1",
   "17 2 5 1 17 1 5 8 29 27 4 4 29 4 4 2 17 11 29 6 26 3 18 2 17 1 19 2 17 2 21 11 5 1 17 1 26 3",
   "17 32 4 1 3 10 4 21 5 10 8 4 17 2 4 1 5 99 4 1 17 1 4 7 5 1 26 1 21 6 5 2 3 2 5 1 21 4 5 2 4",
   "10 8 3 4 2 21 1 4 14 17 1 29 1 26 1 4 1 5 30 4 27 5 2 29 89 4 11 5 1 4 14 29 10 8 33 4 9 5 2",
   "3 1 21 3 17 1 3 2 29 1 5 2 19 22 4 4 5 1 3 9 5 1 3 3 5 1 3 5 5 2 29 15 17 1 29 25 4 3 5 2 29",
   "1 17 1 29 11 4 5 29 24 4 1 20 6 4 1 29 2 26 5 29 9 5 41 4 1 3 24 5 1 26 32 5 1 6 54 4 1 5 1",
   "6 1 5 1 4 3 6 8 5 4 6 1 5 2 6 1 4 7 5 10 4 2 5 2 17 10 8 1 17 1 3 15 4 1 5 2 6 1 29 8 4 2 29",
   "2 4 2 29 22 4 1 29 7 4 1 29 1 4 3 29 4 4 2 29 1 5 1 4 3 6 4 5 2 29 2 6 2 29 2 6 1 5 1 4 8 29",
   "1 6 4 29 2 4 1 29 3 4 2 5 2 29 10 8 2 4 2 19 6 10 1 21 1 19 1 4 1 17 1 5 2 29 2 5 1 6 1 29 6",
   "4 4 29 2 4 2 29 22 4 1 29 7 4 1 29 2 4 1 29 2 4 1 29 2 4 2 29 1 5 1 29 3 6 2 5 4 29 2 5 2 29",
   "3 5 3 29 1 5 7 29 4 4 1 29 1 4 7 29 10 8 2 5 3 4 1 5 1 17 10 29 2 5 1 6 1 29 9 4 1 29 3 4 1",
   "29 22 4 1 29 7 4 1 29 2 4 1 29 5 4 2 29 1 5 1 4 3 6 5 5 1 29 2 5 1 6 1 29 2 6 1 5 2 29 1 4",
   "15 29 2 4 2 5 2 29 10 8 1 17 1 19 7 29 1 4 6 5 1 29 1 5 2 6 1 29 8 4 2 29 2 4 2 29 22 4 1 29",
   "7 4 1 29 2 4 1 29 5 4 2 29 1 5 1 4 1 6 1 5 1 6 4 5 2 29 2 6 2 29 2 6 1 5 7 29 2 5 1 6 4 29 2",
   "4 1 29 3 4 2 5 2 29 10 8 1 21 1 4 6 10 10 29 1 5 1 4 1 29 6 4 3 29 3 4 1 29 4 4 3 29 2 4 1",
   "29 1 4 1 29 2 4 3 29 2 4 3 29 3 4 3 29 12 4 4 29 2 6 1 5 2 6 3 29 3 6 1 29 3 6 1 5 2 29 1 4",
   "6 29 1 6 14 29 10 8 3 10 6 21 1 19 1 21 5 29 1 5 3 6 1 5 8 4 1 29 3 4 1 29 23 4 1 29 16 4 2",
   "29 1 5 1 4 3 5 4 6 1 29 3 5 1 29 4 5 7 29 2 5 1 29 3 4 2 29 1 4 2 29 2 4 2 5 2 29 10 8 7 29",
   "1 17 7 10 1 21 1 4 1 5 2 6 1 17 8 4 1 29 3 4 1 29 23 4 1 29 10 4 1 29 5 4 2 29 1 5 1 4 1 6 1",
   "5 5 6 1 29 1 5 2 6 1 29 2 6 2 5 7 29 2 6 6 29 2 4 1 29 2 4 2 5 2 29 10 8 1 29 2 4 1 6 12 29",
   "2 5 2 6 9 4 1 29 3 4 1 29 41 4 2 5 1 4 3 6 4 5 1 29 3 6 1 29 3 6 1 5 1 4 1 21 4 29 3 4 1 6 7",
   "10 3 4 2 5 2 29 10 8 9 10 1 21 6 4 1 29 1 5 2 6 1 29 18 4 3 29 24 4 1 29 9 4 1 29 1 4 2 29 7",
   "4 3 29 1 5 4 29 3 6 3 5 1 29 1 5 1 29 8 6 6 29 10 8 2 29 2 6 1 17 12 29 48 4 1 5 2 4 7 5 4",
   "29 1 19 6 4 1 3 8 5 1 17 10 8 2 17 37 29 2 4 1 29 1 4 1 29 5 4 1 29 24 4 1 29 1 4 1 29 10 4",
   "1 5 2 4 9 5 1 4 2 29 5 4 1 29 1 3 1 29 7 5 1 29 10 8 2 29 4 4 32 29 1 4 3 21 15 17 1 21 1 17",
   "3 21 2 5 6 21 10 8 10 10 1 21 1 5 1 21 1 5 1 21 1 5 1 13 1 14 1 13 1 14 2 6 8 4 1 29 36 4 4",
   "29 14 5 1 6 5 5 1 17 2 5 5 4 11 5 1 29 36 5 1 29 8 21 1 5 6 21 1 29 2 21 5 17 4 21 2 17 37",
   "29 43 4 2 6 4 5 1 6 6 5 1 6 2 5 2 6 2 5 1 4 10 8 6 17 6 4 2 6 2 5 4 4 3 5 1 4 3 6 2 4 7 6 3",
   "4 4 5 13 4 1 5 2 6 2 5 6 6 1 5 1 4 1 6 10 8 3 6 1 5 2 21 38 0 1 29 1 0 5 29 1 0 2 29 43 1 1",
   "17 1 3 3 1 329 4 1 29 4 4 2 29 7 4 1 29 1 4 1 29 4 4 2 29 41 4 1 29 4 4 2 29 33 4 1 29 4 4 2",
   "29 7 4 1 29 1 4 1 29 4 4 2 29 15 4 1 29 57 4 1 29 4 4 2 29 67 4 2 29 3 5 9 17 20 10 3 29 16",
   "4 10 21 6 29 86 0 2 29 6 1 2 29 1 12 620 4 1 21 1 17 17 4 1 22 26 4 1 13 1 14 3 29 75 4 3 17",
   "3 9 8 4 7 29 18 4 3 5 1 6 9 29 19 4 2 5 1 6 2 17 9 29 18 4 2 5 12 29 13 4 1 29 3 4 1 29 2 5",
   "12 29 52 4 2 5 1 6 7 5 8 6 1 5 2 6 11 5 3 17 1 3 3 17 1 19 1 4 1 5 2 29 10 8 6 29 10 10 6 29",
   "6 17 1 12 4 17 3 5 1 26 1 5 10 8 6 29 35 4 1 3 53 4 7 29 5 4 2 5 34 4 1 5 1 4 5 29 70 4 10",
   "29 31 4 1 29 3 5 4 6 2 5 3 6 4 29 2 6 1 5 6 6 3 5 4 29 1 21 3 29 2 17 10 8 30 4 2 29 5 4 11",
   "29 44 4 4 29 26 4 6 29 10 8 1 10 3 29 34 21 23 4 2 5 2 6 1 5 2 29 2 17 53 4 1 6 1 5 1 6 7 5",
   "1 29 1 5 1 6 1 5 2 6 8 5 6 6 10 5 2 29 1 5 10 8 6 29 10 8 6 29 7 17 1 3 6 17 2 29 14 5 1 7",
   "16 5 49 29 4 5 1 6 47 4 1 5 1 6 5 5 1 6 1 5 5 6 1 5 2 6 8 4 1 29 2 17 10 8 7 17 10 21 9 5 9",
   "21 3 17 2 5 1 6 30 4 1 6 4 5 2 6 2 5 1 6 3 5 2 4 10 8 44 4 1 5 1 6 2 5 3 6 1 5 1 6 3 5 2 6 8",
   "29 4 17 36 4 8 6 8 5 2 6 2 5 3 29 5 17 10 8 3 29 3 4 10 8 30 4 6 3 2 17 9 1 1 0 1 1 5 29 43",
   "0 2 29 3 0 8 17 8 29 3 5 1 17 13 5 1 6 7 5 4 4 1 5 6 4 1 5 2 4 1 6 2 5 1 4 5 29 44 1 63 3 13",
   "1 1 3 34 1 37 3 64 5 1 0 1 1 1 0 1 1 1 0 1 1 1 0 1 1 1 0 1 1 1 0 1 1 1 0 1 1 1 0 1 1 1 0 1 1",
   "1 0 1 1 1 0 1 1 1 0 1 1 1 0 1 1 1 0 1 1 1 0 1 1 1 0 1 1 1 0 1 1 1 0 1 1 1 0 1 1 1 0 1 1 1 0",
   "1 1 1 0 1 1 1 0 1 1 1 0 1 1 1 0 1 1 1 0 1 1 1 0 1 1 1 0 1 1 1 0 1 1 1 0 1 1 1 0 1 1 1 0 1 1",
   "1 0 1 1 1 0 1 1 1 0 1 1 1 0 1 1 1 0 1 1 1 0 1 1 1 0 1 1 1 0 1 1 1 0 1 1 1 0 1 1 1 0 1 1 1 0",
   "1 1 1 0 1 1 1 0 1 1 1 0 1 1 1 0 1 1 1 0 1 1 1 0 1 1 1 0 1 1 1 0 1 1 1 0 1 1 1 0 1 1 1 0 1 1",
   "1 0 1 1 1 0 1 1 1 0 1 1 1 0 1 1 1 0 1 1 1 0 1 1 1 0 1 1 1 0 1 1 1 0 1 1 1 0 1 1 1 0 1 1 1 0",
   "1 1 1 0 1 1 1 0 1 1 1 0 1 1 1 0 1 1 1 0 1 1 1 0 1 1 1 0 1 1 1 0 9 1 1 0 1 1 1 0 1 1 1 0 1 1",
   "1 0 1 1 1 0 1 1 1 0 1 1 1 0 1 1 1 0 1 1 1 0 1 1 1 0 1 1 1 0 1 1 1 0 1 1 1 0 1 1 1 0 1 1 1 0",
   "1 1 1 0 1 1 1 0 1 1 1 0 1 1 1 0 1 1 1 0 1 1 1 0 1 1 1 0 1 1 1 0 1 1 1 0 1 1 1 0 1 1 1 0 1 1",
   "1 0 1 1 1 0 1 1 1 0 1 1 1 0 1 1 1 0 1 1 1 0 1 1 1 0 1 1 1 0 1 1 1 0 1 1 1 0 1 1 1 0 1 1 1 0",
   "1 1 1 0 1 1 1 0 1 1 1 0 1 1 1 0 1 1 1 0 1 1 1 0 1 1 1 0 1 1 1 0 1 1 1 0 1 1 1 0 1 1 1 0 9 1",
   "8 0 6 1 2 29 6 0 2 29 8 1 8 0 8 1 8 0 6 1 2 29 6 0 2 29 8 1 1 29 1 0 1 29 1 0 1 29 1 0 1 29",
   "1 0 8 1 8 0 14 1 2 29 8 1 8 2 8 1 8 2 8 1 8 2 5 1 1 29 2 1 4 0 1 2 1 20 1 1 3 20 3 1 1 29 2",
   "1 4 0 1 2 3 20 4 1 2 29 2 1 4 0 1 29 3 20 8 1 5 0 3 20 2 29 3 1 1 29 2 1 4 0 1 2 2 20 1 29",
   "11 22 5 26 6 12 2 17 1 15 1 16 1 13 2 15 1 16 1 13 1 15 8 17 1 23 1 24 5 26 1 22 9 17 1 15 1",
   "16 4 17 2 11 3 17 1 18 1 13 1 14 11 17 1 18 1 17 1 11 10 17 1 22 5 26 1 29 10 26 1 10 1 3 2",
   "29 6 10 3 18 1 13 1 14 1 3 10 10 3 18 1 13 1 14 1 29 13 3 3 29 33 19 15 29 13 5 4 7 1 5 3 7",
   "12 5 15 29 2 21 1 0 4 21 1 0 2 21 1 1 3 0 2 1 3 0 1 1 1 21 1 0 2 21 1 18 5 0 6 21 1 0 1 21 1",
   "0 1 21 1 0 1 21 4 0 1 21 1 1 4 0 1 1 4 4 1 1 2 21 2 1 2 0 5 18 1 0 4 1 1 21 1 18 2 21 1 1 1",
   "21 16 10 35 9 1 0 1 1 4 9 1 10 2 21 4 29 5 18 5 21 2 18 4 21 1 18 2 21 1 18 2 21 1 18 7 21 1",
   "18 31 21 2 18 2 21 1 18 1 21 1 18 31 21 268 18 8 21 1 13 1 14 1 13 1 14 20 21 2 18 7 21 1 13",
   "1 14 81 21 1 18 30 21 25 18 40 21 6 18 72 21 22 29 11 21 21 29 60 10 78 21 22 10 183 21 1 18",
   "9 21 1 18 54 21 8 18 111 21 1 18 248 21 1 13 1 14 1 13 1 14 1 13 1 14 1 13 1 14 1 13 1 14 1",
   "13 1 14 1 13 1 14 30 10 44 21 5 18 1 13 1 14 31 18 1 13 1 14 1 13 1 14 1 13 1 14 1 13 1 14 1",
   "13 1 14 16 18 256 21 131 18 1 13 1 14 1 13 1 14 1 13 1 14 1 13 1 14 1 13 1 14 1 13 1 14 1 13",
   "1 14 1 13 1 14 1 13 1 14 1 13 1 14 1 13 1 14 63 18 1 13 1 14 1 13 1 14 32 18 1 13 1 14 258",
   "18 48 21 21 18 2 21 6 18 39 21 2 29 32 21 1 29 105 21 48 0 48 1 1 0 1 1 3 0 2 1 1 0 1 1 1 0",
   "1 1 1 0 1 1 4 0 1 1 1 0 2 1 1 0 6 1 2 3 3 0 1 1 1 0 1 1 1 0 1 1 1 0 1 1 1 0 1 1 1 0 1 1 1 0",
   "1 1 1 0 1 1 1 0 1 1 1 0 1 1 1 0 1 1 1 0 1 1 1 0 1 1 1 0 1 1 1 0 1 1 1 0 1 1 1 0 1 1 1 0 1 1",
   "1 0 1 1 1 0 1 1 1 0 1 1 1 0 1 1 1 0 1 1 1 0 1 1 1 0 1 1 1 0 1 1 1 0 1 1 1 0 1 1 1 0 1 1 1 0",
   "1 1 1 0 1 1 1 0 1 1 1 0 1 1 1 0 1 1 1 0 1 1 1 0 1 1 1 0 1 1 1 0 1 1 1 0 1 1 1 0 1 1 1 0 1 1",
   "1 0 1 1 1 0 1 1 1 0 1 1 1 0 1 1 1 0 1 1 1 0 1 1 1 0 1 1 1 0 1 1 1 0 2 1 6 21 1 0 1 1 1 0 1 1",
   "3 5 1 0 1 1 5 29 4 17 1 10 2 17 38 1 1 29 1 1 5 29 1 1 2 29 56 4 7 29 1 3 1 17 14 29 1 5 23",
   "4 9 29 7 4 1 29 7 4 1 29 7 4 1 29 7 4 1 29 7 4 1 29 7 4 1 29 7 4 1 29 7 4 1 29 32 5 2 17 1",
   "15 1 16 1 15 1 16 3 17 1 15 1 16 1 17 1 15 1 16 9 17 1 12 2 17 1 12 1 17 1 15 1 16 2 17 1 15",
   "1 16 1 13 1 14 1 13 1 14 1 13 1 14 1 13 1 14 5 17 1 3 10 17 2 12 4 17 1 12 1 17 1 13 13 17 2",
   "21 3 17 1 13 1 14 1 13 1 14 1 13 1 14 1 13 1 14 1 12 34 29 26 21 1 29 89 21 12 29 214 21 26",
   "29 16 21 1 22 3 17 1 21 1 3 1 4 1 9 1 13 1 14 1 13 1 14 1 13 1 14 1 13 1 14 1 13 1 14 2 21 1",
   "13 1 14 1 13 1 14 1 13 1 14 1 13 1 14 1 12 1 13 2 14 1 21 9 9 4 5 2 6 1 12 5 3 2 21 3 9 1 3",
   "1 4 1 17 2 21 1 29 86 4 2 29 2 5 2 20 2 3 1 4 1 12 90 4 1 17 3 3 1 4 5 29 43 4 1 29 94 4 1",
   "29 2 21 4 10 10 21 32 4 38 21 9 29 1 21 16 4 31 21 1 29 10 10 30 21 8 10 1 21 15 10 32 21 10",
   "10 39 21 15 10 320 21 6592 4 64 21 21013 4 1 3 1143 4 3 29 55 21 9 29 40 4 6 3 2 17 268 4 1",
   "3 3 17 16 4 10 8 2 4 20 29 1 0 1 1 1 0 1 1 1 0 1 1 1 0 1 1 1 0 1 1 1 0 1 1 1 0 1 1 1 0 1 1 1",
   "0 1 1 1 0 1 1 1 0 1 1 1 0 1 1 1 0 1 1 1 0 1 1 1 0 1 1 1 0 1 1 1 0 1 1 1 0 1 1 1 0 1 1 1 0 1",
   "1 1 0 1 1 1 0 1 1 1 0 1 1 1 4 1 5 3 7 1 17 10 5 1 17 1 3 1 0 1 1 1 0 1 1 1 0 1 1 1 0 1 1 1 0",
   "1 1 1 0 1 1 1 0 1 1 1 0 1 1 1 0 1 1 1 0 1 1 1 0 1 1 1 0 1 1 1 0 1 1 1 0 1 1 2 3 2 5 70 4 10",
   "9 2 5 6 17 8 29 23 20 9 3 2 20 1 0 1 1 1 0 1 1 1 0 1 1 1 0 1 1 1 0 1 1 1 0 1 1 1 0 3 1 1 0 1",
   "1 1 0 1 1 1 0 1 1 1 0 1 1 1 0 1 1 1 0 1 1 1 0 1 1 1 0 1 1 1 0 1 1 1 0 1 1 1 0 1 1 1 0 1 1 1",
   "0 1 1 1 0 1 1 1 0 1 1 1 0 1 1 1 0 1 1 1 0 1 1 1 0 1 1 1 0 1 1 1 0 1 1 1 0 1 1 1 0 1 1 1 0 1",
   "1 1 0 1 1 1 0 1 1 1 0 1 1 1 0 1 1 1 0 1 1 1 0 1 1 1 0 1 1 1 3 8 1 1 0 1 1 1 0 1 1 2 0 1 1 1",
   "0 1 1 1 0 1 1 1 0 1 1 1 0 1 1 1 3 2 20 1 0 1 1 1 0 1 1 1 4 1 0 1 1 1 0 3 1 1 0 1 1 1 0 1 1 1",
   "0 1 1 1 0 1 1 1 0 1 1 1 0 1 1 1 0 1 1 1 0 1 1 1 0 1 1 1 0 1 1 5 0 1 1 5 0 1 1 1 0 1 1 1 0 1",
   "1 1 0 1 1 1 0 1 1 1 0 1 1 1 0 1 1 1 0 1 1 4 0 1 1 1 0 1 1 2 0 1 1 2 29 1 0 1 1 1 29 1 1 1 29",
   "1 1 1 0 1 1 1 0 1 1 1 0 1 1 1 0 21 29 3 3 1 0 1 1 1 4 2 3 1 1 7 4 1 5 3 4 1 5 4 4 1 5 23 4 2",
   "6 2 5 1 6 4 21 1 5 3 29 6 10 2 21 1 19 1 21 6 29 52 4 4 17 8 29 2 6 50 4 16 6 2 5 8 29 2 17",
   "10 8 6 29 18 5 6 4 3 17 1 4 1 17 2 4 1 5 10 8 28 4 8 5 2 17 23 4 11 5 2 6 11 29 1 17 29 4 3",
   "29 3 5 1 6 47 4 1 5 2 6 4 5 2 6 2 5 3 6 13 17 1 29 1 3 10 8 4 29 2 17 5 4 1 5 1 3 9 4 10 8 5",
   "4 1 29 41 4 6 5 2 6 2 5 2 6 2 5 9 29 3 4 1 5 8 4 1 5 1 6 2 29 10 8 2 29 4 17 16 4 1 3 6 4 3",
   "21 1 4 1 6 1 5 1 6 50 4 1 5 1 4 3 5 2 4 2 5 5 4 2 5 1 4 1 5 1 4 24 29 2 4 1 3 2 17 11 4 1 6",
   "2 5 2 6 2 17 1 4 2 3 1 6 1 5 10 29 6 4 2 29 6 4 2 29 6 4 9 29 7 4 1 29 7 4 1 29 43 1 1 20 4",
   "3 9 1 1 3 2 20 4 29 80 1 35 4 2 6 1 5 2 6 1 5 2 6 1 17 1 6 1 5 2 29 10 8 6 29 11172 4 12 29",
   "23 4 4 29 49 4 4 29 2048 27 6400 28 366 4 2 29 106 4 38 29 7 1 12 29 5 1 5 29 1 4 1 5 10 4 1",
   "18 13 4 1 29 5 4 1 29 1 4 1 29 2 4 1 29 2 4 1 29 108 4 17 20 16 29 363 4 1 14 1 13 16 21 64",
   "4 2 29 54 4 7 29 1 21 32 29 12 4 1 19 3 21 16 5 7 17 1 13 1 14 1 17 6 29 16 5 1 17 2 12 2 11",
   "1 13 1 14 1 13 1 14 1 13 1 14 1 13 1 14 1 13 1 14 1 13 1 14 1 13 1 14 1 13 1 14 2 17 1 13 1",
   "14 4 17 3 11 3 17 1 29 4 17 1 12 1 13 1 14 1 13 1 14 1 13 1 14 3 17 1 18 1 12 3 18 1 29 1 17",
   "1 19 2 17 4 29 5 4 1 29 135 4 2 29 1 26 1 29 3 17 1 19 3 17 1 13 1 14 1 17 1 18 1 17 1 12 2",
   "17 10 8 2 17 3 18 2 17 26 0 1 13 1 17 1 14 1 20 1 11 1 20 26 1 1 13 1 18 1 14 1 18 1 13 1 14",
   "1 17 1 13 1 14 2 17 10 4 1 3 45 4 2 3 31 4 3 29 6 4 2 29 6 4 2 29 6 4 2 29 3 4 3 29 2 19 1",
   "18 1 20 1 21 2 19 1 29 1 21 4 18 2 21 10 29 3 26 2 21 2 29 12 4 1 29 26 4 1 29 19 4 1 29 2 4",
   "1 29 15 4 2 29 14 4 34 29 123 4 5 29 3 17 4 29 45 10 3 29 9 21 53 9 4 10 17 21 2 10 3 21 1",
   "29 13 21 3 29 1 21 47 29 45 21 1 5 130 29 29 4 3 29 49 4 15 29 1 5 27 10 4 29 32 4 4 10 9 29",
   "20 4 1 9 8 4 1 9 5 29 38 4 5 5 5 29 30 4 1 29 1 17 36 4 4 29 8 4 1 17 5 9 42 29 40 0 40 1 78",
   "4 2 29 10 8 6 29 36 0 4 29 36 1 4 29 40 4 8 29 52 4 11 29 1 17 11 0 1 29 15 0 1 29 7 0 1 29",
   "2 0 1 29 11 1 1 29 15 1 1 29 7 1 1 29 2 1 3 29 52 4 12 29 311 4 9 29 22 4 10 29 8 4 24 29 6",
   "3 1 29 42 3 1 29 9 3 69 29 6 4 2 29 1 4 1 29 44 4 1 29 2 4 3 29 1 4 2 29 23 4 1 29 1 17 8 10",
   "23 4 2 21 7 10 31 4 8 29 9 10 48 29 19 4 1 29 2 4 5 29 5 10 22 4 6 10 3 29 1 17 26 4 5 29 1",
   "17 64 29 56 4 4 29 2 10 2 4 16 10 2 29 46 10 1 4 3 5 1 29 2 5 5 29 4 5 4 4 1 29 3 4 1 29 29",
   "4 2 29 3 5 4 29 1 5 9 10 7 29 9 17 7 29 29 4 2 10 1 17 29 4 3 10 32 29 8 4 1 21 28 4 2 5 4",
   "29 5 10 7 17 9 29 54 4 3 29 7 17 22 4 2 29 8 10 19 4 5 29 8 10 18 4 7 29 4 17 12 29 7 10 80",
   "29 73 4 55 29 51 0 13 29 51 1 7 29 6 10 36 4 4 5 8 29 10 8 6 29 10 8 4 4 1 3 1 4 22 0 3 29 5",
   "5 1 12 1 3 22 1 8 29 2 18 208 29 31 10 1 29 42 4 1 29 2 5 1 12 2 29 2 4 16 29 3 4 55 29 4 5",
   "29 4 10 10 1 4 8 29 22 4 11 5 4 10 5 17 22 29 18 4 4 5 4 17 38 29 21 4 7 10 20 29 23 4 9 29",
   "1 6 1 5 1 6 53 4 15 5 7 17 4 29 20 10 10 8 1 5 2 4 2 5 1 4 9 29 3 5 1 6 45 4 3 6 4 5 2 6 2 5",
   "2 17 1 26 4 17 1 5 10 29 1 26 2 29 25 4 7 29 10 8 6 29 3 5 36 4 5 5 1 6 8 5 1 29 10 8 4 17 1",
   "4 2 6 1 4 8 29 35 4 1 5 2 17 1 4 9 29 2 5 1 6 48 4 3 6 9 5 2 6 4 4 4 17 4 5 1 17 1 6 1 5 10",
   "8 1 4 1 17 1 4 3 17 1 29 20 10 11 29 18 4 1 29 25 4 3 6 3 5 2 6 1 5 1 6 2 5 6 17 1 5 2 4 1 5",
   "62 29 7 4 1 29 1 4 1 29 4 4 1 29 15 4 1 29 10 4 1 17 6 29 47 4 1 5 3 6 8 5 5 29 10 8 6 29 2",
   "5 2 6 1 29 8 4 2 29 2 4 2 29 22 4 1 29 7 4 1 29 2 4 1 29 5 4 1 29 2 5 1 4 2 6 1 5 4 6 2 29 2",
   "6 2 29 3 6 2 29 1 4 6 29 1 6 5 29 5 4 2 6 2 29 7 5 3 29 5 5 11 29 10 4 1 29 1 4 2 29 1 4 1",
   "29 38 4 1 29 1 4 3 6 6 5 1 29 1 6 2 29 1 6 1 29 4 6 1 29 2 6 1 5 1 6 1 5 1 4 1 5 1 4 2 17 1",
   "29 2 17 8 29 2 5 29 29 53 4 3 6 8 5 2 6 3 5 1 6 1 5 4 4 5 17 10 8 2 17 1 29 1 17 1 5 3 4 30",
   "29 48 4 3 6 6 5 1 6 1 5 4 6 2 5 1 6 2 5 2 4 1 17 1 4 8 29 10 8 166 29 47 4 3 6 4 5 2 29 4 6",
   "2 5 1 6 2 5 23 17 4 4 2 5 34 29 48 4 3 6 8 5 2 6 1 5 1 6 2 5 3 17 1 4 11 29 10 8 6 29 13 17",
   "19 29 43 4 1 5 1 6 1 5 2 6 6 5 1 6 1 5 1 4 1 17 6 29 10 8 6 29 20 8 28 29 27 4 2 29 1 5 1 6",
   "1 5 2 6 4 5 1 6 5 5 4 29 10 8 2 10 3 17 1 21 7 4 185 29 44 4 3 6 9 5 1 6 2 5 1 17 100 29 32",
   "0 32 1 10 8 9 10 12 29 8 4 2 29 1 4 2 29 8 4 1 29 2 4 1 29 24 4 6 6 1 29 2 6 2 29 2 5 1 6 1",
   "5 1 4 1 6 1 4 1 6 1 5 3 17 9 29 10 8 70 29 8 4 2 29 39 4 3 6 4 5 2 29 2 5 4 6 1 5 1 4 1 17 1",
   "4 1 6 27 29 1 4 10 5 40 4 6 5 1 6 1 4 4 5 8 17 1 5 8 29 1 4 6 5 2 6 3 5 46 4 13 5 1 6 2 5 3",
   "17 1 4 5 17 13 29 73 4 7 29 10 17 182 29 33 4 1 17 14 29 10 8 6 29 9 4 1 29 37 4 1 6 7 5 1",
   "29 6 5 1 6 1 5 1 4 5 17 10 29 10 8 19 10 3 29 2 17 30 4 2 29 22 5 1 29 1 6 7 5 1 6 2 5 1 6 2",
   "5 73 29 7 4 1 29 2 4 1 29 38 4 6 5 3 29 1 5 1 29 2 5 1 29 7 5 1 4 1 5 8 29 10 8 6 29 6 4 1",
   "29 2 4 1 29 32 4 5 6 1 29 2 5 1 29 2 6 1 5 1 6 1 5 1 4 7 29 10 8 310 29 19 4 2 5 2 6 2 17 7",
   "29 2 5 1 4 1 6 13 4 1 29 34 4 2 6 5 5 3 29 2 6 1 5 1 6 1 5 13 17 10 8 1 5 85 29 1 4 15 29 21",
   "10 8 21 4 19 17 21 13 29 1 17 922 4 102 29 111 9 1 29 5 17 11 29 196 4 2636 29 97 4 2 17 13",
   "29 1072 4 16 26 1 5 6 4 15 5 10 29 3995 4 5 29 583 4 6841 29 30 4 12 5 3 6 3 5 10 8 1734 29",
   "569 4 7 29 31 4 1 29 10 8 4 29 2 17 79 4 1 29 10 8 6 29 30 4 2 29 5 5 1 17 10 29 48 4 7 5 5",
   "17 4 21 4 3 1 17 1 21 10 29 10 8 1 29 7 10 1 29 21 4 5 29 19 4 432 29 3 3 40 4 2 3 3 17 10 8",
   "198 29 32 0 32 1 23 10 4 17 101 29 75 4 4 29 1 5 1 4 55 6 7 29 4 5 13 3 64 29 2 3 1 17 1 3 1",
   "5 11 29 2 6 14 29 6136 4 8 29 1238 4 41 29 10 4 8935 29 4 3 1 29 7 3 1 29 2 3 1 29 291 4 15",
   "29 1 4 29 29 3 4 2 29 1 4 14 29 4 4 8 29 396 4 2308 29 107 4 5 29 13 4 3 29 9 4 7 29 10 4 2",
   "29 1 21 2 5 1 17 4 26 3932 29 240 21 10 8 6 29 436 21 76 29 46 5 2 29 23 5 9 29 116 21 60 29",
   "246 21 10 29 39 21 2 29 60 21 2 6 3 5 3 21 6 6 8 26 8 5 2 21 7 5 30 21 4 5 61 21 21 29 66 21",
   "3 5 1 21 122 29 20 10 12 29 20 10 12 29 87 21 9 29 25 10 135 29 26 0 26 1 26 0 7 1 1 29 18 1",
   "26 0 26 1 1 0 1 29 2 0 2 29 1 0 2 29 2 0 2 29 4 0 1 29 8 0 4 1 1 29 1 1 1 29 7 1 1 29 11 1",
   "26 0 26 1 2 0 1 29 4 0 2 29 8 0 1 29 7 0 1 29 26 1 2 0 1 29 4 0 1 29 5 0 1 29 1 0 3 29 7 0 1",
   "29 26 1 26 0 26 1 26 0 26 1 26 0 26 1 26 0 26 1 26 0 26 1 26 0 28 1 2 29 25 0 1 18 25 1 1 18",
   "6 1 25 0 1 18 25 1 1 18 6 1 25 0 1 18 25 1 1 18 6 1 25 0 1 18 25 1 1 18 6 1 25 0 1 18 25 1 1",
   "18 6 1 1 0 1 1 2 29 50 8 512 21 55 5 4 21 50 5 8 21 1 5 14 21 1 5 2 21 5 17 15 29 5 5 1 29",
   "15 5 1104 29 10 1 1 4 20 1 6 29 6 1 213 29 7 5 1 29 17 5 2 29 7 5 1 29 2 5 1 29 5 5 5 29 62",
   "3 33 29 1 5 112 29 45 4 3 29 7 5 7 3 2 29 10 8 4 29 1 4 1 21 320 29 30 4 1 5 17 29 44 4 4 5",
   "10 8 5 29 1 19 464 29 27 4 1 3 4 5 10 8 214 29 30 4 2 5 1 4 10 8 4 29 1 17 480 29 7 4 1 29 4",
   "4 1 29 2 4 1 29 15 4 1 29 197 4 2 29 9 10 7 5 41 29 34 0 34 1 7 5 1 3 4 29 10 8 4 29 2 17",
   "785 29 59 10 1 21 3 10 1 19 4 10 76 29 45 10 1 21 15 10 194 29 4 4 1 29 27 4 1 29 2 4 1 29 1",
   "4 2 29 1 4 1 29 10 4 1 29 4 4 1 29 1 4 1 29 1 4 6 29 1 4 4 29 1 4 1 29 1 4 1 29 1 4 1 29 3 4",
   "1 29 2 4 1 29 1 4 2 29 1 4 1 29 1 4 1 29 1 4 1 29 1 4 1 29 1 4 1 29 2 4 1 29 1 4 2 29 4 4 1",
   "29 7 4 1 29 4 4 1 29 4 4 1 29 1 4 1 29 10 4 1 29 17 4 5 29 3 4 1 29 5 4 1 29 17 4 52 29 2 18",
   "270 29 44 21 4 29 100 21 12 29 15 21 2 29 15 21 1 29 15 21 1 29 37 21 10 29 13 10 161 21 56",
   "29 29 21 13 29 44 21 4 29 9 21 7 29 2 21 14 29 6 21 154 29 251 21 5 20 728 21 4 29 17 21 3",
   "29 13 21 3 29 119 21 4 29 95 21 6 29 12 21 4 29 1 21 15 29 12 21 4 29 56 21 8 29 10 21 6 29",
   "40 21 8 29 30 21 2 29 12 21 4 29 2 21 62 29 340 21 12 29 14 21 2 29 13 21 3 29 10 21 5 29 56",
   "21 7 29 15 21 2 29 11 21 6 29 9 21 7 29 147 21 1 29 92 21 10 8 1030 29 42720 4 32 29 4154 4",
   "6 29 222 4 2 29 5762 4 14 29 7473 4 15 29 622 4 2466 29 542 4 1506 29 4939 4 5 29 4192 4",
   "711761 29 1 26 30 29 96 26 128 29 240 5 65040 29 65534 28 2 29 65534 28 2 29"]

/-- The characters of a category or of a group of categories. -/
def category? (name : String) : Option CharSet :=
  match categoryNames.findIdx? (·.contains name) with
  | some n => some (.ofLabels categoryLabels [n])
  | none =>
    (categoryGroups.find? (·.1.contains name)).map fun (_, numbers) =>
      .ofLabels categoryLabels numbers

/-- The characters of some categories, by their names. -/
def categories (names : List String) : CharSet := .unions (names.filterMap category?)

def unassigned : CharSet := categories ["cn"]

end RowQuery.Property
