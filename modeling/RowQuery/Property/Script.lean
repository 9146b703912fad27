/-
# Scripts

The script that a character belongs to: Latin, Greek, Han, or common to several.
Scripts have names in small letters, a code and a word. Some characters are used
in other scripts than their own, or in a few scripts rather than in all: for
these the scripts are listed. The scripts are those of version 16 of the
standard.

Key definitions: `Property.script?`, `Property.usedInScript?`.
-/
import RowQuery.CharSet

namespace RowQuery.Property

/-- The names of each script; its place in the list, from one, is its number. -/
def scriptNames : List (List String) :=
  [["adlm", "adlam"], ["aghb", "caucasianalbanian"],
   ["ahom"], ["arab", "arabic"],
   ["armi", "imperialaramaic"], ["armn", "armenian"],
   ["avst", "avestan"], ["bali", "balinese"],
   ["bamu", "bamum"], ["bass", "bassavah"],
   ["batk", "batak"], ["beng", "bengali"],
   ["bhks", "bhaiksuki"], ["bopo", "bopomofo"],
   ["brah", "brahmi"], ["brai", "braille"],
   ["bugi", "buginese"], ["buhd", "buhid"],
   ["cakm", "chakma"], ["cans", "canadianaboriginal"],
   ["cari", "carian"], ["cham"],
   ["cher", "cherokee"], ["chrs", "chorasmian"],
   ["copt", "coptic", "qaac"], ["cpmn", "cyprominoan"],
   ["cprt", "cypriot"], ["cyrl", "cyrillic"],
   ["deva", "devanagari"], ["diak", "divesakuru"],
   ["dogr", "dogra"], ["dsrt", "deseret"],
   ["dupl", "duployan"], ["egyp", "egyptianhieroglyphs"],
   ["elba", "elbasan"], ["elym", "elymaic"],
   ["ethi", "ethiopic"], ["geor", "georgian"],
   ["glag", "glagolitic"], ["gong", "gunjalagondi"],
   ["gonm", "masaramgondi"], ["goth", "gothic"],
   ["gran", "grantha"], ["grek", "greek"],
   ["gujr", "gujarati"], ["guru", "gurmukhi"],
   ["hang", "hangul"], ["hani", "han"],
   ["hano", "hanunoo"], ["hatr", "hatran"],
   ["hebr", "hebrew"], ["hira", "hiragana"],
   ["hluw", "anatolianhieroglyphs"], ["hmng", "pahawhhmong"],
   ["hmnp", "nyiakengpuachuehmong"], ["hung", "oldhungarian"],
   ["ital", "olditalic"], ["java", "javanese"],
   ["kali", "kayahli"], ["kana", "katakana"],
   ["kawi"], ["khar", "kharoshthi"],
   ["khmr", "khmer"], ["khoj", "khojki"],
   ["kits", "khitansmallscript"], ["knda", "kannada"],
   ["kthi", "kaithi"], ["lana", "taitham"],
   ["laoo", "lao"], ["latn", "latin"],
   ["lepc", "lepcha"], ["limb", "limbu"],
   ["lina", "lineara"], ["linb", "linearb"],
   ["lisu"], ["lyci", "lycian"],
   ["lydi", "lydian"], ["mahj", "mahajani"],
   ["maka", "makasar"], ["mand", "mandaic"],
   ["mani", "manichaean"], ["marc", "marchen"],
   ["medf", "medefaidrin"], ["mend", "mendekikakui"],
   ["merc", "meroiticcursive"], ["mero", "meroitichieroglyphs"],
   ["mlym", "malayalam"], ["modi"],
   ["mong", "mongolian"], ["mroo", "mro"],
   ["mtei", "meeteimayek"], ["mult", "multani"],
   ["mymr", "myanmar"], ["nagm", "nagmundari"],
   ["nand", "nandinagari"], ["narb", "oldnortharabian"],
   ["nbat", "nabataean"], ["newa"],
   ["nkoo", "nko"], ["nshu", "nushu"],
   ["ogam", "ogham"], ["olck", "olchiki"],
   ["orkh", "oldturkic"], ["orya", "oriya"],
   ["osge", "osage"], ["osma", "osmanya"],
   ["ougr", "olduyghur"], ["palm", "palmyrene"],
   ["pauc", "paucinhau"], ["perm", "oldpermic"],
   ["phag", "phagspa"], ["phli", "inscriptionalpahlavi"],
   ["phlp", "psalterpahlavi"], ["phnx", "phoenician"],
   ["plrd", "miao"], ["prti", "inscriptionalparthian"],
   ["rjng", "rejang"], ["rohg", "hanifirohingya"],
   ["runr", "runic"], ["samr", "samaritan"],
   ["sarb", "oldsoutharabian"], ["saur", "saurashtra"],
   ["sgnw", "signwriting"], ["shaw", "shavian"],
   ["shrd", "sharada"], ["sidd", "siddham"],
   ["sind", "khudawadi"], ["sinh", "sinhala"],
   ["sogd", "sogdian"], ["sogo", "oldsogdian"],
   ["sora", "sorasompeng"], ["soyo", "soyombo"],
   ["sund", "sundanese"], ["sylo", "sylotinagri"],
   ["syrc", "syriac"], ["tagb", "tagbanwa"],
   ["takr", "takri"], ["tale", "taile"],
   ["talu", "newtailue"], ["taml", "tamil"],
   ["tang", "tangut"], ["tavt", "taiviet"],
   ["telu", "telugu"], ["tfng", "tifinagh"],
   ["tglg", "tagalog"], ["thaa", "thaana"],
   ["thai"], ["tibt", "tibetan"],
   ["tirh", "tirhuta"], ["tnsa", "tangsa"],
   ["toto"], ["ugar", "ugaritic"],
   ["vaii", "vai"], ["vith", "vithkuqi"],
   ["wara", "warangciti"], ["wcho", "wancho"],
   ["xpeo", "oldpersian"], ["xsux", "cuneiform"],
   ["yezi", "yezidi"], ["yiii", "yi"],
   ["zanb", "zanabazarsquare"], ["zinh", "inherited", "qaai"],
   ["zyyy", "common"], ["gara", "garay"],
   ["gukh", "gurungkhema"], ["krai", "kiratrai"],
   ["onao", "olonal"], ["sunu", "sunuwar"],
   ["todr", "todhri"], ["tutg", "tulutigalari"]]

/-- The number of a script. -/
def scriptNumber? (name : String) : Option Nat :=
  (scriptNames.findIdx? (·.contains name)).map (· + 1)

/-- The script of every character; no script has the number zero. -/
def scriptLabels : Text.Labels := .ofLines
  ["65 163 26 70 6 163 26 70 47 163 1 70 15 163 1 70 5 163 23 70 1 163 31 70 1 163 449 70 39 163",
   "5 70 5 163 2 14 20 163 112 162 4 44 1 163 3 44 2 0 4 44 1 163 1 44 4 0 1 44 1 163 1 44 1 163",
   "3 44 1 0 1 44 1 0 20 44 1 0 63 44 14 25 16 44 133 28 2 162 169 28 1 0 38 6 2 0 50 6 2 0 3 6",
   "1 0 55 51 8 0 27 51 4 0 6 51 11 0 5 4 1 163 6 4 1 163 14 4 1 163 3 4 1 163 32 4 1 163 10 4",
   "11 162 26 4 1 162 108 4 1 163 34 4 14 135 1 0 60 135 2 0 3 135 48 4 50 146 14 0 59 99 2 0 3",
   "99 46 120 2 0 15 120 1 0 28 80 2 0 1 80 1 0 11 135 5 0 31 4 1 0 2 4 5 0 75 4 1 163 29 4 81",
   "29 4 162 15 29 2 163 26 29 4 12 1 0 8 12 2 0 2 12 2 0 22 12 1 0 7 12 1 0 1 12 3 0 4 12 2 0 9",
   "12 2 0 2 12 2 0 4 12 8 0 1 12 4 0 2 12 1 0 5 12 2 0 25 12 2 0 3 46 1 0 6 46 4 0 2 46 2 0 22",
   "46 1 0 7 46 1 0 2 46 1 0 2 46 1 0 2 46 2 0 1 46 1 0 5 46 4 0 2 46 2 0 3 46 3 0 1 46 7 0 4 46",
   "1 0 1 46 7 0 17 46 10 0 3 45 1 0 9 45 1 0 3 45 1 0 22 45 1 0 7 45 1 0 2 45 1 0 5 45 2 0 10",
   "45 1 0 3 45 1 0 3 45 2 0 1 45 15 0 4 45 2 0 12 45 7 0 7 45 1 0 3 104 1 0 8 104 2 0 2 104 2 0",
   "22 104 1 0 7 104 1 0 2 104 1 0 5 104 2 0 9 104 2 0 2 104 2 0 3 104 7 0 3 104 4 0 2 104 1 0 5",
   "104 2 0 18 104 10 0 2 140 1 0 6 140 3 0 3 140 1 0 4 140 3 0 2 140 1 0 1 140 1 0 2 140 3 0 2",
   "140 3 0 3 140 3 0 12 140 4 0 5 140 3 0 3 140 1 0 4 140 2 0 1 140 6 0 1 140 14 0 21 140 5 0",
   "13 143 1 0 3 143 1 0 23 143 1 0 16 143 2 0 9 143 1 0 3 143 1 0 4 143 7 0 2 143 1 0 3 143 2 0",
   "1 143 2 0 4 143 2 0 10 143 7 0 9 143 13 66 1 0 3 66 1 0 23 66 1 0 10 66 1 0 5 66 2 0 9 66 1",
   "0 3 66 1 0 4 66 7 0 2 66 6 0 2 66 1 0 4 66 2 0 10 66 1 0 3 66 12 0 13 87 1 0 3 87 1 0 51 87",
   "1 0 3 87 1 0 6 87 4 0 16 87 2 0 26 87 1 0 3 128 1 0 18 128 3 0 24 128 1 0 9 128 1 0 1 128 2",
   "0 7 128 3 0 1 128 4 0 6 128 1 0 1 128 1 0 8 128 6 0 10 128 2 0 3 128 12 0 58 147 4 0 1 163",
   "28 147 37 0 2 69 1 0 1 69 1 0 5 69 1 0 24 69 1 0 1 69 1 0 23 69 2 0 5 69 1 0 1 69 1 0 7 69 1",
   "0 10 69 2 0 4 69 32 0 72 148 1 0 36 148 4 0 39 148 1 0 36 148 1 0 15 148 1 0 7 148 4 163 2",
   "148 37 0 160 93 38 38 1 0 1 38 5 0 1 38 2 0 43 38 1 163 4 38 256 47 73 37 1 0 4 37 2 0 7 37",
   "1 0 1 37 1 0 4 37 2 0 41 37 1 0 4 37 2 0 33 37 1 0 4 37 2 0 7 37 1 0 1 37 1 0 4 37 2 0 15 37",
   "1 0 57 37 1 0 4 37 2 0 67 37 2 0 32 37 3 0 26 37 6 0 86 23 2 0 6 23 2 0 640 20 29 101 3 0 75",
   "119 3 163 11 119 7 0 22 145 9 0 1 145 21 49 2 163 9 0 20 18 12 0 13 136 1 0 3 136 1 0 2 136",
   "12 0 94 63 2 0 10 63 6 0 10 63 6 0 2 89 2 163 1 89 1 163 20 89 6 0 89 89 7 0 43 89 5 0 70 20",
   "10 0 31 72 1 0 12 72 4 0 12 72 4 0 1 72 3 0 12 72 30 138 2 0 5 138 11 0 44 139 4 0 26 139 6",
   "0 11 139 3 0 2 139 32 63 28 17 2 0 2 17 63 68 1 0 29 68 2 0 11 68 6 0 10 68 6 0 14 68 2 0 31",
   "162 49 0 77 8 1 0 50 8 64 133 52 11 8 0 4 11 56 71 3 0 15 71 3 0 3 71 48 102 11 28 5 0 43 38",
   "2 0 3 38 8 133 8 0 3 162 1 163 13 162 1 163 7 162 4 163 1 162 6 163 1 162 3 163 2 162 1 163",
   "5 0 38 70 5 44 1 28 49 70 5 44 4 70 5 44 13 70 1 28 70 70 1 44 64 162 256 70 22 44 2 0 6 44",
   "2 0 38 44 2 0 6 44 2 0 8 44 1 0 1 44 1 0 1 44 1 0 1 44 1 0 31 44 2 0 53 44 1 0 15 44 1 0 14",
   "44 2 0 6 44 1 0 19 44 2 0 3 44 1 0 9 44 1 0 12 163 2 162 87 163 1 0 11 163 1 70 2 0 11 163 1",
   "70 15 163 1 0 13 70 3 0 33 163 15 0 33 162 15 0 38 163 1 44 3 163 2 70 6 163 1 70 27 163 1",
   "70 17 163 41 70 3 163 4 0 666 163 22 0 11 163 21 0 928 163 256 16 628 163 2 0 32 163 1 0 105",
   "163 96 39 32 70 116 25 5 0 7 25 38 38 1 0 1 38 5 0 1 38 2 0 56 144 7 0 2 144 14 0 1 144 23",
   "37 9 0 7 37 1 0 7 37 1 0 7 37 1 0 7 37 1 0 7 37 1 0 7 37 1 0 7 37 1 0 7 37 1 0 32 28 94 163",
   "34 0 26 48 1 0 89 48 12 0 214 48 26 0 21 163 1 48 1 163 1 48 25 163 9 48 4 162 2 47 8 163 4",
   "48 4 163 1 0 86 52 2 0 2 162 2 163 3 52 1 163 90 60 2 163 3 60 5 0 43 14 1 0 94 47 1 0 16",
   "163 32 14 38 163 9 0 1 163 16 60 31 47 1 0 64 163 31 47 81 163 47 60 1 163 88 60 168 163",
   "6592 48 64 163 20992 48 1165 160 3 0 55 160 9 0 48 75 300 153 20 0 96 28 88 9 8 0 34 163 102",
   "70 3 163 67 70 2 0 2 70 1 0 1 70 1 0 8 70 21 0 14 70 45 134 3 0 10 163 6 0 56 111 8 0 70 122",
   "8 0 12 122 6 0 32 29 46 59 1 163 1 59 36 117 11 0 1 117 29 47 3 0 78 58 1 0 1 163 10 58 4 0",
   "2 58 31 93 1 0 55 22 9 0 14 22 2 0 10 22 2 0 4 22 32 93 67 142 24 0 5 142 23 91 10 0 6 37 2",
   "0 6 37 2 0 6 37 9 0 7 37 1 0 7 37 1 0 43 70 1 163 9 70 1 44 4 70 2 163 4 0 80 23 46 91 2 0",
   "10 91 6 0 11172 47 12 0 23 47 4 0 49 47 8452 0 366 48 2 0 106 48 38 0 7 70 12 0 5 6 5 0 26",
   "51 1 0 5 51 1 0 1 51 1 0 2 51 1 0 2 51 1 0 10 51 115 4 16 0 363 4 2 163 80 4 2 0 54 4 7 0 1",
   "4 32 0 16 4 16 162 10 163 6 0 14 162 2 28 35 163 1 0 19 163 1 0 4 163 4 0 5 4 1 0 135 4 2 0",
   "1 163 1 0 32 163 26 70 6 163 26 70 11 163 10 60 1 163 45 60 2 163 31 47 3 0 6 47 2 0 6 47 2",
   "0 6 47 2 0 3 47 3 0 7 163 1 0 7 163 10 0 5 163 2 0 12 74 1 0 26 74 1 0 19 74 1 0 2 74 1 0 15",
   "74 2 0 14 74 34 0 123 74 5 0 3 163 4 0 45 163 3 0 9 163 79 44 1 0 13 163 3 0 1 44 47 0 45",
   "163 1 162 130 0 29 76 3 0 49 21 15 0 1 162 27 163 4 0 36 57 9 0 3 57 27 42 5 0 43 110 5 0 30",
   "152 1 0 1 152 36 157 4 0 14 157 42 0 80 32 48 124 30 106 2 0 10 106 6 0 36 105 4 0 36 105 4",
   "0 40 35 8 0 52 2 11 0 1 2 11 154 1 0 15 154 1 0 7 154 1 0 2 154 1 0 11 154 1 0 15 154 1 0 7",
   "154 1 0 2 154 3 0 52 169 12 0 311 73 9 0 22 73 10 0 8 73 24 0 6 70 1 0 42 70 1 0 9 70 69 0 6",
   "27 2 0 1 27 1 0 44 27 1 0 2 27 3 0 1 27 2 0 1 27 22 5 1 0 9 5 32 108 31 97 8 0 9 97 48 0 19",
   "50 1 0 2 50 5 0 5 50 28 114 3 0 1 114 26 77 5 0 1 77 64 0 32 86 24 85 4 0 20 85 2 0 46 85 4",
   "62 1 0 2 62 5 0 8 62 1 0 3 62 1 0 29 62 2 0 3 62 4 0 10 62 7 0 9 62 7 0 32 121 32 96 32 0 39",
   "81 4 0 12 81 9 0 54 7 3 0 7 7 22 116 2 0 8 116 19 112 5 0 8 112 18 113 7 0 4 113 12 0 7 113",
   "80 0 73 103 55 0 51 56 13 0 51 56 7 0 6 56 40 118 8 0 10 118 6 0 38 164 3 0 29 164 8 0 2 164",
   "208 0 31 4 1 0 42 159 1 0 3 159 2 0 2 159 16 0 3 4 55 0 4 4 40 130 8 0 42 129 22 0 26 107 38",
   "0 28 24 20 0 23 36 9 0 78 15 4 0 36 15 9 0 1 15 67 67 10 0 1 67 2 0 25 131 7 0 10 131 6 0 53",
   "19 1 0 18 19 8 0 39 78 9 0 96 125 1 0 20 128 11 0 18 64 1 0 47 64 62 0 7 92 1 0 1 92 1 0 4",
   "92 1 0 15 92 1 0 11 92 6 0 59 127 5 0 10 127 6 0 4 43 1 0 8 43 2 0 2 43 2 0 22 43 1 0 7 43 1",
   "0 2 43 1 0 5 43 1 0 1 162 9 43 2 0 2 43 2 0 3 43 2 0 1 43 6 0 1 43 5 0 7 43 2 0 7 43 3 0 5",
   "43 11 0 10 170 1 0 1 170 2 0 1 170 1 0 38 170 1 0 10 170 1 0 1 170 2 0 1 170 1 0 4 170 1 0",
   "10 170 1 0 2 170 8 0 2 170 29 0 92 98 1 0 5 98 30 0 72 149 8 0 10 149 166 0 54 126 2 0 38",
   "126 34 0 69 88 11 0 10 88 6 0 13 89 19 0 58 137 6 0 10 137 6 0 20 93 28 0 27 3 2 0 15 3 4 0",
   "23 3 185 0 60 31 100 0 83 155 12 0 1 155 7 30 2 0 1 30 2 0 8 30 1 0 2 30 1 0 30 30 1 0 2 30",
   "2 0 12 30 9 0 10 30 70 0 8 95 2 0 46 95 2 0 11 95 27 0 72 161 8 0 83 132 13 0 16 20 57 109 7",
   "0 10 29 182 0 34 168 14 0 10 168 6 0 9 13 1 0 45 13 1 0 14 13 10 0 29 13 3 0 32 82 2 0 22 82",
   "1 0 14 82 73 0 7 41 1 0 2 41 1 0 44 41 3 0 1 41 1 0 2 41 1 0 9 41 8 0 10 41 6 0 6 40 1 0 2",
   "40 1 0 37 40 1 0 2 40 1 0 6 40 7 0 10 40 310 0 25 79 7 0 17 61 1 0 41 61 3 0 29 61 85 0 1 75",
   "15 0 50 140 13 0 1 140 922 158 102 0 111 158 1 0 5 158 11 0 196 158 2636 0 99 26 13 0 1110",
   "34 10 0 3995 34 5 0 583 53 6841 0 58 165 1734 0 569 9 7 0 31 90 1 0 10 90 4 0 2 90 79 150 1",
   "0 10 150 6 0 30 10 2 0 6 10 10 0 70 54 10 0 10 54 1 0 7 54 1 0 21 54 5 0 19 54 432 0 58 166",
   "198 0 91 83 101 0 75 115 4 0 57 115 7 0 17 115 64 0 1 141 1 100 2 48 1 65 11 0 2 48 14 0",
   "6136 141 8 0 768 141 470 65 41 0 1 65 9 141 8935 0 4 60 1 0 7 60 1 0 2 60 1 0 1 60 287 52 3",
   "60 15 0 1 52 29 0 3 52 2 0 1 60 14 0 4 60 8 0 396 100 2308 0 107 33 5 0 13 33 3 0 9 33 7 0",
   "10 33 2 0 4 33 4 163 3932 0 250 163 6 0 436 163 76 0 46 162 2 0 23 162 9 0 116 163 60 0 246",
   "163 10 0 39 163 2 0 62 163 3 162 17 163 8 162 2 163 7 162 30 163 4 162 61 163 21 0 70 44 122",
   "0 20 163 12 0 20 163 12 0 87 163 9 0 25 163 135 0 85 163 1 0 71 163 1 0 2 163 2 0 1 163 2 0",
   "2 163 2 0 4 163 1 0 12 163 1 0 1 163 1 0 7 163 1 0 65 163 1 0 4 163 2 0 8 163 1 0 7 163 1 0",
   "28 163 1 0 4 163 1 0 5 163 1 0 1 163 3 0 7 163 1 0 340 163 2 0 292 163 2 0 50 163 652 123 15",
   "0 5 123 1 0 15 123 1104 0 31 70 6 0 6 70 213 0 7 39 1 0 17 39 2 0 7 39 1 0 2 39 1 0 5 39 5 0",
   "62 28 33 0 1 28 112 0 45 55 3 0 14 55 2 0 10 55 4 0 2 55 320 0 31 151 17 0 58 156 5 0 1 156",
   "464 0 42 94 214 0 43 167 4 0 1 167 480 0 7 37 1 0 4 37 1 0 2 37 1 0 15 37 1 0 197 84 2 0 16",
   "84 41 0 76 1 4 0 10 1 4 0 2 1 785 0 68 163 76 0 61 163 194 0 4 4 1 0 27 4 1 0 2 4 1 0 1 4 2",
   "0 1 4 1 0 10 4 1 0 4 4 1 0 1 4 1 0 1 4 6 0 1 4 4 0 1 4 1 0 1 4 1 0 1 4 1 0 3 4 1 0 2 4 1 0 1",
   "4 2 0 1 4 1 0 1 4 1 0 1 4 1 0 1 4 1 0 1 4 1 0 2 4 1 0 1 4 2 0 4 4 1 0 7 4 1 0 4 4 1 0 4 4 1",
   "0 1 4 1 0 10 4 1 0 17 4 5 0 3 4 1 0 5 4 1 0 17 4 52 0 2 4 270 0 44 163 4 0 100 163 12 0 15",
   "163 2 0 15 163 1 0 15 163 1 0 37 163 10 0 174 163 56 0 26 163 1 52 2 163 13 0 44 163 4 0 9",
   "163 7 0 2 163 14 0 6 163 154 0 984 163 4 0 17 163 3 0 13 163 3 0 119 163 4 0 95 163 6 0 12",
   "163 4 0 1 163 15 0 12 163 4 0 56 163 8 0 10 163 6 0 40 163 8 0 30 163 2 0 12 163 4 0 2 163",
   "62 0 340 163 12 0 14 163 2 0 13 163 3 0 10 163 5 0 56 163 7 0 15 163 2 0 11 163 6 0 9 163 7",
   "0 147 163 1 0 102 163 1030 0 42720 48 32 0 4154 48 6 0 222 48 2 0 5762 48 14 0 7473 48 15 0",
   "622 48 2466 0 542 48 1506 0 4939 48 5 0 4192 48 711761 0 1 163 30 0 96 163 128 0 240 162",
   "196112 0"]

/-- Characters that are used in listed scripts: the first of a run of characters, the length of
the run, and the numbers of the scripts. -/
def scriptLists : List (Nat × List Nat) := Text.sequencesOfLines
  ["183 17 1 7 21 25 33 35 38 39 40 42 44 48 70 77 78 110 124 700 8 1 12 28 29 70 75 147 151 711",
   "3 1 14 70 713 3 3 14 70 717 3 1 70 75 727 3 1 70 147 729 3 1 14 70 768 9 1 23 25 28 44 70",
   "110 138 168 769 9 1 23 28 44 70 105 138 168 169 770 5 1 23 28 70 144 771 6 1 39 70 135 147",
   "168 772 12 1 2 23 25 28 42 44 70 105 135 144 169 773 7 1 25 35 39 42 60 70 774 6 1 28 44 70",
   "110 144 775 10 1 25 33 51 70 110 135 138 144 169 776 12 1 6 28 33 42 44 51 70 110 135 138",
   "144 777 3 1 70 144 778 4 1 33 70 135 779 5 1 23 28 70 105 780 4 1 23 70 138 781 3 1 70 168",
   "782 3 1 37 70 784 3 1 70 168 785 4 1 28 70 169 787 5 1 44 70 110 169 803 7 1 23 33 60 70 135",
   "144 804 5 1 23 33 70 135 805 3 1 70 135 813 4 1 70 135 168 814 3 1 70 135 816 4 1 23 70 135",
   "817 8 1 2 23 42 70 135 147 168 834 2 1 44 837 2 1 44 856 3 1 70 105 862 4 1 2 70 169 867 2",
   "13 70 884 3 2 25 44 1155 3 1 28 110 1156 3 1 28 39 1157 3 2 28 70 1159 3 1 28 39 1417 4 1 6",
   "38 39 1548 8 1 4 99 118 135 146 159 164 1563 8 1 4 99 118 135 146 159 164 1564 4 1 4 135 146",
   "1567 9 1 1 4 99 118 135 146 159 164 1600 10 1 1 4 80 81 107 113 118 129 135 1611 3 11 4 135",
   "1632 4 10 4 146 159 1648 3 1 4 135 1748 3 1 4 118 2385 16 1 12 29 43 45 46 66 70 87 95 98",
   "104 125 140 143 149 2386 14 1 12 29 43 45 46 66 70 87 98 104 140 143 149 2404 22 1 12 29 31",
   "40 41 43 45 46 66 78 87 95 104 127 128 134 137 140 143 149 167 2405 24 1 12 29 31 40 41 43",
   "45 46 66 72 78 87 95 104 127 128 134 137 140 143 149 165 167 2406 5 10 29 31 67 78 2534 4 10",
   "12 19 134 2662 3 10 46 92 2790 3 10 45 64 3046 3 14 43 140 3302 4 10 66 95 170 4160 4 10 19",
   "93 138 4347 4 1 38 39 70 5867 2 3 119 5941 5 2 18 49 136 145 6146 3 2 89 111 6149 3 1 89 111",
   "7376 5 1 12 29 43 66 7377 2 1 29 7378 5 1 12 29 43 66 7379 4 1 29 43 66 7380 2 1 29 7381 6 1",
   "12 29 98 143 149 7382 4 1 12 29 143 7383 4 1 29 98 125 7384 5 1 12 29 98 143 7385 3 1 29 125",
   "7386 7 1 29 66 87 104 140 143 7387 2 1 29 7388 3 2 29 125 7390 2 2 29 7392 3 1 29 125 7393 3",
   "1 12 29 7394 4 1 29 98 149 7395 2 6 29 7401 4 1 29 95 98 7402 4 1 12 29 125 7403 3 1 29 98",
   "7404 2 1 29 7405 5 1 12 29 98 125 7406 2 4 29 7410 12 1 12 29 43 66 87 95 104 128 143 149",
   "170 7411 3 1 29 43 7412 5 1 29 43 66 170 7413 3 2 12 29 7415 2 1 12 7416 3 2 29 43 7418 2 1",
   "95 7616 2 2 44 7672 4 1 28 70 135 7674 2 1 135 8239 4 1 70 89 111 8271 3 1 1 4 8282 7 1 21",
   "38 39 56 76 103 8285 5 1 21 44 56 86 8432 4 1 29 43 70 11799 3 1 25 70 11824 3 1 7 103 11825",
   "8 1 7 21 38 56 67 77 120 11836 2 1 33 11841 4 1 1 4 56 11843 3 1 28 39 12272 3 16 48 141",
   "12289 8 1 14 47 48 52 60 89 160 12290 9 1 14 47 48 52 60 89 111 160 12291 6 1 14 47 48 52 60",
   "12294 2 1 48 12296 9 2 14 47 48 52 60 89 148 160 12298 10 2 14 47 48 52 60 75 89 148 160",
   "12300 7 6 14 47 48 52 60 160 12307 6 1 14 47 48 52 60 12308 7 8 14 47 48 52 60 160 12316 6 4",
   "14 47 48 52 60 12330 3 4 14 48 12336 6 1 14 47 48 52 60 12337 3 5 52 60 12343 6 1 14 47 48",
   "52 60 12348 4 2 48 52 60 12350 2 2 48 12441 3 4 52 60 12448 3 1 52 60 12539 7 1 14 47 48 52",
   "60 160 12540 3 1 52 60 12688 2 16 48 12736 2 38 48 12783 3 1 48 141 12832 2 40 48 12928 2 49",
   "48 12992 2 12 48 13055 2 1 48 13144 2 25 48 13179 2 5 48 13280 2 31 48 42607 3 1 28 39 42752",
   "3 8 48 70 43056 17 3 29 31 45 46 64 66 67 78 87 88 95 125 127 137 149 170 43059 16 3 29 31",
   "45 46 64 66 67 78 88 95 125 127 137 149 170 43062 12 2 29 31 45 46 64 67 78 88 127 137 149",
   "43064 13 1 29 31 45 46 64 67 78 88 125 127 137 149 43065 12 1 29 31 45 46 64 67 78 88 127",
   "137 149 43249 4 1 12 29 170 43251 3 1 29 140 43310 4 1 59 70 93 43471 3 1 17 58 64830 3 2 4",
   "99 65010 3 1 4 146 65021 3 1 4 146 65093 6 2 14 47 48 52 60 65377 7 5 14 47 48 52 60 160",
   "65392 3 1 52 60 65438 3 2 52 60 65792 4 2 26 27 74 65794 3 1 27 74 65799 4 45 27 73 74 65847",
   "3 9 27 74 66272 3 28 4 25 68338 3 1 81 107 70401 3 1 43 140 70403 3 1 43 140 70459 3 2 43",
   "140 73680 3 2 43 140 73683 3 1 43 140 113824 2 4 33 119648 2 18 48 127568 2 2 48"]

/-- The listed characters whose scripts satisfy a condition. -/
def listed (condition : List Nat → Bool) : CharSet :=
  .ofRanges <| scriptLists.filterMap fun (first, list) =>
    match list with
    | count :: scripts => if condition scripts then some (first, first + count - 1) else none
    | [] => none

/-- The characters that belong to a script. -/
def script? (name : String) : Option CharSet :=
  (scriptNumber? name).map fun n => .ofLabels scriptLabels [n]

/-- The characters that are used in a script: the listed ones, and of the others those that
belong to it. -/
def usedInScript? (name : String) : Option CharSet :=
  (scriptNumber? name).map fun n =>
    ((CharSet.ofLabels scriptLabels [n]).difference (listed fun _ => true)).union
      (listed (·.contains n))

end RowQuery.Property
