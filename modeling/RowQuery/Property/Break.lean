/-
# Classes of text segmentation

What a character is to the segmentation of text into graphemes, words and
sentences. Each segmentation has a list of classes; a character is in the first
class of the list whose set holds it. The classes have names in small letters, a
code and a word.

Key definitions: `Property.graphemeBreak?`, `Property.wordBreak?`,
`Property.sentenceBreak?`.
-/
import RowQuery.Property.Derived
import RowQuery.Property.Emoji
import RowQuery.Property.Script

namespace RowQuery.Property

/-- A class of a segmentation: its names, and characters that belong to it unless they belong to
a class before it. -/
structure BreakClass where
  names : List String
  members : CharSet

/-- The characters of the class with a name, without those of the classes before it. -/
def breakClass? (name : String) (taken : CharSet) : List BreakClass → Option CharSet
  | [] => none
  | c :: rest =>
    if c.names.contains name then some (c.members.difference taken)
    else breakClass? name (taken.union c.members) rest

/-- The classes that the segmentations start with. -/
def lineEndClasses : List BreakClass :=
  [⟨["cr"], .single '\r'⟩,
   ⟨["lf"], .single '\n'⟩]

/-! ### Graphemes -/

/-- Signs that belong to the grapheme after them. -/
def graphemePrepend : CharSet :=
  prependedConcatenationMark.union <|
    .ofRanges [(0xD4E, 0xD4E), (0x111C2, 0x111C3), (0x113D1, 0x113D1), (0x1193F, 0x1193F),
      (0x11941, 0x11941), (0x11A3A, 0x11A3A), (0x11A84, 0x11A89), (0x11D46, 0x11D46),
      (0x11F02, 0x11F02)]

/-- Spacing marks that do not belong to the grapheme before them. -/
def looseSpacingMarks : CharSet :=
  .ofRanges [(0x102B, 0x102C), (0x1038, 0x1038), (0x1062, 0x1064), (0x1067, 0x106D),
    (0x1083, 0x1083), (0x1087, 0x108C), (0x108F, 0x108F), (0x109A, 0x109C), (0x1A61, 0x1A61),
    (0x1A63, 0x1A64), (0xAA7B, 0xAA7B), (0xAA7D, 0xAA7D), (0x11720, 0x11721)]

/-- Hangul syllables of two parts: every block of 28 starts with one. -/
def openSyllables : CharSet := .ofPoints ((List.range 399).map fun n => 0xAC00 + 28 * n)

def graphemeClasses : List BreakClass :=
  lineEndClasses ++
    [⟨["zwj"], .single (Char.ofNat 0x200D)⟩,
     ⟨["pp", "prepend"], graphemePrepend⟩,
     ⟨["ex", "extend"], graphemeExtend.union emojiModifier⟩,
     ⟨["cn", "control"],
      (categories ["zl", "zp", "cc", "cf"]).union (unassigned.intersection defaultIgnorable)⟩,
     ⟨["ri", "regionalindicator"], regionalIndicator⟩,
     ⟨["sm", "spacingmark"],
      (CharSet.difference (categories ["mc"]) looseSpacingMarks).union (.ofPoints [0xE33, 0xEB3])⟩,
     ⟨["l"], .ofRanges [(0x1100, 0x115F), (0xA960, 0xA97C)]⟩,
     ⟨["v"],
      .ofRanges [(0x1160, 0x11A7), (0xD7B0, 0xD7C6), (0x16D63, 0x16D63), (0x16D67, 0x16D6A)]⟩,
     ⟨["t"], .ofRanges [(0x11A8, 0x11FF), (0xD7CB, 0xD7FB)]⟩,
     ⟨["lv"], openSyllables⟩,
     ⟨["lvt"], .ofRanges [(0xAC00, 0xD7A3)]⟩]

/-- A class of the segmentation into graphemes. -/
def graphemeBreak? (name : String) : Option CharSet := breakClass? name .empty graphemeClasses

/-! ### Words -/

/-- Digits, and signs that go with them. -/
def numeric : CharSet :=
  decimalDigits.union <|
    .ofRanges [(0x600, 0x605), (0x66B, 0x66C), (0x6DD, 0x6DD), (0x890, 0x891), (0x8E2, 0x8E2),
      (0x110BD, 0x110BD), (0x110CD, 0x110CD)]

/-- Signs that are read as letters between the letters of a word. -/
def letterSigns : CharSet :=
  .ofRanges [(0x2C2, 0x2C5), (0x2D2, 0x2D7), (0x2DE, 0x2DF), (0x2E5, 0x2EB), (0x2ED, 0x2ED),
    (0x2EF, 0x2FF), (0x55A, 0x55C), (0x55E, 0x55E), (0x58A, 0x58A), (0x5F3, 0x5F3),
    (0xA708, 0xA716), (0xA720, 0xA721), (0xA789, 0xA78A), (0xAB5B, 0xAB5B)]

/-- Scripts that are written without spaces between words. -/
def unspacedScripts : CharSet :=
  .unions <| ["mymr", "lana", "khmr", "talu", "thai", "laoo", "tavt", "ahom", "tale", "hira"]
    |>.filterMap script?

/-- Letters of words in scripts with spaces. -/
def wordLetters : CharSet :=
  (alphabetic.union letterSigns).difference (ideographic.union unspacedScripts)

def katakana : CharSet :=
  CharSet.unions [(script? "kana").getD .empty, .ofRanges [(0x3031, 0x3035), (0x309B, 0x309C)],
    .ofPoints [0x30A0, 0x30FC, 0xFF70]]

def hebrewLetters : CharSet :=
  ((script? "hebr").getD .empty).intersection (categories ["lo"])

def wordClasses : List BreakClass :=
  lineEndClasses ++
    [⟨["nl", "newline"], .ofPoints [0xB, 0xC, 0x85, 0x2028, 0x2029]⟩,
     ⟨["zwj"], .single (Char.ofNat 0x200D)⟩,
     ⟨["extend"], .unions [graphemeExtend, categories ["mc"], emojiModifier]⟩,
     ⟨["ri", "regionalindicator"], regionalIndicator⟩,
     ⟨["fo", "format"],
      (CharSet.difference (categories ["cf"]) graphemePrepend).difference
        (.ofPoints [0x200B, 0x200C])⟩,
     ⟨["ka", "katakana"], katakana⟩,
     ⟨["hl", "hebrewletter"], hebrewLetters⟩,
     ⟨["le", "aletter"], wordLetters.union (.ofPoints [0x70F])⟩,
     ⟨["sq", "singlequote"], .single '\''⟩,
     ⟨["dq", "doublequote"], .single '"'⟩,
     ⟨["mb", "midnumlet"], .ofPoints [0x2E, 0x2018, 0x2019, 0x2024, 0xFE52, 0xFF07, 0xFF0E]⟩,
     ⟨["ml", "midletter"],
      .ofPoints [0x3A, 0xB7, 0x387, 0x55F, 0x5F4, 0x2027, 0xFE13, 0xFE55, 0xFF1A]⟩,
     ⟨["mn", "midnum"],
      .ofPoints [0x2C, 0x3B, 0x37E, 0x589, 0x60C, 0x60D, 0x66C, 0x7F8, 0x2044, 0xFE10, 0xFE14,
        0xFE50, 0xFE54, 0xFF0C, 0xFF1B]⟩,
     ⟨["nu", "numeric"], numeric⟩,
     ⟨["ex", "extendnumlet"], (categories ["pc"]).union (.ofPoints [0x202F])⟩,
     ⟨["wsegspace"], CharSet.difference (categories ["zs"]) (.ofPoints [0xA0, 0x2007, 0x202F])⟩]

/-- A class of the segmentation into words. -/
def wordBreak? (name : String) : Option CharSet := breakClass? name .empty wordClasses

/-! ### Sentences -/

def sentenceClasses : List BreakClass :=
  lineEndClasses ++
    [⟨["ex", "extend"],
      .unions [graphemeExtend, .single (Char.ofNat 0x200D), categories ["mc"]]⟩,
     ⟨["se", "sep"], .ofPoints [0x85, 0x2028, 0x2029]⟩,
     ⟨["fo", "format"],
      (CharSet.difference (categories ["cf"]) numeric).difference (.ofPoints [0x200C])⟩,
     ⟨["sp"], whiteSpace⟩,
     ⟨["lo", "lower"], lowercase.difference (.ofRanges [(0x10D0, 0x10FA), (0x10FD, 0x10FF)])⟩,
     ⟨["up", "upper"],
      (CharSet.union (categories ["lt"]) uppercase).difference
        (.ofRanges [(0x1C90, 0x1CBA), (0x1CBD, 0x1CBF)])⟩,
     ⟨["le", "oletter"], alphabetic.union (.ofPoints [0xA0, 0x5F3])⟩,
     ⟨["nu", "numeric"], numeric⟩,
     ⟨["at", "aterm"], .ofPoints [0x2E, 0x2024, 0xFE52, 0xFF0E]⟩,
     ⟨["sc", "scontinue"],
      .ofPoints [0x2C, 0x2D, 0x3A, 0x3B, 0x37E, 0x55D, 0x60C, 0x60D, 0x7F8, 0x1802, 0x1808, 0x2013,
        0x2014, 0x3001, 0xFE10, 0xFE11, 0xFE13, 0xFE14, 0xFE31, 0xFE32, 0xFE50, 0xFE51, 0xFE54,
        0xFE55, 0xFE58, 0xFE63, 0xFF0C, 0xFF0D, 0xFF1A, 0xFF1B, 0xFF64]⟩,
     ⟨["st", "sterm"], sentenceTerminal⟩,
     ⟨["cl", "close"],
      (categories ["ps", "pe", "pi", "pf"]).union
        (.ofRanges [(0x22, 0x22), (0x27, 0x27), (0x275B, 0x2760), (0x2E00, 0x2E01),
          (0x2E06, 0x2E08), (0x2E0B, 0x2E0B), (0x1F676, 0x1F678)])⟩]

/-- A class of the segmentation into sentences. -/
def sentenceBreak? (name : String) : Option CharSet := breakClass? name .empty sentenceClasses

end RowQuery.Property
