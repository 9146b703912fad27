/-
# Properties of characters

A property of characters is asked for by its name, or by a key and a value: that
a character is alphabetic, that its category is number, that its script is Greek.
Case, blanks, underscores and hyphens in names do not count, and neither does
`is` in front.

Key definitions: `Property.plainName`, `Property.named?`, `Property.valued?`.
-/
import RowQuery.Property.Age
import RowQuery.Property.Break
import RowQuery.Property.CaseChange

namespace RowQuery.Property

/-! ### Names -/

/-- Whether a name starts with `is`, in small or capital letters. -/
def startsWithIs : List Char → Bool
  | i :: s :: _ => i.toLower == 'i' && s.toLower == 's'
  | _ => false

/-- A name in small ASCII letters without blanks, underscores, hyphens and `is` in front. The name
of a single letter `c` keeps its `is`: it is no category, but an old property for comments. -/
def plainName (name : List Char) : String :=
  let body := if startsWithIs name then name.drop 2 else name
  let kept := (body.filter fun c => c != ' ' && c != '_' && c != '-' && c.toNat < 128).map
    Char.toLower
  if startsWithIs name && kept == ['c'] then "isc" else String.ofList kept

/-! ### Properties without values -/

/-- What characters are for: digits, dashes, quotation marks. -/
def useNamed? : String → Option CharSet
  | "ahex" | "asciihexdigit" => some asciiHexDigit
  | "bidic" | "bidicontrol" => some bidiControl
  | "bidim" | "bidimirrored" => some bidiMirrored
  | "dash" => some dash
  | "dep" | "deprecated" => some deprecated
  | "di" | "defaultignorablecodepoint" => some defaultIgnorable
  | "dia" | "diacritic" => some diacritic
  | "ext" | "extender" => some extender
  | "hex" | "hexdigit" => some hexDigit
  | "hyphen" => some hyphen
  | "joinc" | "joincontrol" => some joinControl
  | "math" => some math
  | "nchar" | "noncharactercodepoint" => some noncharacters
  | "pcm" | "prependedconcatenationmark" => some prependedConcatenationMark
  | "qmark" | "quotationmark" => some quotationMark
  | "ri" | "regionalindicator" => some regionalIndicator
  | "sd" | "softdotted" => some softDotted
  | "space" | "whitespace" | "wspace" => some whiteSpace
  | "sterm" | "sentenceterminal" => some sentenceTerminal
  | "term" | "terminalpunctuation" => some terminalPunctuation
  | "vs" | "variationselector" => some variationSelector
  | _ => none

/-- Properties of letters and of their case. -/
def letterNamed? : String → Option CharSet
  | "alpha" | "alphabetic" => some alphabetic
  | "cased" => some cased
  | "ci" | "caseignorable" => some caseIgnorable
  | "cwcf" | "changeswhencasefolded" => some changesWhenCasefolded
  | "cwcm" | "changeswhencasemapped" => some changesWhenCasemapped
  | "cwl" | "changeswhenlowercased" => some changesWhenLowercased
  | "cwt" | "changeswhentitlecased" => some changesWhenTitlecased
  | "cwu" | "changeswhenuppercased" => some changesWhenUppercased
  | "lower" | "lowercase" => some lowercase
  | "upper" | "uppercase" => some uppercase
  | _ => none

/-- Properties of ideographs, graphemes and emoji. -/
def shapeNamed? : String → Option CharSet
  | "ebase" | "emojimodifierbase" => some emojiModifierBase
  | "ecomp" | "emojicomponent" => some emojiComponent
  | "emod" | "emojimodifier" => some emojiModifier
  | "emoji" => some emoji
  | "epres" | "emojipresentation" => some emojiPresentation
  | "extpict" | "extendedpictographic" => some extendedPictographic
  | "grbase" | "graphemebase" => some graphemeBase
  | "grext" | "graphemeextend" => some graphemeExtend
  | "grlink" | "graphemelink" => some graphemeLink
  | "ideo" | "ideographic" => some ideographic
  | "idsb" | "idsbinaryoperator" => some binaryDescription
  | "idst" | "idstrinaryoperator" => some trinaryDescription
  | "idsu" | "idsunaryoperator" => some unaryDescription
  | "loe" | "logicalorderexception" => some logicalOrderException
  | "mcm" | "modifiercombiningmark" => some modifierCombiningMark
  | "radical" => some radical
  | "uideo" | "unifiedideograph" => some unifiedIdeograph
  | _ => none

/-- Properties of identifiers and of the text of programs. -/
def identifierNamed? : String → Option CharSet
  | "idc" | "idcontinue" => some idContinue
  | "idcompatmathcontinue" => some idCompatMathContinue
  | "idcompatmathstart" => some idCompatMathStart
  | "ids" | "idstart" => some idStart
  | "patsyn" | "patternsyntax" => some patternSyntax
  | "patws" | "patternwhitespace" => some patternWhiteSpace
  | "xidc" | "xidcontinue" => some xidContinue
  | "xids" | "xidstart" => some xidStart
  | _ => none

/-- The lists that complete other properties. -/
def contributoryNamed? : String → Option CharSet
  | "oalpha" | "otheralphabetic" => some otherAlphabetic
  | "odi" | "otherdefaultignorablecodepoint" => some otherDefaultIgnorable
  | "ogrext" | "othergraphemeextend" => some otherGraphemeExtend
  | "oidc" | "otheridcontinue" => some otherIdContinue
  | "oids" | "otheridstart" => some otherIdStart
  | "olower" | "otherlowercase" => some otherLowercase
  | "omath" | "othermath" => some otherMath
  | "oupper" | "otheruppercase" => some otherUppercase
  | _ => none

/-- Categories, groups of them, and what is known of every character. -/
def categoryNamed? : String → Option CharSet
  | "any" => some .any
  | "ascii" => some (.range '\x00' '\x7f')
  | "assigned" => some assigned
  | name => category? name

/-- The characters with the property of a plain name. -/
def named? (name : String) : Option CharSet :=
  useNamed? name <|> letterNamed? name <|> shapeNamed? name <|> identifierNamed? name <|>
    contributoryNamed? name <|> categoryNamed? name <|> script? name

/-! ### Properties with values -/

/-- The characters for which the property of a plain name has the value of a plain name. -/
def valued? (key value : String) : Option CharSet :=
  match key with
  | "gc" | "generalcategory" => categoryNamed? value
  | "sc" | "script" => script? value
  | "scx" | "scriptextensions" => usedInScript? value
  | "age" => age? value
  | "gcb" | "graphemeclusterbreak" => graphemeBreak? value
  | "sb" | "sentencebreak" => sentenceBreak? value
  | "wb" | "wordbreak" => wordBreak? value
  | _ => none

end RowQuery.Property
