/-
# Derived properties

Properties that follow from the categories by a rule, together with a list of
characters for which the rule is too narrow or too wide: what is alphabetic, what
a word or an identifier is made of, what extends the character before it.

Key definitions: `Property.alphabetic`, `Property.wordChars`,
`Property.graphemeExtend`, `Property.idStart`.
-/
import RowQuery.Property.Category
import RowQuery.Property.Contributory
import RowQuery.Property.Listed

namespace RowQuery.Property

/-- The characters with a category. -/
def assigned : CharSet := unassigned.complement

/-! ### Letters -/

def alphabetic : CharSet := .unions [categories ["l", "nl"], otherAlphabetic]

def lowercase : CharSet := (categories ["ll"]).union otherLowercase

def uppercase : CharSet := (categories ["lu"]).union otherUppercase

/-- Characters with a case. -/
def cased : CharSet := .unions [lowercase, uppercase, categories ["lt"]]

/-- Characters that are passed over in telling where a cased word ends. -/
def caseIgnorable : CharSet :=
  (categories ["mn", "me", "cf", "lm", "sk"]).union <|
    .ofPoints [0x27, 0x2E, 0x3A, 0xB7, 0x387, 0x55F, 0x5F4, 0x2018, 0x2019, 0x2024, 0x2027, 0xFE13,
      0xFE52, 0xFE55, 0xFF07, 0xFF0E, 0xFF1A]

/-- Digits of decimal numbers in any script. -/
def decimalDigits : CharSet := categories ["nd"]

/-- Characters of words: letters, marks, decimal digits, connectors and joiners. -/
def wordChars : CharSet := .unions [alphabetic, categories ["m", "nd", "pc"], joinControl]

def math : CharSet := (categories ["sm"]).union otherMath

/-! ### Graphemes -/

/-- Characters that are shown as a part of the one before them. -/
def graphemeExtend : CharSet := (categories ["me", "mn"]).union otherGraphemeExtend

/-- Characters that are shown by themselves. -/
def graphemeBase : CharSet :=
  (CharSet.union (categories ["c", "zl", "zp"]) graphemeExtend).complement

/-- Characters that are not shown at all where they are not supported. -/
def defaultIgnorable : CharSet :=
  (CharSet.unions [otherDefaultIgnorable, categories ["cf"], variationSelector]).difference <|
    .unions [whiteSpace, .ofRanges [(0xFFF9, 0xFFFB), (0x13430, 0x13440)],
      prependedConcatenationMark]

/-! ### Identifiers -/

/-- Characters that never belong to identifiers. -/
def reserved : CharSet := patternSyntax.union patternWhiteSpace

def idStart : CharSet := (CharSet.union (categories ["l", "nl"]) otherIdStart).difference reserved

def idContinue : CharSet :=
  (CharSet.unions [idStart, categories ["mn", "mc", "nd", "pc"], otherIdContinue]).difference
    reserved

/-- Characters that start identifiers in any normal form. -/
def xidStart : CharSet := idStart.difference unstableStart

/-- Characters that continue identifiers in any normal form. -/
def xidContinue : CharSet := idContinue.difference unstableContinue

end RowQuery.Property
