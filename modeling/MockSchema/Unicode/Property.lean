import MockSchema.CharSet
import MockSchema.Unicode.Letter
import MockSchema.Unicode.Mark
import MockSchema.Unicode.Punctuation
import MockSchema.Unicode.CaseChange
import MockSchema.Unicode.PropertyTable
import MockSchema.Unicode.BoundaryTable

/-!
# Categories and binary properties of characters

The tables hold what is independent; every other property is computed from them by its definition in
the character database.
-/

namespace MockSchema.Unicode

/-- Assigned general categories by long name. -/
def assignedCategories : List (String × List (Nat × Nat)) := [
  ("Uppercase_Letter", uppercaseLetter), ("Lowercase_Letter", lowercaseLetter),
  ("Titlecase_Letter", titlecaseLetter), ("Modifier_Letter", modifierLetter),
  ("Other_Letter", otherLetter), ("Nonspacing_Mark", nonspacingMark),
  ("Spacing_Mark", spacingMark), ("Enclosing_Mark", enclosingMark),
  ("Decimal_Number", decimalNumber), ("Letter_Number", letterNumber),
  ("Other_Number", otherNumber), ("Connector_Punctuation", connectorPunctuation),
  ("Dash_Punctuation", dashPunctuation), ("Open_Punctuation", openPunctuation),
  ("Close_Punctuation", closePunctuation), ("Initial_Punctuation", initialPunctuation),
  ("Final_Punctuation", finalPunctuation), ("Other_Punctuation", otherPunctuation),
  ("Math_Symbol", mathSymbol), ("Currency_Symbol", currencySymbol),
  ("Modifier_Symbol", modifierSymbol), ("Other_Symbol", otherSymbol),
  ("Space_Separator", spaceSeparator), ("Line_Separator", lineSeparator),
  ("Paragraph_Separator", paragraphSeparator), ("Control", control), ("Format", format),
  ("Private_Use", privateUse)]

/-- The characters on either side of the surrogates, with the gap between them closed. One is unassigned,
the other is for private use. -/
def acrossSurrogates : List (Nat × Nat) := [(CharSet.surrogateFirst - 1, CharSet.surrogateLast + 1)]

def complement (a : CharSet) : CharSet := a.complement CharSet.lastCodePoint

def ofTables (tables : List (List (Nat × Nat))) : CharSet := CharSet.ofSpans tables.flatten

/-- Characters with no category of their own. -/
def unassigned : CharSet :=
  (complement (ofTables (assignedCategories.map Prod.snd))).canonical

def letter : CharSet :=
  ofTables [uppercaseLetter, lowercaseLetter, titlecaseLetter, modifierLetter, otherLetter]

def mark : CharSet := ofTables [nonspacingMark, spacingMark, enclosingMark]

def number : CharSet := ofTables [decimalNumber, letterNumber, otherNumber]

def punctuation : CharSet :=
  ofTables [connectorPunctuation, dashPunctuation, openPunctuation, closePunctuation,
    initialPunctuation, finalPunctuation, otherPunctuation]

def symbol : CharSet := ofTables [mathSymbol, currencySymbol, modifierSymbol, otherSymbol]

def separator : CharSet := ofTables [spaceSeparator, lineSeparator, paragraphSeparator]

def other : CharSet :=
  ofTables [control, format, acrossSurrogates, privateUse, unassigned.spans]

/-- The characters of a category or group of categories, by long name. -/
def category? : String → Option CharSet
  | "Letter" => some letter
  | "Mark" => some mark
  | "Number" => some number
  | "Punctuation" => some punctuation
  | "Symbol" => some symbol
  | "Separator" => some separator
  | "Other" => some other
  | "Cased_Letter" => some (ofTables [uppercaseLetter, lowercaseLetter, titlecaseLetter])
  | "Unassigned" => some unassigned
  | "Any" => some ⟨[(0, CharSet.lastCodePoint)]⟩
  | "Assigned" => some (complement unassigned)
  | "ASCII" => some ⟨[(0, 0x7F)]⟩
  | name => (assignedCategories.lookup name).map CharSet.mk

def lowercase : CharSet := ofTables [lowercaseLetter, otherLowercase]

def uppercase : CharSet := ofTables [uppercaseLetter, otherUppercase]

def alphabetic : CharSet :=
  ofTables [lowercase.spans, uppercase.spans, titlecaseLetter, modifierLetter, otherLetter,
    letterNumber, otherAlphabetic]

def cased : CharSet := ofTables [lowercase.spans, uppercase.spans, titlecaseLetter]

def caseIgnorable : CharSet :=
  ofTables [nonspacingMark, enclosingMark, format, modifierLetter, modifierSymbol, wordMidLetter,
    wordMidNumberLetter, [(0x27, 0x27)]]

def graphemeExtend : CharSet := ofTables [enclosingMark, nonspacingMark, otherGraphemeExtend]

def graphemeBase : CharSet :=
  complement (ofTables [control, format, acrossSurrogates, privateUse, unassigned.spans,
    lineSeparator, paragraphSeparator, graphemeExtend.spans])

def defaultIgnorable : CharSet :=
  (ofTables [otherDefaultIgnorable, format, variationSelector]).diff
    (ofTables [whiteSpace, [(0xFFF9, 0xFFFB), (0x13430, 0x13440)], prependedConcatenationMark])

def patternReserved : CharSet := ofTables [patternSyntax, patternWhiteSpace]

def idStart : CharSet := (ofTables [letter.spans, letterNumber, otherIdStart]).diff patternReserved

def idContinue : CharSet :=
  (ofTables [idStart.spans, nonspacingMark, spacingMark, decimalNumber, connectorPunctuation,
    otherIdContinue]).diff patternReserved

/-- Characters whose compatibility form does not go on in an identifier. -/
def unstableIdContinue : List (Nat × Nat) :=
  [(0x37A, 0x37A), (0x309B, 0x309C), (0xFC5E, 0xFC63), (0xFDFA, 0xFDFB), (0xFE70, 0xFE70),
   (0xFE72, 0xFE72), (0xFE74, 0xFE74), (0xFE76, 0xFE76), (0xFE78, 0xFE78), (0xFE7A, 0xFE7A),
   (0xFE7C, 0xFE7C), (0xFE7E, 0xFE7E)]

/-- Characters whose compatibility form does not start an identifier. -/
def unstableIdStart : List (Nat × Nat) :=
  unstableIdContinue ++ [(0xE33, 0xE33), (0xEB3, 0xEB3), (0xFF9E, 0xFF9F)]

/-- Binary properties with a table of their own, by long name. -/
def binaryTables : List (String × List (Nat × Nat)) := [
  ("ASCII_Hex_Digit", asciiHexDigit), ("Bidi_Control", bidiControl),
  ("Bidi_Mirrored", bidiMirrored), ("Changes_When_Casefolded", changesWhenCasefolded),
  ("Changes_When_Lowercased", changesWhenLowercased),
  ("Changes_When_Titlecased", changesWhenTitlecased),
  ("Changes_When_Uppercased", changesWhenUppercased), ("Dash", dash),
  ("Deprecated", deprecatedCharacter), ("Diacritic", diacritic), ("Emoji", emoji),
  ("Emoji_Component", emojiComponent), ("Emoji_Modifier", emojiModifier),
  ("Emoji_Modifier_Base", emojiModifierBase), ("Emoji_Presentation", emojiPresentation),
  ("Extended_Pictographic", extendedPictographic), ("Extender", extender),
  ("Grapheme_Link", graphemeLink), ("Hex_Digit", hexDigit), ("Hyphen", hyphen),
  ("IDS_Binary_Operator", idsBinaryOperator), ("IDS_Trinary_Operator", idsTrinaryOperator),
  ("IDS_Unary_Operator", idsUnaryOperator), ("ID_Compat_Math_Continue", idCompatMathContinue),
  ("ID_Compat_Math_Start", idCompatMathStart), ("Ideographic", ideographic),
  ("Join_Control", joinControl), ("Logical_Order_Exception", logicalOrderException),
  ("Modifier_Combining_Mark", modifierCombiningMark), ("Noncharacter_Code_Point", noncharacter),
  ("Other_Alphabetic", otherAlphabetic),
  ("Other_Default_Ignorable_Code_Point", otherDefaultIgnorable),
  ("Other_Grapheme_Extend", otherGraphemeExtend), ("Other_ID_Continue", otherIdContinue),
  ("Other_ID_Start", otherIdStart), ("Other_Lowercase", otherLowercase), ("Other_Math", otherMath),
  ("Other_Uppercase", otherUppercase), ("Pattern_Syntax", patternSyntax),
  ("Pattern_White_Space", patternWhiteSpace),
  ("Prepended_Concatenation_Mark", prependedConcatenationMark), ("Quotation_Mark", quotationMark),
  ("Radical", radical), ("Regional_Indicator", regionalIndicator),
  ("Sentence_Terminal", sentenceTerminal), ("Soft_Dotted", softDotted),
  ("Terminal_Punctuation", terminalPunctuation), ("Unified_Ideograph", unifiedIdeograph),
  ("Variation_Selector", variationSelector), ("White_Space", whiteSpace)]

/-- The characters with a binary property, by long name. -/
def binary? : String → Option CharSet
  | "Alphabetic" => some alphabetic
  | "Case_Ignorable" => some caseIgnorable
  | "Cased" => some cased
  | "Changes_When_Casemapped" =>
    some (ofTables [changesWhenLowercased, changesWhenUppercased, changesWhenTitlecased])
  | "Default_Ignorable_Code_Point" => some defaultIgnorable
  | "Grapheme_Base" => some graphemeBase
  | "Grapheme_Extend" => some graphemeExtend
  | "ID_Continue" => some idContinue
  | "ID_Start" => some idStart
  | "Lowercase" => some lowercase
  | "Math" => some (ofTables [mathSymbol, otherMath])
  | "Uppercase" => some uppercase
  | "XID_Continue" => some (idContinue.diff ⟨unstableIdContinue⟩)
  | "XID_Start" => some (idStart.diff (CharSet.ofSpans unstableIdStart))
  | name => (binaryTables.lookup name).map CharSet.mk

/-- Characters of words: letters, marks, digits, connectors and joiners. -/
def wordCharacter : CharSet :=
  ofTables [alphabetic.spans, mark.spans, decimalNumber, connectorPunctuation, joinControl]

def isAlphabetic (c : Char) : Bool := alphabetic.contains c.toNat

def isAlphanumeric (c : Char) : Bool := isAlphabetic c || number.contains c.toNat

def isWhiteSpace (c : Char) : Bool := (CharSet.mk whiteSpace).contains c.toNat

theorem isWhiteSpace_of_visible {c : Char} (visible : 33 ≤ c.toNat ∧ c.toNat ≤ 126) :
    isWhiteSpace c = false := by
  simp only [isWhiteSpace, whiteSpace, CharSet.contains, List.any_cons, List.any_nil,
    Bool.or_eq_false_iff, Bool.and_eq_false_iff, decide_eq_false_iff_not, and_true]
  omega

def isGraphemeExtend (c : Char) : Bool := graphemeExtend.contains c.toNat

/-- Has a visible shape of its own or is the plain space. -/
def isPrintable (c : Char) : Bool :=
  c = ' ' || !(separator.contains c.toNat || other.contains c.toNat)

end MockSchema.Unicode
