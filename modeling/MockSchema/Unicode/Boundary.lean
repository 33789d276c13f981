import MockSchema.Unicode.Property

/-!
# Break classes of characters

The classes that text segmentation gives to characters, for graphemes, words and sentences.
-/

namespace MockSchema.Unicode

/-- Syllables of a leading consonant and a vowel come at every 28th place of their block. -/
def openSyllables : List (Nat × Nat) :=
  (List.range 399).map fun k => (0xAC00 + 28 * k, 0xAC00 + 28 * k)

def graphemeBreakExtend : CharSet := ofTables [graphemeExtend.spans, emojiModifier]

/-- Grapheme break classes with a table of their own. -/
def graphemeBreakTables : List (String × List (Nat × Nat)) := [
  ("Control", graphemeControl), ("CR", [(0xD, 0xD)]), ("L", leadingJamo), ("LF", [(0xA, 0xA)]),
  ("LV", openSyllables), ("Prepend", graphemePrepend), ("Regional_Indicator", regionalIndicator),
  ("T", trailingJamo), ("V", vowelJamo), ("ZWJ", [(0x200D, 0x200D)])]

/-- Characters by grapheme break class. -/
def graphemeBreak? : String → Option CharSet
  | "Extend" => some graphemeBreakExtend
  | "LVT" => some (CharSet.diff ⟨[(0xAC00, 0xD7A3)]⟩ ⟨openSyllables⟩)
  | "SpacingMark" =>
    some (((CharSet.ofSpans (spacingMark ++ graphemeSpacingMarkExtra)).diff
      ⟨graphemeSpacingMarkExcept⟩).diff graphemeBreakExtend)
  | name => (graphemeBreakTables.lookup name).map CharSet.mk

def wordBreakExtend : CharSet :=
  (ofTables [graphemeExtend.spans, spacingMark, emojiModifier]).diff ⟨[(0x200D, 0x200D)]⟩

/-- Word break classes with a table of their own. -/
def wordBreakTables : List (String × List (Nat × Nat)) := [
  ("CR", [(0xD, 0xD)]), ("Double_Quote", [(0x22, 0x22)]), ("ExtendNumLet", wordConnector),
  ("Format", wordFormat), ("Hebrew_Letter", wordHebrew), ("Katakana", wordKatakana),
  ("LF", [(0xA, 0xA)]), ("MidLetter", wordMidLetter), ("MidNum", wordMidNumber),
  ("MidNumLet", wordMidNumberLetter), ("Newline", wordNewline), ("Numeric", wordNumeric),
  ("Regional_Indicator", regionalIndicator), ("Single_Quote", [(0x27, 0x27)]),
  ("WSegSpace", wordSpace), ("ZWJ", [(0x200D, 0x200D)])]

/-- Characters by word break class. -/
def wordBreak? : String → Option CharSet
  | "ALetter" =>
    some ((ofTables [alphabetic.spans, wordLetterExtra]).diff
      (ofTables [ideographic, wordKatakana, wordHebrew, wordBreakExtend.spans, wordLetterExcept]))
  | "Extend" => some wordBreakExtend
  | name => (wordBreakTables.lookup name).map CharSet.mk

def sentenceBreakExtend : CharSet :=
  ofTables [graphemeExtend.spans, spacingMark, [(0x200D, 0x200D)]]

/-- Lower-case letters; those of a script without upper case at the start of words are left out. -/
def sentenceLower : CharSet :=
  lowercase.diff (ofTables [graphemeExtend.spans, [(0x10D0, 0x10FA), (0x10FD, 0x10FF)]])

/-- Upper-case and title-case letters; those never used at the start of words are left out. -/
def sentenceUpper : CharSet :=
  (ofTables [titlecaseLetter, uppercase.spans]).diff ⟨[(0x1C90, 0x1CBA), (0x1CBD, 0x1CBF)]⟩

/-- Sentence break classes with a table of their own. -/
def sentenceBreakTables : List (String × List (Nat × Nat)) := [
  ("ATerm", sentenceStop), ("Close", sentenceClose), ("CR", [(0xD, 0xD)]),
  ("Format", sentenceFormat), ("LF", [(0xA, 0xA)]), ("Numeric", sentenceNumeric),
  ("SContinue", sentenceContinue), ("Sep", sentenceSeparator), ("Sp", sentenceSpace),
  ("STerm", sentenceTerminator)]

/-- Characters by sentence break class. -/
def sentenceBreak? : String → Option CharSet
  | "Extend" => some sentenceBreakExtend
  | "OLetter" =>
    some ((ofTables [alphabetic.spans, [(0x5F3, 0x5F3)]]).diff
      (CharSet.unions [sentenceLower, sentenceUpper, sentenceBreakExtend]))
  | "Lower" => some sentenceLower
  | "Upper" => some sentenceUpper
  | name => (sentenceBreakTables.lookup name).map CharSet.mk

end MockSchema.Unicode
