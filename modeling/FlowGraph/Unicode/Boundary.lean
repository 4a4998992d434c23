import FlowGraph.Unicode.Property
import FlowGraph.Unicode.Script

/-!
The classes of characters by which texts are divided into grapheme clusters, words and sentences.
Most follow from the general categories and the properties.
-/

set_option autoImplicit false
set_option relaxedAutoImplicit false

namespace FlowGraph.Unicode.Boundary

open GeneralCategory Property

/-! ### Grapheme clusters -/

def prepend : Thunk CharSet :=
  .mk fun _ ↦ .ofTable
    "600-605 6DD 70F 890-891 8E2 D4E 110BD 110CD 111C2-111C3 113D1 1193F 11941 11A3A 11A84-11A89
      11D46 11F02"

def clusterExtend : Thunk CharSet := .mk fun _ ↦ graphemeExtend.get.union emojiModifier.get

def clusterControl : Thunk CharSet :=
  .mk fun _ ↦ (CharSet.unionAll
      [lineSeparator.get, paragraphSeparator.get, control.get, format.get,
        unassigned.get.inter defaultIgnorableCodePoint.get]).diff
      (.unionAll [.ofTable "A D 200D", prependedConcatenationMark.get, clusterExtend.get])

def leadingJamo : Thunk CharSet := .mk fun _ ↦ .ofTable "1100-115F A960-A97C"

def vowelJamo : Thunk CharSet := .mk fun _ ↦ .ofTable "1160-11A7 D7B0-D7C6 16D63 16D67-16D6A"

def trailingJamo : Thunk CharSet := .mk fun _ ↦ .ofTable "11A8-11FF D7CB-D7FB"

/-- The syllables without a trailing consonant: every 28th of the block. -/
def openSyllable : Thunk CharSet := .mk fun _ ↦ .ofTable "AC00-D788/28"

def closedSyllable : Thunk CharSet :=
  .mk fun _ ↦ (CharSet.ofRange 0xAC00 0xD7A3).diff openSyllable.get

def clusterSpacing : Thunk CharSet :=
  .mk fun _ ↦ (spacingMark.get.union (.ofTable "E33 EB3")).diff
      (.unionAll [clusterExtend.get, vowelJamo.get,
        .ofTable "102B 102C 1038 1062-1064 1067-106D 1083 1087-108C 108F 109A-109C 1A61 1A63-1A64
          AA7B AA7D 11720-11721"])

def carriageReturn : Thunk CharSet := .mk fun _ ↦ .ofTable "D"

def lineFeed : Thunk CharSet := .mk fun _ ↦ .ofTable "A"

def zeroWidthJoiner : Thunk CharSet := .mk fun _ ↦ .ofTable "200D"

def graphemeValues : List NamedSet :=
  [⟨["CN", "Control"], clusterControl⟩, ⟨["CR"], carriageReturn⟩,
    ⟨["EX", "Extend"], clusterExtend⟩, ⟨["L"], leadingJamo⟩, ⟨["LF"], lineFeed⟩,
    ⟨["LV"], openSyllable⟩, ⟨["LVT"], closedSyllable⟩, ⟨["PP", "Prepend"], prepend⟩,
    ⟨["RI", "Regional_Indicator"], regionalIndicator⟩, ⟨["SM", "SpacingMark"], clusterSpacing⟩,
    ⟨["T"], trailingJamo⟩, ⟨["V"], vowelJamo⟩, ⟨["ZWJ"], zeroWidthJoiner⟩]

/-! ### Words -/

def wordExtend : Thunk CharSet :=
  .mk fun _ ↦ (CharSet.unionAll [graphemeExtend.get, spacingMark.get, emojiModifier.get]).diff
      zeroWidthJoiner.get

def wordFormat : Thunk CharSet := .mk fun _ ↦ format.get.diff (.ofTable "200B-200D E0020-E007F")

def wordKatakana : Thunk CharSet :=
  .mk fun _ ↦ Script.katakana.get.union (.ofTable "3031-3035 309B-309C 30A0 30FC FF70")

def hebrewLetter : Thunk CharSet := .mk fun _ ↦ Script.hebrew.get.inter otherLetter.get

/-- The letters of scripts that write words without spaces between them. -/
def withoutSpaces : Thunk CharSet :=
  .mk fun _ ↦ .ofTable
    "E01-E30 E32-E33 E40-E46 E81-E82 E84 E86-E8A E8C-EA3 EA5 EA7-EB0 EB2-EB3 EBD EC0-EC4 EC6 EDC-EDF
      1000-102A 103F 1050-1055 105A-105D 1061 1065-1066 106E-1070 1075-1081 108E 1780-17B3 17D7 17DC
      1950-196D 1970-1974 1980-19AB 19B0-19C9 1A20-1A54 1AA7 A9E0-A9E4 A9E6-A9EF A9FA-A9FE AA60-AA76
      AA7A AA7E-AAAF AAB1 AAB5-AAB6 AAB9-AABD AAC0 AAC2 AADB-AADD 11700-1171A 11740-11746"

def wordLetter : Thunk CharSet :=
  .mk fun _ ↦ (alphabetic.get.union (.ofTable
      "2C2-2C5 2D2-2D7 2DE-2DF 2E5-2EB 2ED 2EF-2FF 55A-55C 55E
        58A 5F3 A708-A716 A720-A721 A789-A78A AB5B")).diff
      (.unionAll [ideographic.get, wordKatakana.get, Script.hiragana.get, wordExtend.get,
        hebrewLetter.get, withoutSpaces.get])

def wordNumeric : Thunk CharSet := .mk fun _ ↦ decimalNumber.get.union (.ofTable "66B")

def singleQuote : Thunk CharSet := .mk fun _ ↦ .ofTable "27"

def doubleQuote : Thunk CharSet := .mk fun _ ↦ .ofTable "22"

def betweenLettersAndNumbers : Thunk CharSet :=
  .mk fun _ ↦ .ofTable
    "2E 2018-2019 2024 FE52 FF07 FF0E"

def betweenLetters : Thunk CharSet := .mk fun _ ↦ .ofTable "3A B7 387 55F 5F4 2027 FE13 FE55 FF1A"

def betweenNumbers : Thunk CharSet :=
  .mk fun _ ↦ .ofTable
    "2C 3B 37E 589 60C-60D 66C 7F8 2044 FE10 FE14 FE50 FE54 FF0C FF1B"

def extendsNumbersAndLetters : Thunk CharSet :=
  .mk fun _ ↦ .ofTable
    "5F 202F 203F-2040 2054 FE33-FE34 FE4D-FE4F FF3F"

def newline : Thunk CharSet := .mk fun _ ↦ .ofTable "B-C 85 2028-2029"

def wordSpace : Thunk CharSet := .mk fun _ ↦ spaceSeparator.get.diff (.ofTable "A0 2007 202F")

def wordValues : List NamedSet :=
  [⟨["CR"], carriageReturn⟩, ⟨["DQ", "Double_Quote"], doubleQuote⟩,
    ⟨["EX", "ExtendNumLet"], extendsNumbersAndLetters⟩, ⟨["Extend"], wordExtend⟩,
    ⟨["FO", "Format"], wordFormat⟩, ⟨["HL", "Hebrew_Letter"], hebrewLetter⟩,
    ⟨["KA", "Katakana"], wordKatakana⟩, ⟨["LE", "ALetter"], wordLetter⟩, ⟨["LF"], lineFeed⟩,
    ⟨["MB", "MidNumLet"], betweenLettersAndNumbers⟩, ⟨["ML", "MidLetter"], betweenLetters⟩,
    ⟨["MN", "MidNum"], betweenNumbers⟩, ⟨["NL", "Newline"], newline⟩,
    ⟨["NU", "Numeric"], wordNumeric⟩, ⟨["RI", "Regional_Indicator"], regionalIndicator⟩,
    ⟨["SQ", "Single_Quote"], singleQuote⟩, ⟨["WSegSpace"], wordSpace⟩, ⟨["ZWJ"], zeroWidthJoiner⟩]

/-! ### Sentences -/

def sentenceExtend : Thunk CharSet :=
  .mk fun _ ↦ .unionAll [graphemeExtend.get, spacingMark.get, zeroWidthJoiner.get]

def separatorOfSentences : Thunk CharSet := .mk fun _ ↦ .ofTable "85 2028-2029"

def sentenceFormat : Thunk CharSet := .mk fun _ ↦ format.get.diff sentenceExtend.get

def sentenceSpace : Thunk CharSet := .mk fun _ ↦ whiteSpace.get.diff (.ofTable "A D 85 2028-2029")

def sentenceLower : Thunk CharSet :=
  .mk fun _ ↦ lowercase.get.diff (sentenceExtend.get.union (.ofTable "10D0-10FA 10FD-10FF"))

def sentenceUpper : Thunk CharSet :=
  .mk fun _ ↦ (uppercase.get.union titlecaseLetter.get).diff (.ofTable "1C90-1CBA 1CBD-1CBF")

def sentenceLetter : Thunk CharSet :=
  .mk fun _ ↦ (alphabetic.get.union (.ofTable "5F3")).diff
      (.unionAll [sentenceLower.get, sentenceUpper.get, sentenceExtend.get])

def sentenceNumeric : Thunk CharSet := .mk fun _ ↦ decimalNumber.get.union (.ofTable "66B-66C")

def ambiguousTerminal : Thunk CharSet := .mk fun _ ↦ .ofTable "2E 2024 FE52 FF0E"

def sureTerminal : Thunk CharSet := .mk fun _ ↦ sentenceTerminal.get.diff ambiguousTerminal.get

def sentenceContinue : Thunk CharSet :=
  .mk fun _ ↦ .ofTable
    "2C-2D 3A 55D 60C-60D 7F8 1802 1808 2013-2014 3001 FE10-FE11 FE13 FE31-FE32 FE50-FE51 FE55 FE58
      FE63 FF0C-FF0D FF1A FF64"

def sentenceClose : Thunk CharSet :=
  .mk fun _ ↦ .unionAll
      [openPunctuation.get, closePunctuation.get, initialPunctuation.get, finalPunctuation.get,
        .ofTable "22 27 275B-2760 2E00-2E01 2E06-2E08 2E0B 1F676-1F678"]

def sentenceValues : List NamedSet :=
  [⟨["AT", "ATerm"], ambiguousTerminal⟩, ⟨["CL", "Close"], sentenceClose⟩,
    ⟨["CR"], carriageReturn⟩, ⟨["EX", "Extend"], sentenceExtend⟩,
    ⟨["FO", "Format"], sentenceFormat⟩, ⟨["LE", "OLetter"], sentenceLetter⟩, ⟨["LF"], lineFeed⟩,
    ⟨["LO", "Lower"], sentenceLower⟩, ⟨["NU", "Numeric"], sentenceNumeric⟩,
    ⟨["SC", "SContinue"], sentenceContinue⟩, ⟨["SE", "Sep"], separatorOfSentences⟩,
    ⟨["SP", "Sp"], sentenceSpace⟩, ⟨["ST", "STerm"], sureTerminal⟩,
    ⟨["UP", "Upper"], sentenceUpper⟩]

end FlowGraph.Unicode.Boundary
