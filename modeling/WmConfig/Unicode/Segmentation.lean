import WmConfig.Unicode.Binary
import WmConfig.Unicode.Script

/-! # Text segmentation

The classes of characters by which texts are cut into grapheme clusters, words and sentences. Each
is derived from categories and binary properties by the standard's formula; what a formula adds or
takes away is that of version 16.0. -/

namespace WmConfig.Unicode.Segmentation

/-- The zero-width joiner. -/
def joiner : CharSet := .ofText "200D"

/-- Carriage return. -/
def carriageReturn : CharSet := .ofText "D"

/-- Line feed. -/
def lineFeed : CharSet := .ofText "A"

/-- The marks and modifiers that belong to the character before them. -/
def extending : CharSet :=
  BinaryProperty.graphemeExtendSet ∪ Category.set .spacingMark

/-- The flag letters. -/
def flagLetters : CharSet := BinaryProperty.set .regionalIndicator

/-- Hangul syllables of two letters. -/
def twoLetterSyllables : CharSet := .ofText "AC00-D788/1C"

/-- The class of the given name for grapheme clusters. -/
def grapheme? (name : String) : Option CharSet :=
  match name with
  | "cn" | "control" => some (
    (Category.sets [.control, .format, .lineSeparator, .paragraphSeparator] ∪
      (unassigned ∩ BinaryProperty.set .defaultIgnorableCodePoint)) \
      .ofText "
      A D 600-605 6DD 70F 890-891 8E2 200C-200D 110BD 110CD E0020-E007F")
  | "cr" => some carriageReturn
  | "ex" | "extend" => some (BinaryProperty.graphemeExtendSet ∪ BinaryProperty.set .emojiModifier)
  | "l" => some (.ofText "1100-115F A960-A97C")
  | "lf" => some lineFeed
  | "lv" => some twoLetterSyllables
  | "lvt" => some (.ofText "AC00-D7A3" \ twoLetterSyllables)
  | "pp" | "prepend" => some (
    BinaryProperty.set .prependedConcatenationMark ∪
      .ofText "D4E 111C2-111C3 1193F 11941 11A3A 11A84-11A89 11D46 11F02")
  | "ri" | "regionalindicator" => some flagLetters
  | "sm" | "spacingmark" => some (
    ((Category.set .spacingMark \ BinaryProperty.graphemeExtendSet) ∪
      .ofText "E33 EB3") \
      .ofText "
      102B-102C 1038 1062-1064 1067-106D 1083 1087-108C 108F 109A-109C 1A61 1A63-1A64 AA7B AA7D
      11720-11721")
  | "t" => some (.ofText "11A8-11FF D7CB-D7FB")
  | "v" => some (.ofText "1160-11A7 D7B0-D7C6")
  | "zwj" => some joiner
  | _ => none

/-- The letters of scripts written without spaces, and Hiragana. -/
def complexLetters : CharSet :=
  .unions ((["thai", "lao", "hiragana"].filterMap Script.named?).map Script.set)

/-- Hebrew letters. -/
def hebrewLetters : CharSet := .ofText "
      5D0-5EA 5EF-5F2 FB1D FB1F-FB28 FB2A-FB36 FB38-FB3C FB3E FB40-FB41 FB43-FB44 FB46-FB4F"

/-- Katakana. -/
def katakana : CharSet := .ofText "
      3031-3035 309B-309C 30A0-30FA 30FC-30FF 31F0-31FF 32D0-32FE 3300-3357 FF66-FF9D 1AFF0-1AFF3
      1AFF5-1AFFB 1AFFD-1AFFE 1B000 1B120-1B122 1B155 1B164-1B167"

/-- The class of the given name for words. -/
def word? (name : String) : Option CharSet :=
  match name with
  | "cr" => some carriageReturn
  | "dq" | "doublequote" => some (.ofText "22")
  | "ex" | "extendnumlet" => some (
    Category.set .connectorPunctuation ∪
      .ofText "202F")
  | "extend" => some (extending ∪ BinaryProperty.set .emojiModifier)
  | "fo" | "format" => some (
    Category.set .format \
      .ofText "200B-200D E0020-E007F")
  | "hl" | "hebrewletter" => some hebrewLetters
  | "ka" | "katakana" => some katakana
  | "le" | "aletter" => some (
    ((BinaryProperty.alphabeticSet \ .unions [
      BinaryProperty.set .ideographic, katakana, hebrewLetters, extending, complexLetters]) ∪
      .ofText "
      2C2-2C5 2D2-2D7 2DE-2DF 2E5-2EB 2ED 2EF-2FF 55A-55C 55E 58A 5F3 A708-A716 A720-A721
      A789-A78A AB5B") \
      .ofText "
      1000-102A 103F 1050-1055 105A-105D 1061 1065-1066 106E-1070 1075-1081 108E 1780-17B3 17D7
      17DC 1950-196D 1970-1974 1980-19AB 19B0-19C9 1A20-1A54 1AA7 A9E0-A9E4 A9E6-A9EF A9FA-A9FE
      AA60-AA76 AA7A AA7E-AAAF AAB1 AAB5-AAB6 AAB9-AABD AAC0 AAC2 AADB-AADD 11700-1171A
      11740-11746")
  | "lf" => some lineFeed
  | "mb" | "midnumlet" => some (.ofText "2E 2018-2019 2024 FE52 FF07 FF0E")
  | "ml" | "midletter" => some (.ofText "3A B7 387 55F 5F4 2027 FE13 FE55 FF1A")
  | "mn" | "midnum" => some (
    .ofText "
      2C 3B 37E 589 60C-60D 66C 7F8 2044 FE10 FE14 FE50 FE54 FF0C FF1B")
  | "nl" | "newline" => some (.ofText "B-C 85 2028-2029")
  | "nu" | "numeric" => some (
    Category.set .decimalNumber ∪
      .ofText "66B")
  | "ri" | "regionalindicator" => some flagLetters
  | "sq" | "singlequote" => some (.ofText "27")
  | "wsegspace" => some (
    Category.set .spaceSeparator \
      .ofText "A0 2007 202F")
  | "zwj" => some joiner
  | _ => none

/-- Lower-case letters of sentences. -/
def sentenceLower : CharSet :=
  BinaryProperty.lowercaseSet \
      .ofText "345 10D0-10FA 10FD-10FF"

/-- Upper-case letters of sentences. -/
def sentenceUpper : CharSet :=
  ((Category.set .titlecaseLetter ∪ BinaryProperty.uppercaseSet)) \
      .ofText "1C90-1CBA 1CBD-1CBF"

/-- Marks of sentences. -/
def sentenceExtend : CharSet := extending ∪ joiner

/-- The class of the given name for sentences. -/
def sentence? (name : String) : Option CharSet :=
  match name with
  | "at" | "aterm" => some (.ofText "2E 2024 FE52 FF0E")
  | "cl" | "close" => some (
    (Category.sets [.openPunctuation, .closePunctuation, .initialPunctuation, .finalPunctuation] ∪
      BinaryProperty.set .quotationMark ∪
      .ofText "275B-2760 2E00-2E01 2E06-2E08 2E0B 1F676-1F678") \
      .ofText "FF02 FF07")
  | "cr" => some carriageReturn
  | "ex" | "extend" => some sentenceExtend
  | "fo" | "format" => some (
    Category.set .format \
      .ofText "200C-200D E0020-E007F")
  | "le" | "oletter" => some (
    (BinaryProperty.alphabeticSet \ .unions [sentenceLower, sentenceUpper, sentenceExtend]) ∪
      .ofText "5F3")
  | "lf" => some lineFeed
  | "lo" | "lower" => some sentenceLower
  | "nu" | "numeric" => some (
    Category.set .decimalNumber ∪
      .ofText "66B-66C")
  | "sc" | "scontinue" => some (
    .ofText "
      2C-2D 3A 55D 60C-60D 7F8 1802 1808 2013-2014 3001 FE10-FE11 FE13 FE31-FE32 FE50-FE51 FE55
      FE58 FE63 FF0C-FF0D FF1A FF64")
  | "se" | "sep" => some (.ofText "85 2028-2029")
  | "sp" => some (.ofText "9 B-C 20 A0 1680 2000-200A 202F 205F 3000")
  | "st" | "sterm" => some (
    BinaryProperty.set .sentenceTerminal \
      .ofText "2E FE52 FF0E")
  | "up" | "upper" => some sentenceUpper
  | _ => none

end WmConfig.Unicode.Segmentation
