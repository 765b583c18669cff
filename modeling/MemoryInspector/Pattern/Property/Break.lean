import MemoryInspector.Pattern.Property.Binary

/-!
# Properties for breaks in texts

What a character does to the places around it: whether a text can be cut there between characters
as a reader sees them, between words, and between sentences.
-/

namespace MemoryInspector.Pattern.Property

def graphemeControl : Rule := .without
  (.either (.categories ["Zl", "Zp", "Cc", "Cf"])
    (.listed "2065 FFF0-FFF8 E0000 E0002-E001F E0080-E00FF E01F0-E0FFF"))
  (.either (.listed "A D 200C-200D") (.either prependedConcatenationMark graphemeExtend))

def extending : Rule := .either graphemeExtend emojiModifier

def graphemePrepend : Rule := .either prependedConcatenationMark
  (.listed "D4E 111C2-111C3 113D1 1193F 11941 11A3A 11A84-11A89 11D46 11F02")

def graphemeSpacing : Rule := .without (.either (.categories ["Mc"]) (.listed "E33 EB3"))
  (.either graphemeExtend
    (.listed "
    102B-102C 1038 1062-1064 1067-106D 1083 1087-108C 108F 109A-109C 1A61 1A63-1A64 AA7B AA7D
    11720-11721"))

def syllableOfTwo : Rule := .listed "
  AC00 AC1C AC38 AC54 AC70 AC8C ACA8 ACC4 ACE0 ACFC AD18 AD34 AD50 AD6C AD88 ADA4 ADC0 ADDC ADF8
  AE14 AE30 AE4C AE68 AE84 AEA0 AEBC AED8 AEF4 AF10 AF2C AF48 AF64 AF80 AF9C AFB8 AFD4 AFF0 B00C
  B028 B044 B060 B07C B098 B0B4 B0D0 B0EC B108 B124 B140 B15C B178 B194 B1B0 B1CC B1E8 B204 B220
  B23C B258 B274 B290 B2AC B2C8 B2E4 B300 B31C B338 B354 B370 B38C B3A8 B3C4 B3E0 B3FC B418 B434
  B450 B46C B488 B4A4 B4C0 B4DC B4F8 B514 B530 B54C B568 B584 B5A0 B5BC B5D8 B5F4 B610 B62C B648
  B664 B680 B69C B6B8 B6D4 B6F0 B70C B728 B744 B760 B77C B798 B7B4 B7D0 B7EC B808 B824 B840 B85C
  B878 B894 B8B0 B8CC B8E8 B904 B920 B93C B958 B974 B990 B9AC B9C8 B9E4 BA00 BA1C BA38 BA54 BA70
  BA8C BAA8 BAC4 BAE0 BAFC BB18 BB34 BB50 BB6C BB88 BBA4 BBC0 BBDC BBF8 BC14 BC30 BC4C BC68 BC84
  BCA0 BCBC BCD8 BCF4 BD10 BD2C BD48 BD64 BD80 BD9C BDB8 BDD4 BDF0 BE0C BE28 BE44 BE60 BE7C BE98
  BEB4 BED0 BEEC BF08 BF24 BF40 BF5C BF78 BF94 BFB0 BFCC BFE8 C004 C020 C03C C058 C074 C090 C0AC
  C0C8 C0E4 C100 C11C C138 C154 C170 C18C C1A8 C1C4 C1E0 C1FC C218 C234 C250 C26C C288 C2A4 C2C0
  C2DC C2F8 C314 C330 C34C C368 C384 C3A0 C3BC C3D8 C3F4 C410 C42C C448 C464 C480 C49C C4B8 C4D4
  C4F0 C50C C528 C544 C560 C57C C598 C5B4 C5D0 C5EC C608 C624 C640 C65C C678 C694 C6B0 C6CC C6E8
  C704 C720 C73C C758 C774 C790 C7AC C7C8 C7E4 C800 C81C C838 C854 C870 C88C C8A8 C8C4 C8E0 C8FC
  C918 C934 C950 C96C C988 C9A4 C9C0 C9DC C9F8 CA14 CA30 CA4C CA68 CA84 CAA0 CABC CAD8 CAF4 CB10
  CB2C CB48 CB64 CB80 CB9C CBB8 CBD4 CBF0 CC0C CC28 CC44 CC60 CC7C CC98 CCB4 CCD0 CCEC CD08 CD24
  CD40 CD5C CD78 CD94 CDB0 CDCC CDE8 CE04 CE20 CE3C CE58 CE74 CE90 CEAC CEC8 CEE4 CF00 CF1C CF38
  CF54 CF70 CF8C CFA8 CFC4 CFE0 CFFC D018 D034 D050 D06C D088 D0A4 D0C0 D0DC D0F8 D114 D130 D14C
  D168 D184 D1A0 D1BC D1D8 D1F4 D210 D22C D248 D264 D280 D29C D2B8 D2D4 D2F0 D30C D328 D344 D360
  D37C D398 D3B4 D3D0 D3EC D408 D424 D440 D45C D478 D494 D4B0 D4CC D4E8 D504 D520 D53C D558 D574
  D590 D5AC D5C8 D5E4 D600 D61C D638 D654 D670 D68C D6A8 D6C4 D6E0 D6FC D718 D734 D750 D76C D788"

def syllableOfThree : Rule := .without (.listed "AC00-D7A3") syllableOfTwo

def katakana : Rule := .listed "
  3031-3035 309B-309C 30A0-30FA 30FC-30FF 31F0-31FF 32D0-32FE 3300-3357 FF66-FF9D 1AFF0-1AFF3
  1AFF5-1AFFB 1AFFD-1AFFE 1B000 1B120-1B122 1B155 1B164-1B167"

def hiragana : Rule := .listed "3041-3096 309D-309F 1B001-1B11F 1B132 1B150-1B152 1F200"

def hebrewLetter : Rule := .listed "
  5D0-5EA 5EF-5F2 FB1D FB1F-FB28 FB2A-FB36 FB38-FB3C FB3E FB40-FB41 FB43-FB44 FB46-FB4F"

/-- Marks before a number that belong to it. -/
def numberMark : Rule := .without prependedConcatenationMark (.listed "70F")

def wordExtend : Rule := .without (.either extending (.categories ["Mc"])) (.listed "200D")

def wordFormat : Rule := .without (.categories ["Cf"])
  (.either (.listed "200B-200D") (.either prependedConcatenationMark graphemeExtend))

def wordNumeric : Rule := .either (.categories ["Nd"]) (.either (.listed "66B") numberMark)

/-- Letters of scripts that put no space between words. -/
def unspacedLetter : Rule := .listed "
  E01-E30 E32-E33 E40-E46 E81-E82 E84 E86-E8A E8C-EA3 EA5 EA7-EB0 EB2-EB3 EBD EC0-EC4 EC6
  EDC-EDF 1000-102A 103F 1050-1055 105A-105D 1061 1065-1066 106E-1070 1075-1081 108E 1780-17B3
  17D7 17DC 1950-196D 1970-1974 1980-19AB 19B0-19C9 1A20-1A54 1AA7 A9E0-A9E4 A9E6-A9EF A9FA-A9FE
  AA60-AA76 AA7A AA7E-AAAF AAB1 AAB5-AAB6 AAB9-AABD AAC0 AAC2 AADB-AADD 11700-1171A 11740-11746"

/-- Characters other than letters that stand in words as letters do. -/
def letterLike : Rule := .listed "
  2C2-2C5 2D2-2D7 2DE-2DF 2E5-2EB 2ED 2EF-2FF 55A-55C 55E 58A 5F3 70F A708-A716 A720-A721
  A789-A78A AB5B"

def wordLetter : Rule := .without (.either alphabetic letterLike)
  (.either (.either ideographic (.either katakana hiragana))
    (.either (.either hebrewLetter wordExtend) (.either wordNumeric unspacedLetter)))

def sentenceExtend : Rule := .either graphemeExtend (.either (.categories ["Mc"]) (.listed "200D"))

def sentenceNumeric : Rule := .either (.categories ["Nd"]) (.either (.listed "66B-66C") numberMark)

def sentenceFormat : Rule := .without (.categories ["Cf"])
  (.either (.listed "200C-200D") (.either numberMark graphemeExtend))

def sentenceSpace : Rule := .without whiteSpace (.listed "A D 85 2028-2029")

def sentenceLower : Rule :=
  .without lowercase (.either graphemeExtend (.listed "10D0-10FA 10FD-10FF"))

def sentenceUpper : Rule :=
  .without (.either uppercase (.categories ["Lt"])) (.listed "1C90-1CBA 1CBD-1CBF")

def sentenceLetter : Rule := .without (.either alphabetic (.listed "5F3"))
  (.either sentenceLower (.either sentenceUpper sentenceExtend))

def sentenceFullStop : Rule := .listed "2E 2024 FE52 FF0E"

def sentenceEnd : Rule := .without sentenceTerminal sentenceFullStop

def sentenceContinue : Rule := .listed "
  2C-2D 3A-3B 37E 55D 60C-60D 7F8 1802 1808 2013-2014 3001 FE10-FE11 FE13-FE14 FE31-FE32
  FE50-FE51 FE54-FE55 FE58 FE63 FF0C-FF0D FF1A-FF1B FF64"

def sentenceClose : Rule := .either (.categories ["Ps", "Pe", "Pi", "Pf"])
  (.listed "22 27 275B-2760 2E00-2E01 2E06-2E08 2E0B 1F676-1F678")

/-- The values of the property for breaks between characters. -/
def graphemeBreaks : List (List String × Rule) := [
  (["control", "cn"], graphemeControl),
  (["cr"], .listed "D"),
  (["extend", "ex"], extending),
  (["l"], .listed "1100-115F A960-A97C"),
  (["lf"], .listed "A"),
  (["lv"], syllableOfTwo),
  (["lvt"], syllableOfThree),
  (["prepend", "pp"], graphemePrepend),
  (["regionalindicator", "ri"], regionalIndicator),
  (["spacingmark", "sm"], graphemeSpacing),
  (["t"], .listed "11A8-11FF D7CB-D7FB"),
  (["v"], .listed "1160-11A7 16D63 16D67-16D6A D7B0-D7C6"),
  (["zwj"], .listed "200D")]

/-- The values of the property for breaks between words. -/
def wordBreaks : List (List String × Rule) := [
  (["aletter", "le"], wordLetter),
  (["cr"], .listed "D"),
  (["doublequote", "dq"], .listed "22"),
  (["extend"], wordExtend),
  (["extendnumlet", "ex"], .either (.categories ["Pc"]) (.listed "202F")),
  (["format", "fo"], wordFormat),
  (["hebrewletter", "hl"], hebrewLetter),
  (["katakana", "ka"], katakana),
  (["lf"], .listed "A"),
  (["midletter", "ml"], .listed "3A B7 387 55F 5F4 2027 FE13 FE55 FF1A"),
  (["midnum", "mn"], .listed
    "2C 3B 37E 589 60C-60D 66C 7F8 2044 FE10 FE14 FE50 FE54 FF0C FF1B"),
  (["midnumlet", "mb"], .listed "2E 2018-2019 2024 FE52 FF07 FF0E"),
  (["newline", "nl"], .listed "B-C 85 2028-2029"),
  (["numeric", "nu"], wordNumeric),
  (["regionalindicator", "ri"], regionalIndicator),
  (["singlequote", "sq"], .listed "27"),
  (["wsegspace"], .listed "20 1680 2000-2006 2008-200A 205F 3000"),
  (["zwj"], .listed "200D")]

/-- The values of the property for breaks between sentences. -/
def sentenceBreaks : List (List String × Rule) := [
  (["aterm", "at"], sentenceFullStop),
  (["close", "cl"], sentenceClose),
  (["cr"], .listed "D"),
  (["extend", "ex"], sentenceExtend),
  (["format", "fo"], sentenceFormat),
  (["lf"], .listed "A"),
  (["lower", "lo"], sentenceLower),
  (["numeric", "nu"], sentenceNumeric),
  (["oletter", "le"], sentenceLetter),
  (["scontinue", "sc"], sentenceContinue),
  (["sep", "se"], .listed "85 2028-2029"),
  (["sp"], sentenceSpace),
  (["sterm", "st"], sentenceEnd),
  (["upper", "up"], sentenceUpper)]

end MemoryInspector.Pattern.Property
