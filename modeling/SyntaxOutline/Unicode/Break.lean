import SyntaxOutline.Unicode.Property
import SyntaxOutline.Unicode.Script

/-!
# Where texts are broken

Where a text can be broken into clusters, words and sentences depends on the roles of its
characters, as of version 16 of the standard. A character without a role has no set here.

* `Break.clusters`, `Break.words`, `Break.sentences` : the roles for each of the three.
-/

namespace SyntaxOutline.Unicode.Break

open Category Property Script

/-- The syllables of Hangul. -/
def syllables : CharSet := .ofText "ac00-d7a3"

/-- The syllables without a final consonant: every twenty-eighth. -/
def firstSyllables : CharSet :=
  ⟨(List.range 399).map fun i => (0xAC00 + 28 * i, 0xAC00 + 28 * i)⟩

def clusters : List NamedSet := [
  ⟨["CN", "Control"], [control, format, lineSeparator, paragraphSeparator], [graphemeExtend],
    "a d 600-605 6dd 70f 890-891 8e2 200d 2065 fff0-fff8 110bd 110cd e0000 e0002-e001f
     e0080-e00ff e01f0-e0fff"⟩,
  ⟨["CR"], [], [], "d"⟩,
  ⟨["EX", "Extend"], [graphemeExtend], [], "1f3fb-1f3ff"⟩,
  ⟨["L"], [], [], "1100-115f a960-a97c"⟩,
  ⟨["LF"], [], [], "a"⟩,
  ⟨["LV"], [firstSyllables], [], ""⟩,
  ⟨["LVT"], [syllables], [firstSyllables], ""⟩,
  ⟨["PP", "Prepend"], [], [],
    "600-605 6dd 70f 890-891 8e2 d4e 110bd 110cd 111c2-111c3 113d1 1193f 11941 11a3a
     11a84-11a89 11d46 11f02"⟩,
  ⟨["RI", "Regional_Indicator"], [], [], "1f1e6-1f1ff"⟩,
  ⟨["SM", "SpacingMark"], [spacingMark], [graphemeExtend],
    "e33 eb3 102b-102c 1038 1062-1064 1067-106d 1083 1087-108c 108f 109a-109c 1a61
     1a63-1a64 aa7b aa7d 11720-11721"⟩,
  ⟨["T"], [], [], "11a8-11ff d7cb-d7fb"⟩,
  ⟨["V"], [], [], "1160-11a7 d7b0-d7c6 16d63 16d67-16d6a"⟩,
  ⟨["ZWJ"], [], [], "200d"⟩]

def words : List NamedSet := [
  ⟨["CR"], [], [], "d"⟩,
  ⟨["DQ", "Double_Quote"], [], [], "22"⟩,
  ⟨["EX", "ExtendNumLet"], [connectorPunctuation], [], "202f"⟩,
  ⟨["Extend"], [graphemeExtend, spacingMark], [], "1f3fb-1f3ff"⟩,
  ⟨["FO", "Format"], [format], [graphemeExtend],
    "600-605 6dd 70f 890-891 8e2 200b 200d 110bd 110cd"⟩,
  ⟨["HL", "Hebrew_Letter"], [hebrew], [], "591-5c7 5f3-5f4 fb1e fb29"⟩,
  ⟨["KA", "Katakana"], [katakana], [], "3031-3035 309b-309c 30a0 30fc ff70"⟩,
  ⟨["LE", "ALetter"], [alphabetic],
    [ideographic, katakana, hiragana, graphemeExtend, spacingMark, hebrew],
    "2c2-2c5 2d2-2d7 2de-2df 2e5-2eb 2ed 2ef-2ff 55a-55c 55e 58a 5f3 70f e01-e30 e32-e33
     e40-e46 e81-e82 e84 e86-e8a e8c-ea3 ea5 ea7-eb0 eb2-eb3 ebd ec0-ec4 ec6 edc-edf
     1000-102a 103f 1050-1055 105a-105d 1061 1065-1066 106e-1070 1075-1081 108e 1780-17b3
     17d7 17dc 1950-196d 1970-1974 1980-19ab 19b0-19c9 1a20-1a54 1aa7 3031-3035 30fc
     a708-a716 a720-a721 a789-a78a a9e0-a9e4 a9e6-a9ef a9fa-a9fe aa60-aa76 aa7a aa7e-aaaf
     aab1 aab5-aab6 aab9-aabd aac0 aac2 aadb-aadd ab5b ff70 11700-1171a 11740-11746"⟩,
  ⟨["LF"], [], [], "a"⟩,
  ⟨["MB", "MidNumLet"], [], [], "2e 2018-2019 2024 fe52 ff07 ff0e"⟩,
  ⟨["ML", "MidLetter"], [], [], "3a b7 387 55f 5f4 2027 fe13 fe55 ff1a"⟩,
  ⟨["MN", "MidNum"], [], [], "2c 3b 37e 589 60c-60d 66c 7f8 2044 fe50 fe54 ff0c ff1b"⟩,
  ⟨["NL", "Newline"], [], [], "b-c 85 2028-2029"⟩,
  ⟨["NU", "Numeric"], [decimalNumber], [], "600-605 66b 6dd 890-891 8e2 19da 110bd 110cd"⟩,
  ⟨["RI", "Regional_Indicator"], [], [], "1f1e6-1f1ff"⟩,
  ⟨["SQ", "Single_Quote"], [], [], "27"⟩,
  ⟨["WSegSpace"], [spaceSeparator], [], "a0 2007 202f"⟩,
  ⟨["ZWJ"], [], [], "200d"⟩]

def sentences : List NamedSet := [
  ⟨["AT", "ATerm"], [], [], "2e 2024 fe52 ff0e"⟩,
  ⟨["CL", "Close"], [openPunctuation, closePunctuation, initialPunctuation, finalPunctuation], [],
    "22 27 275b-2760 2e00-2e01 2e06-2e08 2e0b 1f676-1f678"⟩,
  ⟨["CR"], [], [], "d"⟩,
  ⟨["EX", "Extend"], [graphemeExtend, spacingMark], [], "200d"⟩,
  ⟨["FO", "Format"], [format], [graphemeExtend], "600-605 6dd 890-891 8e2 200d 110bd 110cd"⟩,
  ⟨["LE", "OLetter"], [alphabetic],
    [lowercase, uppercase, titlecaseLetter, graphemeExtend, spacingMark],
    "5f3 10d0-10fa 10fd-10ff 1c90-1cba 1cbd-1cbf"⟩,
  ⟨["LF"], [], [], "a"⟩,
  ⟨["LO", "Lower"], [lowercase], [graphemeExtend], "10d0-10fa 10fd-10ff"⟩,
  ⟨["NU", "Numeric"], [decimalNumber], [], "600-605 66b-66c 6dd 890-891 8e2 19da 110bd 110cd"⟩,
  ⟨["SC", "SContinue"], [], [],
    "2c-2d 3a-3b 37e 55d 60c-60d 7f8 1802 1808 2013-2014 3001 fe10-fe11 fe13-fe14
     fe31-fe32 fe50-fe51 fe54-fe55 fe58 fe63 ff0c-ff0d ff1a-ff1b ff64"⟩,
  ⟨["SE", "Sep"], [], [], "85 2028-2029"⟩,
  ⟨["SP"], [spaceSeparator], [], "9 b-c"⟩,
  ⟨["ST", "STerm"], [sentenceTerminal], [], "2e 2024 fe52 ff0e"⟩,
  ⟨["UP", "Upper"], [uppercase, titlecaseLetter], [], "1c90-1cba 1cbd-1cbf"⟩]

end SyntaxOutline.Unicode.Break
