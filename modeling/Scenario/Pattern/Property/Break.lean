import Scenario.Pattern.Property.Trait
import Scenario.Text.Table.Script

/-!
# Breaks

What characters do to the borders of user-perceived characters, words and sentences.
-/

set_option autoImplicit false

namespace Scenario.Pattern

open Text Table

/-- The characters of a script. -/
def scriptSpans (name : String) : Spans :=
  match scripts.find? (·.1.contains name) with
  | some (_, lines) => Spans.ofLines lines
  | none => []

/-- The non-joiner and the joiner. -/
def joiners : Spans := Spans.read "200c..200d"

/-- The joiner. -/
def joiner : Spans := Spans.read "200d"

/-- Regional indicators, pairs of which are flags. -/
def flagLetters : Spans := Spans.read "1f1e6..1f1ff"

/-- The sets for borders of user-perceived characters. -/
def characterBreaks : List NamedSet :=
  [⟨["cr"], [Spans.read "d"], [], []⟩,
   ⟨["lf"], [Spans.read "a"], [], []⟩,
   ⟨["control", "cn"],
    [lineSeparator, paragraphSeparator, control, format,
     Spans.read "2065 fff0..fff8 e0000 e0002..e001f e0080..e00ff e01f0..e0fff"],
    [Spans.read "a d", joiners, prependedMark] ++ extenderTables, []⟩,
   ⟨["extend", "ex"], extenderTables ++ [emojiModifier], [], []⟩,
   ⟨["zwj"], [joiner], [], []⟩,
   ⟨["regionalindicator", "ri"], [flagLetters], [], []⟩,
   ⟨["prepend", "pp"],
    [Spans.ofLines
       ["600..605 6dd 70f 890..891 8e2 d4e 110bd 110cd 111c2..111c3 113d1 1193f 11941 11a3a",
        "11a84..11a89 11d46 11f02"]], [], []⟩,
   ⟨["spacingmark", "sm"], [spacingMark, Spans.read "e33 eb3"],
    [Spans.ofLines
       ["102b..102c 1038 1062..1064 1067..106d 1083 1087..108c 108f 109a..109c 1a61 1a63..1a64",
        "aa7b aa7d 11720..11721"]] ++ extenderTables, []⟩,
   ⟨["l"], [Spans.read "1100..115f a960..a97c"], [], []⟩,
   ⟨["v"], [Spans.read "1160..11a7 d7b0..d7c6 16d63 16d67..16d6a"], [], []⟩,
   ⟨["t"], [Spans.read "11a8..11ff d7cb..d7fb"], [], []⟩,
   ⟨["lv"], [Spans.read "ac00..d788/28"], [], []⟩,
   ⟨["lvt"], [Spans.read "ac00..d7a3"], [Spans.read "ac00..d788/28"], []⟩]

/-- Marks of every kind, which words and sentences pass over. -/
def markLike : List Spans := extenderTables ++ [spacingMark]

/-- Signs that span the digits after them. -/
def numberSigns : Spans := Spans.read "600..605 6dd 890..891 8e2 110bd 110cd"

/-- The Syriac abbreviation mark, which spans letters. -/
def letterSign : Spans := Spans.read "70f"

/-- The Hebrew letters. -/
def hebrewLetter : Spans := Spans.read
  "5d0..5ea 5ef..5f2 fb1d fb1f..fb28 fb2a..fb36 fb38..fb3c fb3e fb40..fb41 fb43..fb44 fb46..fb4f"

/-- Signs of the Katakana script. -/
def katakanaSign : Spans := Spans.read "3031..3035 309b..309c 30a0 30fc ff70"

/-- Letters that are written without spaces between words. -/
def unspacedLetter : Spans := Spans.ofLines
  ["e01..e3a e40..e4e e81..e82 e84 e86..e8a e8c..ea3 ea5 ea7..ebd ec0..ec4 ec6 ec8..ece edc..edf",
   "1000..103f 1050..108f 109a..109f 1780..17d3 17d7 17dc..17dd 1950..196d 1970..1974 1980..19ab",
   "19b0..19c9 19da 19de..19df 1a20..1a5e 1a60..1a7c 1aa0..1aad a9e0..a9ef a9fa..a9fe aa60..aac2",
   "aadb..aadf 11700..1171a 1171d..1172b 1173a..1173b 1173f..11746"]

/-- Signs that words treat as letters. -/
def letterLike : Spans := Spans.ofLines
  ["2c2..2c5 2d2..2d7 2de..2df 2e5..2eb 2ed 2ef..2ff 55a..55c 55e 58a 5f3 a708..a716 a720..a721",
   "a789..a78a ab5b 70f"]

/-- The decimal separator of Arabic. -/
def arabicPoint : Spans := Spans.read "66b"

/-- The separator of thousands of Arabic. -/
def arabicThousands : Spans := Spans.read "66c"

/-- The sets for borders of words. -/
def wordBreaks : List NamedSet :=
  [⟨["cr"], [Spans.read "d"], [], []⟩,
   ⟨["lf"], [Spans.read "a"], [], []⟩,
   ⟨["newline", "nl"], [Spans.read "b..c 85 2028..2029"], [], []⟩,
   ⟨["extend"], markLike ++ [emojiModifier], [], []⟩,
   ⟨["zwj"], [joiner], [], []⟩,
   ⟨["format", "fo"], [format],
    [Spans.read "200b..200d", numberSigns, letterSign] ++ extenderTables, []⟩,
   ⟨["katakana", "ka"], [scriptSpans "katakana", katakanaSign], [], []⟩,
   ⟨["hebrewletter", "hl"], [hebrewLetter], [], []⟩,
   ⟨["aletter", "le"], alphabeticTables,
    [ideographic, scriptSpans "katakana", katakanaSign, scriptSpans "hiragana", unspacedLetter,
     hebrewLetter] ++ markLike, [letterLike]⟩,
   ⟨["singlequote", "sq"], [Spans.read "27"], [], []⟩,
   ⟨["doublequote", "dq"], [Spans.read "22"], [], []⟩,
   ⟨["midnumlet", "mb"], [Spans.read "2e 2018..2019 2024 fe52 ff07 ff0e"], [], []⟩,
   ⟨["midletter", "ml"], [Spans.read "3a b7 387 55f 5f4 2027 fe13 fe55 ff1a"], [], []⟩,
   ⟨["midnum", "mn"],
    [Spans.read "2c 3b 37e 589 60c..60d 66c 7f8 2044 fe10 fe14 fe50 fe54 ff0c ff1b"], [], []⟩,
   ⟨["numeric", "nu"], [decimalNumber, arabicPoint, numberSigns], [], []⟩,
   ⟨["extendnumlet", "ex"],
    [Spans.read "5f 202f 203f..2040 2054 fe33..fe34 fe4d..fe4f ff3f"], [], []⟩,
   ⟨["regionalindicator", "ri"], [flagLetters], [], []⟩,
   ⟨["wsegspace"], [Spans.read "20 1680 2000..2006 2008..200a 205f 3000"], [], []⟩]

/-- Full stops. -/
def fullStops : Spans := Spans.read "2e 2024 fe52 ff0e"

/-- Georgian letters of the two forms that are not used as cases of each other. -/
def georgianLower : Spans := Spans.read "10d0..10fa 10fd..10ff"

/-- The upper-case forms of these letters. -/
def georgianUpper : Spans := Spans.read "1c90..1cba 1cbd..1cbf"

/-- The sets for borders of sentences. -/
def sentenceBreaks : List NamedSet :=
  [⟨["cr"], [Spans.read "d"], [], []⟩,
   ⟨["lf"], [Spans.read "a"], [], []⟩,
   ⟨["extend", "ex"], markLike ++ [joiner], [], []⟩,
   ⟨["sep", "se"], [Spans.read "85 2028..2029"], [], []⟩,
   ⟨["format", "fo"], [format], [joiners, numberSigns, letterSign] ++ extenderTables, []⟩,
   ⟨["sp"], [whiteSpace], [Spans.read "a d 85 2028..2029"], []⟩,
   ⟨["lower", "lo"], lowercaseTables, extenderTables ++ [georgianLower], []⟩,
   ⟨["upper", "up"], uppercaseTables ++ [titlecaseLetter], [georgianUpper], []⟩,
   ⟨["oletter", "le"], alphabeticTables,
    lowercaseTables ++ uppercaseTables ++ [titlecaseLetter] ++ markLike,
    [georgianLower, georgianUpper, Spans.read "5f3", letterSign]⟩,
   ⟨["numeric", "nu"], [decimalNumber, arabicPoint, arabicThousands, numberSigns], [], []⟩,
   ⟨["aterm", "at"], [fullStops], [], []⟩,
   ⟨["scontinue", "sc"],
    [Spans.ofLines
       ["2c..2d 3a 3b 37e 55d 60c..60d 7f8 1802 1808 2013..2014 3001 fe10..fe11 fe13 fe14",
        "fe31..fe32 fe50..fe51 fe54 fe55 fe58 fe63 ff0c..ff0d ff1a ff1b ff64"]], [], []⟩,
   ⟨["sterm", "st"], [sentenceTerminal], [fullStops], []⟩,
   ⟨["close", "cl"],
    [openPunctuation, closePunctuation, initialPunctuation, finalPunctuation,
     Spans.read "22 27 275b..2760 2e00..2e01 2e06..2e08 2e0b 1f676..1f678"], [], []⟩]

end Scenario.Pattern
