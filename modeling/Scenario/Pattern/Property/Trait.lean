import Scenario.Pattern.Property.Category
import Scenario.Text.Table.Trait

/-!
# Traits

Properties that a character has or has not, such as being alphabetic.  `traits` gives the
characters that have them.
-/

set_option autoImplicit false

namespace Scenario.Pattern

open Text Table

/-- The alphabetic characters. -/
def alphabeticTables : List Spans := letterTables ++ [letterNumber, otherAlphabetic]

/-- The characters in lower case. -/
def lowercaseTables : List Spans := [lowercaseLetter, otherLowercase]

/-- The characters in upper case. -/
def uppercaseTables : List Spans := [uppercaseLetter, otherUppercase]

/-- The characters that extend the one before. -/
def extenderTables : List Spans := [nonspacingMark, enclosingMark, otherExtender]

/-- The first characters of identifiers that are neither letters nor letter-like numbers. -/
def otherStart : Spans := Spans.read "1885..1886 2118 212e 309b..309c"

/-- The letter that no identifier starts with. -/
def noStart : Spans := Spans.read "2e2f"

/-- The characters of identifiers beyond the first that are not marks, digits or connectors. -/
def otherContinue : Spans := Spans.read "b7 387 1369..1371 19da 200c..200d 30fb ff65"

/-- The characters of identifiers. -/
def continueTables : List Spans :=
  letterTables ++
    [letterNumber, otherStart, nonspacingMark, spacingMark, decimalNumber, connectorPunctuation,
     otherContinue]

/-- What can occur in identifiers, but has a compatible form that cannot. -/
def unstable : Spans := Spans.read
  "37a 309b..309c fc5e..fc63 fdfa..fdfb fe70 fe72 fe74 fe76 fe78 fe7a fe7c fe7e"

/-- What can start identifiers, but has a compatible form that cannot. -/
def unstableStart : Spans := Spans.read "e33 eb3 ff9e..ff9f"

/-- The first mathematical characters of identifiers. -/
def mathStart : Spans := Spans.read
  "2202 2207 221e 1d6c1 1d6db 1d6fb 1d715 1d735 1d74f 1d76f 1d789 1d7a9 1d7c3"

/-- The mathematical characters of identifiers beyond the first. -/
def mathContinue : Spans := Spans.read "b2..b3 b9 2070 2074..207e 2080..208e"

/-- What is not shown and is neither a format character nor a selector of variants. -/
def otherIgnorable : Spans := Spans.ofLines
  ["34f 115f..1160 17b4..17b5 2065 3164 ffa0 fff0..fff8 e0000 e0002..e001f e0080..e00ff",
   "e01f0..e0fff"]

/-- The traits under their short and long names. -/
def traits : List NamedSet :=
  [⟨["asciihexdigit", "ahex"], [Spans.read "30..39 41..46 61..66"], [], []⟩,
   ⟨["alphabetic", "alpha"], alphabeticTables, [], []⟩,
   ⟨["bidicontrol", "bidic"], [bidiControl], [], []⟩,
   ⟨["caseignorable", "ci"],
    [nonspacingMark, enclosingMark, format, modifierLetter, modifierSymbol, otherCaseIgnorable],
    [], []⟩,
   ⟨["cased"], casedLetterTables ++ [otherCased], [], []⟩,
   ⟨["changeswhencasefolded", "cwcf"], [changesWhenCasefolded], [], []⟩,
   ⟨["changeswhencasemapped", "cwcm"], [changesWhenCasemapped], [], []⟩,
   ⟨["changeswhenlowercased", "cwl"], [changesWhenLowercased], [], []⟩,
   ⟨["changeswhentitlecased", "cwt"], [changesWhenTitlecased], [], []⟩,
   ⟨["changeswhenuppercased", "cwu"], [changesWhenUppercased], [], []⟩,
   ⟨["dash"], [dash], [], []⟩,
   ⟨["defaultignorablecodepoint", "di"], [defaultIgnorable], [], []⟩,
   ⟨["deprecated", "dep"], [deprecatedCharacter], [], []⟩,
   ⟨["diacritic", "dia"], [diacritic], [], []⟩,
   ⟨["emoji"], [emoji], [], []⟩,
   ⟨["emojicomponent", "ecomp"], [emojiComponent], [], []⟩,
   ⟨["emojimodifier", "emod"], [emojiModifier], [], []⟩,
   ⟨["emojimodifierbase", "ebase"], [emojiModifierBase], [], []⟩,
   ⟨["emojipresentation", "epres"], [emojiPresentation], [], []⟩,
   ⟨["extendedpictographic", "extpict"], [extendedPictographic], [], []⟩,
   ⟨["extender", "ext"], [extender], [], []⟩,
   ⟨["graphemebase", "grbase"], writtenTables,
    [lineSeparator, paragraphSeparator] ++ extenderTables, []⟩,
   ⟨["graphemeextend", "grext"], extenderTables, [], []⟩,
   ⟨["graphemelink", "grlink"], [graphemeLink], [], []⟩,
   ⟨["hexdigit", "hex"],
    [Spans.read "30..39 41..46 61..66 ff10..ff19 ff21..ff26 ff41..ff46"], [], []⟩,
   ⟨["hyphen"], [hyphen], [], []⟩,
   ⟨["idsbinaryoperator", "idsb"], [Spans.read "2ff0..2ff1 2ff4..2ffd 31ef"], [], []⟩,
   ⟨["idstrinaryoperator", "idst"], [Spans.read "2ff2..2ff3"], [], []⟩,
   ⟨["idsunaryoperator", "idsu"], [Spans.read "2ffe..2fff"], [], []⟩,
   ⟨["idcompatmathcontinue"], [mathStart, mathContinue], [], []⟩,
   ⟨["idcompatmathstart"], [mathStart], [], []⟩,
   ⟨["idcontinue", "idc"], continueTables, [noStart], []⟩,
   ⟨["idstart", "ids"], letterTables ++ [letterNumber, otherStart], [noStart], []⟩,
   ⟨["ideographic", "ideo"], [ideographic], [], []⟩,
   ⟨["joincontrol", "joinc"], [Spans.read "200c..200d"], [], []⟩,
   ⟨["logicalorderexception", "loe"], [logicalOrderException], [], []⟩,
   ⟨["lowercase", "lower"], lowercaseTables, [], []⟩,
   ⟨["math"], [mathSymbol, otherMath], [], []⟩,
   ⟨["modifiercombiningmark", "mcm"],
    [Spans.read "654..655 658 6dc 6e3 6e7..6e8 8ca..8cb 8cd..8cf 8d3 8f3"], [], []⟩,
   ⟨["noncharactercodepoint", "nchar"], [noncharacter], [], []⟩,
   ⟨["otheralphabetic", "oalpha"], [otherAlphabetic], [], []⟩,
   ⟨["otherdefaultignorablecodepoint", "odi"], [otherIgnorable], [], []⟩,
   ⟨["othergraphemeextend", "ogrext"], [otherExtender], [], []⟩,
   ⟨["otheridcontinue", "oidc"], [otherContinue], [], []⟩,
   ⟨["otheridstart", "oids"], [otherStart], [], []⟩,
   ⟨["otherlowercase", "olower"], [otherLowercase], [], []⟩,
   ⟨["othermath", "omath"], [otherMath], [], []⟩,
   ⟨["otheruppercase", "oupper"], [otherUppercase], [], []⟩,
   ⟨["patternsyntax", "patsyn"], [patternSyntax], [], []⟩,
   ⟨["patternwhitespace", "patws"],
    [Spans.read "9..d 20 85 200e..200f 2028..2029"], [], []⟩,
   ⟨["prependedconcatenationmark", "pcm"], [prependedMark], [], []⟩,
   ⟨["quotationmark", "qmark"], [quotationMark], [], []⟩,
   ⟨["radical"], [radical], [], []⟩,
   ⟨["regionalindicator", "ri"], [Spans.read "1f1e6..1f1ff"], [], []⟩,
   ⟨["sentenceterminal", "sterm"], [sentenceTerminal], [], []⟩,
   ⟨["softdotted", "sd"], [softDotted], [], []⟩,
   ⟨["terminalpunctuation", "term"], [terminalPunctuation], [], []⟩,
   ⟨["unifiedideograph", "uideo"], [unifiedIdeograph], [], []⟩,
   ⟨["uppercase", "upper"], uppercaseTables, [], []⟩,
   ⟨["variationselector", "vs"], [variationSelector], [], []⟩,
   ⟨["whitespace", "wspace", "space"], [whiteSpace], [], []⟩,
   ⟨["xidcontinue", "xidc"], continueTables, [noStart, unstable], []⟩,
   ⟨["xidstart", "xids"], letterTables ++ [letterNumber, otherStart],
    [noStart, unstable, unstableStart], []⟩]

end Scenario.Pattern
