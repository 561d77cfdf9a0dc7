import Scenario.Pattern.Property.Named

/-!
# General categories

Every character has one general category.  `categories` gives their characters, and those of the
larger groups of categories.
-/

set_option autoImplicit false

namespace Scenario.Pattern

open Text Table

/-- The letters with case. -/
def casedLetterTables : List Spans := [uppercaseLetter, lowercaseLetter, titlecaseLetter]

/-- The letters. -/
def letterTables : List Spans := casedLetterTables ++ [modifierLetter, otherLetter]

/-- The marks. -/
def markTables : List Spans := [nonspacingMark, spacingMark, enclosingMark]

/-- The numerals. -/
def numeralTables : List Spans := [decimalNumber, letterNumber, otherNumber]

/-- The punctuation. -/
def punctuationTables : List Spans :=
  [connectorPunctuation, dashPunctuation, openPunctuation, closePunctuation, initialPunctuation,
   finalPunctuation, otherPunctuation]

/-- The symbols. -/
def symbolTables : List Spans := [mathSymbol, currencySymbol, modifierSymbol, otherSymbol]

/-- The separators. -/
def separatorTables : List Spans := [spaceSeparator, lineSeparator, paragraphSeparator]

/-- The characters that are written. -/
def writtenTables : List Spans :=
  letterTables ++ markTables ++ numeralTables ++ punctuationTables ++ symbolTables ++
    separatorTables

/-- The characters of every category but the one for what is not assigned. -/
def assignedTables : List Spans := writtenTables ++ [control, format, privateUse]

/-- All code points. -/
def everything : Spans := [(0, CodeSet.lastCode, 1)]

/-- The general categories under their short and long names. -/
def categories : List NamedSet :=
  [⟨["l", "letter"], letterTables, [], []⟩,
   ⟨["lc", "casedletter"], casedLetterTables, [], []⟩,
   ⟨["lu", "uppercaseletter"], [uppercaseLetter], [], []⟩,
   ⟨["ll", "lowercaseletter"], [lowercaseLetter], [], []⟩,
   ⟨["lt", "titlecaseletter"], [titlecaseLetter], [], []⟩,
   ⟨["lm", "modifierletter"], [modifierLetter], [], []⟩,
   ⟨["lo", "otherletter"], [otherLetter], [], []⟩,
   ⟨["m", "mark", "combiningmark"], markTables, [], []⟩,
   ⟨["mn", "nonspacingmark"], [nonspacingMark], [], []⟩,
   ⟨["mc", "spacingmark"], [spacingMark], [], []⟩,
   ⟨["me", "enclosingmark"], [enclosingMark], [], []⟩,
   ⟨["n", "number"], numeralTables, [], []⟩,
   ⟨["nd", "decimalnumber", "digit"], [decimalNumber], [], []⟩,
   ⟨["nl", "letternumber"], [letterNumber], [], []⟩,
   ⟨["no", "othernumber"], [otherNumber], [], []⟩,
   ⟨["p", "punctuation", "punct"], punctuationTables, [], []⟩,
   ⟨["pc", "connectorpunctuation"], [connectorPunctuation], [], []⟩,
   ⟨["pd", "dashpunctuation"], [dashPunctuation], [], []⟩,
   ⟨["ps", "openpunctuation"], [openPunctuation], [], []⟩,
   ⟨["pe", "closepunctuation"], [closePunctuation], [], []⟩,
   ⟨["pi", "initialpunctuation"], [initialPunctuation], [], []⟩,
   ⟨["pf", "finalpunctuation"], [finalPunctuation], [], []⟩,
   ⟨["po", "otherpunctuation"], [otherPunctuation], [], []⟩,
   ⟨["s", "symbol"], symbolTables, [], []⟩,
   ⟨["sm", "mathsymbol"], [mathSymbol], [], []⟩,
   ⟨["sc", "currencysymbol"], [currencySymbol], [], []⟩,
   ⟨["sk", "modifiersymbol"], [modifierSymbol], [], []⟩,
   ⟨["so", "othersymbol"], [otherSymbol], [], []⟩,
   ⟨["z", "separator"], separatorTables, [], []⟩,
   ⟨["zs", "spaceseparator"], [spaceSeparator], [], []⟩,
   ⟨["zl", "lineseparator"], [lineSeparator], [], []⟩,
   ⟨["zp", "paragraphseparator"], [paragraphSeparator], [], []⟩,
   ⟨["c", "other"], [everything], writtenTables, []⟩,
   ⟨["cc", "control", "cntrl"], [control], [], []⟩,
   ⟨["cf", "format"], [format], [], []⟩,
   ⟨["co", "privateuse"], [privateUse], [], []⟩,
   ⟨["cn", "unassigned"], [everything], assignedTables, []⟩,
   ⟨["any"], [everything], [], []⟩,
   ⟨["assigned"], assignedTables, [], []⟩,
   ⟨["ascii"], [[(0, asciiBound - 1, 1)]], [], []⟩]

end Scenario.Pattern
