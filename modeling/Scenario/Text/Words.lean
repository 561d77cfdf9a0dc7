import Scenario.Text.Class

/-!
# Words

`substituteWord` replaces a word in a text wherever it stands alone.  A word is a longest run of
letters, numerals and underscores of the text, so a longer word that contains it is left alone.
-/

set_option autoImplicit false

namespace Scenario.Text

/-- What a word of the text becomes. -/
def replacedWord (word replacement token : List Char) : List Char :=
  if token = word then replacement else token

/-- Replaces a word after the characters of `token`, which belong to the word being read and are
in reverse. -/
def substituteFrom (word replacement token : List Char) : List Char → List Char
  | [] => if token = [] then [] else replacedWord word replacement token.reverse
  | c :: rest =>
    if isWordChar c then substituteFrom word replacement (c :: token) rest
    else
      (if token = [] then [] else replacedWord word replacement token.reverse) ++
        c :: substituteFrom word replacement [] rest

/-- Replaces a word wherever it stands alone. -/
def substituteWord (word replacement cs : List Char) : List Char :=
  substituteFrom word replacement [] cs

end Scenario.Text
