import Scenario.Text.CharTable

/-!
# Spaces, controls and case properties

Separators and other characters of Unicode by general category, white space, and what the case
of a word depends on.
-/

set_option autoImplicit false

namespace Scenario.Text.Table

/-- Spaces. -/
def spaceSeparator : Spans := Spans.ofLines
  ["20 a0 1680 2000..200a 202f 205f 3000"]

/-- The line separator. -/
def lineSeparator : Spans := Spans.ofLines
  ["2028"]

/-- The paragraph separator. -/
def paragraphSeparator : Spans := Spans.ofLines
  ["2029"]

/-- Control characters. -/
def control : Spans := Spans.ofLines
  ["0..1f 7f..9f"]

/-- Format characters. -/
def format : Spans := Spans.ofLines
  ["ad 600..605 61c 6dd 70f 890..891 8e2 180e 200b..200f 202a..202e 2060..2064 2066..206f feff",
   "fff9..fffb 110bd 110cd 13430..1343f 1bca0..1bca3 1d173..1d17a e0001 e0020..e007f"]

/-- Characters for private use. -/
def privateUse : Spans := Spans.ofLines
  ["e000..f8ff f0000..ffffd 100000..10fffd"]

/-- White space. -/
def whiteSpace : Spans := Spans.ofLines
  ["9..d 20 85 a0 1680 2000..200a 2028..2029 202f 205f 3000"]

/-- Characters with case that are not letters in upper, lower or title case. -/
def otherCased : Spans := Spans.ofLines
  ["aa ba 2b0..2b8 2c0..2c1 2e0..2e4 345 37a 10fc 1d2c..1d6a 1d78 1d9b..1dbf 2071 207f",
   "2090..209c 2160..217f 24b6..24e9 2c7c..2c7d a69c..a69d a770 a7f2..a7f4 a7f8..a7f9",
   "ab5c..ab5f ab69 10780 10783..10785 10787..107b0 107b2..107ba 1e030..1e06d 1f130..1f149",
   "1f150..1f169 1f170..1f189"]

/-- Punctuation that the case of a word ignores. -/
def otherCaseIgnorable : Spans := Spans.ofLines
  ["27 2e 3a b7 387 55f 5f4 2018..2019 2024 2027 fe13 fe52 fe55 ff07 ff0e ff1a"]

/-- Lower-case characters that are not lower-case letters. -/
def otherLowercase : Spans := Spans.ofLines
  ["aa ba 2b0..2b8 2c0..2c1 2e0..2e4 345 37a 10fc 1d2c..1d6a 1d78 1d9b..1dbf 2071 207f",
   "2090..209c 2170..217f 24d0..24e9 2c7c..2c7d a69c..a69d a770 a7f2..a7f4 a7f8..a7f9",
   "ab5c..ab5f ab69 10780 10783..10785 10787..107b0 107b2..107ba 1e030..1e06d"]

/-- Upper-case characters that are not upper-case letters. -/
def otherUppercase : Spans := Spans.ofLines
  ["2160..216f 24b6..24cf 1f130..1f149 1f150..1f169 1f170..1f189"]

end Scenario.Text.Table
