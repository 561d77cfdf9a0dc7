import Scenario.Text.CharTable

/-!
# Numerals

Numeric characters of Unicode by general category.
-/

set_option autoImplicit false

namespace Scenario.Text.Table

/-- Decimal digits. -/
def decimalNumber : Spans := Spans.ofLines
  ["30..39 660..669 6f0..6f9 7c0..7c9 966..96f 9e6..9ef a66..a6f ae6..aef b66..b6f be6..bef",
   "c66..c6f ce6..cef d66..d6f de6..def e50..e59 ed0..ed9 f20..f29 1040..1049 1090..1099",
   "17e0..17e9 1810..1819 1946..194f 19d0..19d9 1a80..1a89 1a90..1a99 1b50..1b59 1bb0..1bb9",
   "1c40..1c49 1c50..1c59 a620..a629 a8d0..a8d9 a900..a909 a9d0..a9d9 a9f0..a9f9 aa50..aa59",
   "abf0..abf9 ff10..ff19 104a0..104a9 10d30..10d39 10d40..10d49 11066..1106f 110f0..110f9",
   "11136..1113f 111d0..111d9 112f0..112f9 11450..11459 114d0..114d9 11650..11659 116c0..116c9",
   "116d0..116e3 11730..11739 118e0..118e9 11950..11959 11bf0..11bf9 11c50..11c59 11d50..11d59",
   "11da0..11da9 11f50..11f59 16130..16139 16a60..16a69 16ac0..16ac9 16b50..16b59 16d70..16d79",
   "1ccf0..1ccf9 1d7ce..1d7ff 1e140..1e149 1e2f0..1e2f9 1e4f0..1e4f9 1e5f1..1e5fa 1e950..1e959",
   "1fbf0..1fbf9"]

/-- Numbers that look like letters. -/
def letterNumber : Spans := Spans.ofLines
  ["16ee..16f0 2160..2182 2185..2188 3007 3021..3029 3038..303a a6e6..a6ef 10140..10174 10341",
   "1034a 103d1..103d5 12400..1246e"]

/-- Fractions, superscripts and other numbers. -/
def otherNumber : Spans := Spans.ofLines
  ["b2..b3 b9 bc..be 9f4..9f9 b72..b77 bf0..bf2 c78..c7e d58..d5e d70..d78 f2a..f33 1369..137c",
   "17f0..17f9 19da 2070 2074..2079 2080..2089 2150..215f 2189 2460..249b 24ea..24ff 2776..2793",
   "2cfd 3192..3195 3220..3229 3248..324f 3251..325f 3280..3289 32b1..32bf a830..a835",
   "10107..10133 10175..10178 1018a..1018b 102e1..102fb 10320..10323 10858..1085f 10879..1087f",
   "108a7..108af 108fb..108ff 10916..1091b 109bc..109bd 109c0..109cf 109d2..109ff 10a40..10a48",
   "10a7d..10a7e 10a9d..10a9f 10aeb..10aef 10b58..10b5f 10b78..10b7f 10ba9..10baf 10cfa..10cff",
   "10e60..10e7e 10f1d..10f26 10f51..10f54 10fc5..10fcb 11052..11065 111e1..111f4 1173a..1173b",
   "118ea..118f2 11c5a..11c6c 11fc0..11fd4 16b5b..16b61 16e80..16e96 1d2c0..1d2d3 1d2e0..1d2f3",
   "1d360..1d378 1e8c7..1e8cf 1ec71..1ecab 1ecad..1ecaf 1ecb1..1ecb4 1ed01..1ed2d 1ed2f..1ed3d",
   "1f100..1f10c"]

end Scenario.Text.Table
