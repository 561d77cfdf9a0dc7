import Scenario.Text.CharTable

/-!
# Punctuation and symbols

Punctuation and symbols of Unicode by general category.
-/

set_option autoImplicit false

namespace Scenario.Text.Table

/-- Punctuation that joins words. -/
def connectorPunctuation : Spans := Spans.ofLines
  ["5f 203f..2040 2054 fe33..fe34 fe4d..fe4f ff3f"]

/-- Dashes. -/
def dashPunctuation : Spans := Spans.ofLines
  ["2d 58a 5be 1400 1806 2010..2015 2e17 2e1a 2e3a..2e3b 2e40 2e5d 301c 3030 30a0 fe31..fe32",
   "fe58 fe63 ff0d 10d6e 10ead"]

/-- Opening brackets. -/
def openPunctuation : Spans := Spans.ofLines
  ["28 5b 7b f3a f3c 169b 201a 201e 2045 207d 208d 2308 230a 2329 2768..2774/2 27c5",
   "27e6..27ee/2 2983..2997/2 29d8 29da 29fc 2e22..2e28/2 2e42 2e55..2e5b/2 3008..3010/2",
   "3014..301a/2 301d fd3f fe17 fe35..fe43/2 fe47 fe59..fe5d/2 ff08 ff3b ff5b ff5f ff62"]

/-- Closing brackets. -/
def closePunctuation : Spans := Spans.ofLines
  ["29 5d 7d f3b f3d 169c 2046 207e 208e 2309 230b 232a 2769..2775/2 27c6 27e7..27ef/2",
   "2984..2998/2 29d9 29db 29fd 2e23..2e29/2 2e56..2e5c/2 3009..3011/2 3015..301b/2 301e..301f",
   "fd3e fe18 fe36..fe44/2 fe48 fe5a..fe5e/2 ff09 ff3d ff5d..ff63/3"]

/-- Opening quotation marks. -/
def initialPunctuation : Spans := Spans.ofLines
  ["ab 2018 201b..201c 201f 2039 2e02 2e04 2e09 2e0c 2e1c 2e20"]

/-- Closing quotation marks. -/
def finalPunctuation : Spans := Spans.ofLines
  ["bb 2019 201d 203a 2e03 2e05 2e0a 2e0d 2e1d 2e21"]

/-- All other punctuation. -/
def otherPunctuation : Spans := Spans.ofLines
  ["21..23 25..27 2a 2c 2e..2f 3a..3b 3f..40 5c a1 a7 b6..b7 bf 37e 387 55a..55f 589 5c0..5c6/3",
   "5f3..5f4 609..60a 60c..60d 61b 61d..61f 66a..66d 6d4 700..70d 7f7..7f9 830..83e 85e",
   "964..965 970 9fd a76 af0 c77 c84 df4 e4f e5a..e5b f04..f12 f14 f85 fd0..fd4 fd9..fda",
   "104a..104f 10fb 1360..1368 166e 16eb..16ed 1735..1736 17d4..17d6 17d8..17da 1800..1805",
   "1807..180a 1944..1945 1a1e..1a1f 1aa0..1aa6 1aa8..1aad 1b4e..1b4f 1b5a..1b60 1b7d..1b7f",
   "1bfc..1bff 1c3b..1c3f 1c7e..1c7f 1cc0..1cc7 1cd3 2016..2017 2020..2027 2030..2038",
   "203b..203e 2041..2043 2047..2051 2053 2055..205e 2cf9..2cfc 2cfe..2cff 2d70 2e00..2e01",
   "2e06..2e08 2e0b 2e0e..2e16 2e18..2e19 2e1b 2e1e..2e1f 2e2a..2e2e 2e30..2e39 2e3c..2e3f 2e41",
   "2e43..2e4f 2e52..2e54 3001..3003 303d 30fb a4fe..a4ff a60d..a60f a673 a67e a6f2..a6f7",
   "a874..a877 a8ce..a8cf a8f8..a8fa a8fc a92e..a92f a95f a9c1..a9cd a9de..a9df aa5c..aa5f",
   "aade..aadf aaf0..aaf1 abeb fe10..fe16 fe19 fe30 fe45..fe46 fe49..fe4c fe50..fe52 fe54..fe57",
   "fe5f..fe61 fe68 fe6a..fe6b ff01..ff03 ff05..ff07 ff0a ff0c ff0e..ff0f ff1a..ff1b ff1f..ff20",
   "ff3c ff61 ff64..ff65 10100..10102 1039f 103d0 1056f 10857 1091f 1093f 10a50..10a58 10a7f",
   "10af0..10af6 10b39..10b3f 10b99..10b9c 10f55..10f59 10f86..10f89 11047..1104d 110bb..110bc",
   "110be..110c1 11140..11143 11174..11175 111c5..111c8 111cd 111db 111dd..111df 11238..1123d",
   "112a9 113d4..113d5 113d7..113d8 1144b..1144f 1145a..1145b 1145d 114c6 115c1..115d7",
   "11641..11643 11660..1166c 116b9 1173c..1173e 1183b 11944..11946 119e2 11a3f..11a46",
   "11a9a..11a9c 11a9e..11aa2 11b00..11b09 11be1 11c41..11c45 11c70..11c71 11ef7..11ef8",
   "11f43..11f4f 11fff 12470..12474 12ff1..12ff2 16a6e..16a6f 16af5 16b37..16b3b 16b44",
   "16d6d..16d6f 16e97..16e9a 16fe2 1bc9f 1da87..1da8b 1e5ff 1e95e..1e95f"]

/-- Mathematical symbols. -/
def mathSymbol : Spans := Spans.ofLines
  ["2b 3c..3e 7c 7e ac b1 d7 f7 3f6 606..608 2044 2052 207a..207c 208a..208c 2118 2140..2144",
   "214b 2190..2194 219a..219b 21a0..21a6/3 21ae 21ce..21cf 21d2 21d4 21f4..22ff 2320..2321",
   "237c 239b..23b3 23dc..23e1 25b7 25c1 25f8..25ff 266f 27c0..27c4 27c7..27e5 27f0..27ff",
   "2900..2982 2999..29d7 29dc..29fb 29fe..2aff 2b30..2b44 2b47..2b4c fb29 fe62 fe64..fe66 ff0b",
   "ff1c..ff1e ff5c ff5e ffe2 ffe9..ffec 10d8e..10d8f 1d6c1 1d6db 1d6fb 1d715 1d735 1d74f 1d76f",
   "1d789 1d7a9 1d7c3 1eef0..1eef1"]

/-- Currency symbols. -/
def currencySymbol : Spans := Spans.ofLines
  ["24 a2..a5 58f 60b 7fe..7ff 9f2..9f3 9fb af1 bf9 e3f 17db 20a0..20c0 a838 fdfc fe69 ff04",
   "ffe0..ffe1 ffe5..ffe6 11fdd..11fe0 1e2ff 1ecb0"]

/-- Symbols that modify the one before. -/
def modifierSymbol : Spans := Spans.ofLines
  ["5e 60 a8 af b4 b8 2c2..2c5 2d2..2df 2e5..2eb 2ed 2ef..2ff 375 384..385 888 1fbd 1fbf..1fc1",
   "1fcd..1fcf 1fdd..1fdf 1fed..1fef 1ffd..1ffe 309b..309c a700..a716 a720..a721 a789..a78a",
   "ab5b ab6a..ab6b fbb2..fbc2 ff3e ff40 ffe3 1f3fb..1f3ff"]

/-- All other symbols. -/
def otherSymbol : Spans := Spans.ofLines
  ["a6 a9 ae b0 482 58d..58e 60e..60f 6de 6e9 6fd..6fe 7f6 9fa b70 bf3..bf8 bfa c7f d4f d79",
   "f01..f03 f13 f15..f17 f1a..f1f f34..f38/2 fbe..fc5 fc7..fcc fce..fcf fd5..fd8 109e..109f",
   "1390..1399 166d 1940 19de..19ff 1b61..1b6a 1b74..1b7c 2100..2101 2103..2106 2108..2109 2114",
   "2116..2117 211e..2123 2125..2129/2 212e 213a..213b 214a 214c..214d 214f 218a..218b",
   "2195..2199 219c..219f 21a1..21a2 21a4..21a5 21a7..21ad 21af..21cd 21d0..21d1 21d3",
   "21d5..21f3 2300..2307 230c..231f 2322..2328 232b..237b 237d..239a 23b4..23db 23e2..2429",
   "2440..244a 249c..24e9 2500..25b6 25b8..25c0 25c2..25f7 2600..266e 2670..2767 2794..27bf",
   "2800..28ff 2b00..2b2f 2b45..2b46 2b4d..2b73 2b76..2b95 2b97..2bff 2ce5..2cea 2e50..2e51",
   "2e80..2e99 2e9b..2ef3 2f00..2fd5 2ff0..2fff 3004 3012..3013 3020 3036..3037 303e..303f",
   "3190..3191 3196..319f 31c0..31e5 31ef 3200..321e 322a..3247 3250 3260..327f 328a..32b0",
   "32c0..33ff 4dc0..4dff a490..a4c6 a828..a82b a836..a837 a839 aa77..aa79 fd40..fd4f fdcf",
   "fdfd..fdff ffe4 ffe8 ffed..ffee fffc..fffd 10137..1013f 10179..10189 1018c..1018e",
   "10190..1019c 101a0 101d0..101fc 10877..10878 10ac8 1173f 11fd5..11fdc 11fe1..11ff1",
   "16b3c..16b3f 16b45 1bc9c 1cc00..1ccef 1cd00..1ceb3 1cf50..1cfc3 1d000..1d0f5 1d100..1d126",
   "1d129..1d164 1d16a..1d16c 1d183..1d184 1d18c..1d1a9 1d1ae..1d1ea 1d200..1d241 1d245",
   "1d300..1d356 1d800..1d9ff 1da37..1da3a 1da6d..1da74 1da76..1da83 1da85..1da86 1e14f 1ecac",
   "1ed2e 1f000..1f02b 1f030..1f093 1f0a0..1f0ae 1f0b1..1f0bf 1f0c1..1f0cf 1f0d1..1f0f5",
   "1f10d..1f1ad 1f1e6..1f202 1f210..1f23b 1f240..1f248 1f250..1f251 1f260..1f265 1f300..1f3fa",
   "1f400..1f6d7 1f6dc..1f6ec 1f6f0..1f6fc 1f700..1f776 1f77b..1f7d9 1f7e0..1f7eb 1f7f0",
   "1f800..1f80b 1f810..1f847 1f850..1f859 1f860..1f887 1f890..1f8ad 1f8b0..1f8bb 1f8c0..1f8c1",
   "1f900..1fa53 1fa60..1fa6d 1fa70..1fa7c 1fa80..1fa89 1fa8f..1fac6 1face..1fadc 1fadf..1fae9",
   "1faf0..1faf8 1fb00..1fb92 1fb94..1fbef"]

end Scenario.Text.Table
