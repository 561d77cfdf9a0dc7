import Scenario.Text.CharTable

/-!
# Letters

The letters of Unicode by general category.
-/

set_option autoImplicit false

namespace Scenario.Text.Table

/-- Letters in upper case. -/
def uppercaseLetter : Spans := Spans.ofLines
  ["41..5a c0..d6 d8..de 100..136/2 139..147/2 14a..176/2 178..179 17b 17d 181..182 184",
   "186..187 189..18b 18e..191 193..194 196..198 19c..19d 19f..1a0 1a2 1a4 1a6..1a7 1a9 1ac",
   "1ae..1af 1b1..1b3 1b5 1b7..1b8 1bc 1c4..1cd/3 1cf..1db/2 1de..1ee/2 1f1 1f4 1f6..1f8",
   "1fa..232/2 23a..23b 23d..23e 241 243..246 248..24e/2 370 372 376 37f 386 388..38a 38c",
   "38e..38f 391..3a1 3a3..3ab 3cf 3d2..3d4 3d8..3ee/2 3f4 3f7 3f9..3fa 3fd..42f 460..480/2",
   "48a..4be/2 4c0..4c1 4c3..4cd/2 4d0..52e/2 531..556 10a0..10c5 10c7 10cd 13a0..13f5 1c89",
   "1c90..1cba 1cbd..1cbf 1e00..1e94/2 1e9e..1efe/2 1f08..1f0f 1f18..1f1d 1f28..1f2f 1f38..1f3f",
   "1f48..1f4d 1f59..1f5f/2 1f68..1f6f 1fb8..1fbb 1fc8..1fcb 1fd8..1fdb 1fe8..1fec 1ff8..1ffb",
   "2102 2107 210b..210d 2110..2112 2115 2119..211d 2124..2128/2 212a..212d 2130..2133",
   "213e..213f 2145 2183 2c00..2c2f 2c60 2c62..2c64 2c67..2c6b/2 2c6d..2c70 2c72 2c75",
   "2c7e..2c80 2c82..2ce2/2 2ceb 2ced 2cf2 a640..a66c/2 a680..a69a/2 a722..a72e/2 a732..a76e/2",
   "a779 a77b a77d..a77e a780..a786/2 a78b a78d a790 a792 a796..a7a8/2 a7aa..a7ae a7b0..a7b4",
   "a7b6..a7c2/2 a7c4..a7c7 a7c9 a7cb..a7cc a7d0 a7d6..a7dc/2 a7f5 ff21..ff3a 10400..10427",
   "104b0..104d3 10570..1057a 1057c..1058a 1058c..10592 10594..10595 10c80..10cb2 10d50..10d65",
   "118a0..118bf 16e40..16e5f 1d400..1d419 1d434..1d44d 1d468..1d481 1d49c 1d49e..1d49f 1d4a2",
   "1d4a5..1d4a6 1d4a9..1d4ac 1d4ae..1d4b5 1d4d0..1d4e9 1d504..1d505 1d507..1d50a 1d50d..1d514",
   "1d516..1d51c 1d538..1d539 1d53b..1d53e 1d540..1d544 1d546 1d54a..1d550 1d56c..1d585",
   "1d5a0..1d5b9 1d5d4..1d5ed 1d608..1d621 1d63c..1d655 1d670..1d689 1d6a8..1d6c0 1d6e2..1d6fa",
   "1d71c..1d734 1d756..1d76e 1d790..1d7a8 1d7ca 1e900..1e921"]

/-- Letters in lower case. -/
def lowercaseLetter : Spans := Spans.ofLines
  ["61..7a b5 df..f6 f8..ff 101..135/2 137..138 13a..146/2 148..149 14b..177/2 17a 17c 17e..180",
   "183 185 188 18c..18d 192 195 199..19b 19e 1a1..1a5/2 1a8 1aa..1ab 1ad 1b0 1b4 1b6 1b9..1ba",
   "1bd..1bf 1c6..1cc/3 1ce..1da/2 1dc..1dd 1df..1ed/2 1ef..1f0 1f3 1f5 1f9..231/2 233..239 23c",
   "23f..240 242 247..24d/2 24f..293 295..2af 371 373 377 37b..37d 390 3ac..3ce 3d0..3d1",
   "3d5..3d7 3d9..3ed/2 3ef..3f3 3f5 3f8 3fb..3fc 430..45f 461..481/2 48b..4bf/2 4c2..4cc/2",
   "4ce..4cf 4d1..52f/2 560..588 10d0..10fa 10fd..10ff 13f8..13fd 1c80..1c88 1c8a 1d00..1d2b",
   "1d6b..1d77 1d79..1d9a 1e01..1e93/2 1e95..1e9d 1e9f..1efd/2 1eff..1f07 1f10..1f15 1f20..1f27",
   "1f30..1f37 1f40..1f45 1f50..1f57 1f60..1f67 1f70..1f7d 1f80..1f87 1f90..1f97 1fa0..1fa7",
   "1fb0..1fb4 1fb6..1fb7 1fbe 1fc2..1fc4 1fc6..1fc7 1fd0..1fd3 1fd6..1fd7 1fe0..1fe7",
   "1ff2..1ff4 1ff6..1ff7 210a 210e..210f 2113 212f..2139/5 213c..213d 2146..2149 214e 2184",
   "2c30..2c5f 2c61 2c65..2c66 2c68..2c6c/2 2c71 2c73..2c74 2c76..2c7b 2c81..2ce1/2 2ce3..2ce4",
   "2cec 2cee 2cf3 2d00..2d25 2d27 2d2d a641..a66d/2 a681..a69b/2 a723..a72d/2 a72f..a731",
   "a733..a76f/2 a771..a778 a77a a77c a77f..a787/2 a78c a78e a791 a793..a795 a797..a7a9/2 a7af",
   "a7b5..a7c3/2 a7c8 a7ca a7cd a7d1..a7db/2 a7f6 a7fa ab30..ab5a ab60..ab68 ab70..abbf",
   "fb00..fb06 fb13..fb17 ff41..ff5a 10428..1044f 104d8..104fb 10597..105a1 105a3..105b1",
   "105b3..105b9 105bb..105bc 10cc0..10cf2 10d70..10d85 118c0..118df 16e60..16e7f 1d41a..1d433",
   "1d44e..1d454 1d456..1d467 1d482..1d49b 1d4b6..1d4b9 1d4bb 1d4bd..1d4c3 1d4c5..1d4cf",
   "1d4ea..1d503 1d51e..1d537 1d552..1d56b 1d586..1d59f 1d5ba..1d5d3 1d5ee..1d607 1d622..1d63b",
   "1d656..1d66f 1d68a..1d6a5 1d6c2..1d6da 1d6dc..1d6e1 1d6fc..1d714 1d716..1d71b 1d736..1d74e",
   "1d750..1d755 1d770..1d788 1d78a..1d78f 1d7aa..1d7c2 1d7c4..1d7c9 1d7cb 1df00..1df09",
   "1df0b..1df1e 1df25..1df2a 1e922..1e943"]

/-- Digraphs with only the first part in upper case. -/
def titlecaseLetter : Spans := Spans.ofLines
  ["1c5..1cb/3 1f2 1f88..1f8f 1f98..1f9f 1fa8..1faf 1fbc 1fcc 1ffc"]

/-- Letters that modify the one before. -/
def modifierLetter : Spans := Spans.ofLines
  ["2b0..2c1 2c6..2d1 2e0..2e4 2ec 2ee 374 37a 559 640 6e5..6e6 7f4..7f5 7fa 81a 824 828 8c9",
   "971 e46 ec6 10fc 17d7 1843 1aa7 1c78..1c7d 1d2c..1d6a 1d78 1d9b..1dbf 2071 207f 2090..209c",
   "2c7c..2c7d 2d6f 2e2f 3005 3031..3035 303b 309d..309e 30fc..30fe a015 a4f8..a4fd a60c a67f",
   "a69c..a69d a717..a71f a770 a788 a7f2..a7f4 a7f8..a7f9 a9cf a9e6 aa70 aadd aaf3..aaf4",
   "ab5c..ab5f ab69 ff70 ff9e..ff9f 10780..10785 10787..107b0 107b2..107ba 10d4e 10d6f",
   "16b40..16b43 16d40..16d42 16d6b..16d6c 16f93..16f9f 16fe0..16fe1 16fe3 1aff0..1aff3",
   "1aff5..1affb 1affd..1affe 1e030..1e06d 1e137..1e13d 1e4eb 1e94b"]

/-- Letters without case. -/
def otherLetter : Spans := Spans.ofLines
  ["aa ba 1bb 1c0..1c3 294 5d0..5ea 5ef..5f2 620..63f 641..64a 66e..66f 671..6d3 6d5 6ee..6ef",
   "6fa..6fc 6ff 710 712..72f 74d..7a5 7b1 7ca..7ea 800..815 840..858 860..86a 870..887",
   "889..88e 8a0..8c8 904..939 93d 950 958..961 972..980 985..98c 98f..990 993..9a8 9aa..9b0",
   "9b2 9b6..9b9 9bd 9ce 9dc..9dd 9df..9e1 9f0..9f1 9fc a05..a0a a0f..a10 a13..a28 a2a..a30",
   "a32..a33 a35..a36 a38..a39 a59..a5c a5e a72..a74 a85..a8d a8f..a91 a93..aa8 aaa..ab0",
   "ab2..ab3 ab5..ab9 abd ad0 ae0..ae1 af9 b05..b0c b0f..b10 b13..b28 b2a..b30 b32..b33",
   "b35..b39 b3d b5c..b5d b5f..b61 b71 b83 b85..b8a b8e..b90 b92..b95 b99..b9a b9c b9e..b9f",
   "ba3..ba4 ba8..baa bae..bb9 bd0 c05..c0c c0e..c10 c12..c28 c2a..c39 c3d c58..c5a c5d",
   "c60..c61 c80 c85..c8c c8e..c90 c92..ca8 caa..cb3 cb5..cb9 cbd cdd..cde ce0..ce1 cf1..cf2",
   "d04..d0c d0e..d10 d12..d3a d3d d4e d54..d56 d5f..d61 d7a..d7f d85..d96 d9a..db1 db3..dbb",
   "dbd dc0..dc6 e01..e30 e32..e33 e40..e45 e81..e82 e84 e86..e8a e8c..ea3 ea5 ea7..eb0",
   "eb2..eb3 ebd ec0..ec4 edc..edf f00 f40..f47 f49..f6c f88..f8c 1000..102a 103f 1050..1055",
   "105a..105d 1061 1065..1066 106e..1070 1075..1081 108e 1100..1248 124a..124d 1250..1256 1258",
   "125a..125d 1260..1288 128a..128d 1290..12b0 12b2..12b5 12b8..12be 12c0 12c2..12c5",
   "12c8..12d6 12d8..1310 1312..1315 1318..135a 1380..138f 1401..166c 166f..167f 1681..169a",
   "16a0..16ea 16f1..16f8 1700..1711 171f..1731 1740..1751 1760..176c 176e..1770 1780..17b3",
   "17dc 1820..1842 1844..1878 1880..1884 1887..18a8 18aa 18b0..18f5 1900..191e 1950..196d",
   "1970..1974 1980..19ab 19b0..19c9 1a00..1a16 1a20..1a54 1b05..1b33 1b45..1b4c 1b83..1ba0",
   "1bae..1baf 1bba..1be5 1c00..1c23 1c4d..1c4f 1c5a..1c77 1ce9..1cec 1cee..1cf3 1cf5..1cf6",
   "1cfa 2135..2138 2d30..2d67 2d80..2d96 2da0..2da6 2da8..2dae 2db0..2db6 2db8..2dbe",
   "2dc0..2dc6 2dc8..2dce 2dd0..2dd6 2dd8..2dde 3006 303c 3041..3096 309f 30a1..30fa 30ff",
   "3105..312f 3131..318e 31a0..31bf 31f0..31ff 3400..4dbf 4e00..a014 a016..a48c a4d0..a4f7",
   "a500..a60b a610..a61f a62a..a62b a66e a6a0..a6e5 a78f a7f7 a7fb..a801 a803..a805 a807..a80a",
   "a80c..a822 a840..a873 a882..a8b3 a8f2..a8f7 a8fb a8fd..a8fe a90a..a925 a930..a946",
   "a960..a97c a984..a9b2 a9e0..a9e4 a9e7..a9ef a9fa..a9fe aa00..aa28 aa40..aa42 aa44..aa4b",
   "aa60..aa6f aa71..aa76 aa7a aa7e..aaaf aab1 aab5..aab6 aab9..aabd aac0 aac2 aadb..aadc",
   "aae0..aaea aaf2 ab01..ab06 ab09..ab0e ab11..ab16 ab20..ab26 ab28..ab2e abc0..abe2",
   "ac00..d7a3 d7b0..d7c6 d7cb..d7fb f900..fa6d fa70..fad9 fb1d fb1f..fb28 fb2a..fb36",
   "fb38..fb3c fb3e fb40..fb41 fb43..fb44 fb46..fbb1 fbd3..fd3d fd50..fd8f fd92..fdc7",
   "fdf0..fdfb fe70..fe74 fe76..fefc ff66..ff6f ff71..ff9d ffa0..ffbe ffc2..ffc7 ffca..ffcf",
   "ffd2..ffd7 ffda..ffdc 10000..1000b 1000d..10026 10028..1003a 1003c..1003d 1003f..1004d",
   "10050..1005d 10080..100fa 10280..1029c 102a0..102d0 10300..1031f 1032d..10340 10342..10349",
   "10350..10375 10380..1039d 103a0..103c3 103c8..103cf 10450..1049d 10500..10527 10530..10563",
   "105c0..105f3 10600..10736 10740..10755 10760..10767 10800..10805 10808 1080a..10835",
   "10837..10838 1083c 1083f..10855 10860..10876 10880..1089e 108e0..108f2 108f4..108f5",
   "10900..10915 10920..10939 10980..109b7 109be..109bf 10a00 10a10..10a13 10a15..10a17",
   "10a19..10a35 10a60..10a7c 10a80..10a9c 10ac0..10ac7 10ac9..10ae4 10b00..10b35 10b40..10b55",
   "10b60..10b72 10b80..10b91 10c00..10c48 10d00..10d23 10d4a..10d4d 10d4f 10e80..10ea9",
   "10eb0..10eb1 10ec2..10ec4 10f00..10f1c 10f27 10f30..10f45 10f70..10f81 10fb0..10fc4",
   "10fe0..10ff6 11003..11037 11071..11072 11075 11083..110af 110d0..110e8 11103..11126 11144",
   "11147 11150..11172 11176 11183..111b2 111c1..111c4 111da 111dc 11200..11211 11213..1122b",
   "1123f..11240 11280..11286 11288 1128a..1128d 1128f..1129d 1129f..112a8 112b0..112de",
   "11305..1130c 1130f..11310 11313..11328 1132a..11330 11332..11333 11335..11339 1133d 11350",
   "1135d..11361 11380..11389 1138b 1138e 11390..113b5 113b7 113d1 113d3 11400..11434",
   "11447..1144a 1145f..11461 11480..114af 114c4..114c5 114c7 11580..115ae 115d8..115db",
   "11600..1162f 11644 11680..116aa 116b8 11700..1171a 11740..11746 11800..1182b 118ff..11906",
   "11909 1190c..11913 11915..11916 11918..1192f 1193f 11941 119a0..119a7 119aa..119d0 119e1",
   "119e3 11a00 11a0b..11a32 11a3a 11a50 11a5c..11a89 11a9d 11ab0..11af8 11bc0..11be0",
   "11c00..11c08 11c0a..11c2e 11c40 11c72..11c8f 11d00..11d06 11d08..11d09 11d0b..11d30 11d46",
   "11d60..11d65 11d67..11d68 11d6a..11d89 11d98 11ee0..11ef2 11f02 11f04..11f10 11f12..11f33",
   "11fb0 12000..12399 12480..12543 12f90..12ff0 13000..1342f 13441..13446 13460..143fa",
   "14400..14646 16100..1611d 16800..16a38 16a40..16a5e 16a70..16abe 16ad0..16aed 16b00..16b2f",
   "16b63..16b77 16b7d..16b8f 16d43..16d6a 16f00..16f4a 16f50 17000..187f7 18800..18cd5",
   "18cff..18d08 1b000..1b122 1b132 1b150..1b152 1b155 1b164..1b167 1b170..1b2fb 1bc00..1bc6a",
   "1bc70..1bc7c 1bc80..1bc88 1bc90..1bc99 1df0a 1e100..1e12c 1e14e 1e290..1e2ad 1e2c0..1e2eb",
   "1e4d0..1e4ea 1e5d0..1e5ed 1e5f0 1e7e0..1e7e6 1e7e8..1e7eb 1e7ed..1e7ee 1e7f0..1e7fe",
   "1e800..1e8c4 1ee00..1ee03 1ee05..1ee1f 1ee21..1ee22 1ee24 1ee27 1ee29..1ee32 1ee34..1ee37",
   "1ee39 1ee3b 1ee42 1ee47..1ee4b/2 1ee4d..1ee4f 1ee51..1ee52 1ee54 1ee57..1ee5f/2",
   "1ee61..1ee62 1ee64 1ee67..1ee6a 1ee6c..1ee72 1ee74..1ee77 1ee79..1ee7c 1ee7e 1ee80..1ee89",
   "1ee8b..1ee9b 1eea1..1eea3 1eea5..1eea9 1eeab..1eebb 20000..2a6df 2a700..2b739 2b740..2b81d",
   "2b820..2cea1 2ceb0..2ebe0 2ebf0..2ee5d 2f800..2fa1d 30000..3134a 31350..323af"]

end Scenario.Text.Table
