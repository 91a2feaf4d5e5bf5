/-
  Characters that are used in several scripts.

  A script has the characters that belong to it and those listed here, but the common and inherited
  characters are only those listed here.
-/

namespace Healing.Pattern.Unicode

/-- The characters that a script uses beyond its own: the names of the script and the ranges. -/
def scriptExtensions : List (List String × List String) := [
  (["adlm", "adlam"],
    ["61F 640 204F 2E41"]),
  (["arab", "arabic"],
    ["60C 61B 61F 640 64B-655 670 204F 2E41 FD3E-FD3F 102E0-102FB"]),
  (["armn", "armenian"],
    ["308"]),
  (["avst", "avestan"],
    ["B7 2E30-2E31"]),
  (["beng", "bengali"],
    ["2BC 951-952 964-965 1CD0 1CD2 1CD5-1CD6 1CD8 1CE1 1CEA 1CED 1CF2 1CF5-1CF7 A8F1"]),
  (["bopo", "bopomofo"],
    ["2C7 2C9-2CB 2D9 3001-3003 3008-3011 3013-301F 302A-302D 3030 3037 30FB FE45-FE46",
     "FF61-FF65"]),
  (["bugi", "buginese"],
    ["A9CF"]),
  (["buhd", "buhid"],
    ["1735-1736"]),
  (["cari", "carian"],
    ["B7 205A 205D 2E31"]),
  (["aghb", "caucasianalbanian"],
    ["304 331 35E"]),
  (["cakm", "chakma"],
    ["9E6-9EF 1040-1049"]),
  (["cher", "cherokee"],
    ["300-302 304 30B-30C 323-324 330-331"]),
  (["copt", "coptic", "qaac"],
    ["B7 300 304-305 307 374-375 2E17 102E0-102FB"]),
  (["cprt", "cypriot"],
    ["10100-10102 10107-10133 10137-1013F"]),
  (["cpmn", "cyprominoan"],
    ["10100-10101"]),
  (["cyrl", "cyrillic"],
    ["2BC 300-302 304 306 308 30B 311 485-486 1DF8 2E43"]),
  (["deva", "devanagari"],
    ["2BC 951-952 964-965 1CD0-1CF6 1CF8-1CF9 20F0 A830-A839"]),
  (["dogr", "dogra"],
    ["964-96F A830-A839"]),
  (["dupl", "duployan"],
    ["B7 307-308 30A 323-324 2E3C 1BCA0-1BCA3"]),
  (["elba", "elbasan"],
    ["B7 305"]),
  (["ethi", "ethiopic"],
    ["30E"]),
  (["gara", "garay"],
    ["60C 61B 61F"]),
  (["geor", "georgian"],
    ["B7 589 10FB 205A 2E31"]),
  (["glag", "glagolitic"],
    ["B7 303 305 484 487 589 10FB 205A 2E43 A66F"]),
  (["goth", "gothic"],
    ["B7 304-305 308 331"]),
  (["gran", "grantha"],
    ["951-952 964-965 BE6-BF3 1CD0 1CD2-1CD3 1CF2-1CF4 1CF8-1CF9 20F0 1133B 11FD0-11FD1 11FD3"]),
  (["grek", "greek"],
    ["B7 300-301 304 306 308 313 342 345 374 1DC0-1DC1 205D"]),
  (["gujr", "gujarati"],
    ["951-952 964-965 A830-A839"]),
  (["gong", "gunjalagondi"],
    ["B7 964-965"]),
  (["guru", "gurmukhi"],
    ["951-952 964-965 A830-A839"]),
  (["gukh", "gurungkhema"],
    ["965"]),
  (["hani", "han"],
    ["B7 2FF0-2FFF 3001-3003 3006 3008-3011 3013-301F 302A-302D 3030 3037 303C-303F 30FB",
     "3190-319F 31C0-31E5 31EF 3220-3247 3280-32B0 32C0-32CB 32FF 3358-3370 337B-337F 33E0-33FE",
     "A700-A707 FE45-FE46 FF61-FF65 1D360-1D371 1F250-1F251"]),
  (["hang", "hangul"],
    ["3001-3003 3008-3011 3013-301F 3030 3037 30FB FE45-FE46 FF61-FF65"]),
  (["rohg", "hanifirohingya"],
    ["60C 61B 61F 640 6D4"]),
  (["hano", "hanunoo"],
    ["1735-1736"]),
  (["hebr", "hebrew"],
    ["307-308"]),
  (["hira", "hiragana"],
    ["3001-3003 3008-3011 3013-301F 3030-3035 3037 303C-303D 3099-309C 30A0 30FB-30FC FE45-FE46",
     "FF61-FF65 FF70 FF9E-FF9F"]),
  (["java", "javanese"],
    ["A9CF"]),
  (["kthi", "kaithi"],
    ["966-96F 2E31 A830-A839"]),
  (["knda", "kannada"],
    ["951-952 964-965 1CD0 1CD2-1CD3 1CDA 1CF2 1CF4 A830-A835"]),
  (["kana", "katakana"],
    ["305 323 3001-3003 3008-3011 3013-301F 3030-3035 3037 303C-303D 3099-309C 30A0 30FB-30FC",
     "FE45-FE46 FF61-FF65 FF70 FF9E-FF9F"]),
  (["kali", "kayahli"],
    ["A92E"]),
  (["khoj", "khojki"],
    ["AE6-AEF A830-A839"]),
  (["sind", "khudawadi"],
    ["964-965 A830-A839"]),
  (["latn", "latin"],
    ["B7 2BC 2C7 2C9-2CB 2CD 2D7 2D9 300-30E 310-311 313 323-325 32D-32E 330-331 358 35E",
     "363-36F 485-486 951-952 10FB 1DF8 202F 20F0 2E17 A700-A707 A92E"]),
  (["limb", "limbu"],
    ["965"]),
  (["lina", "lineara"],
    ["10107-10133"]),
  (["linb", "linearb"],
    ["10100-10102 10107-10133 10137-1013F"]),
  (["lisu"],
    ["2BC 2CD 300A-300B"]),
  (["lyci", "lycian"],
    ["205A"]),
  (["lydi", "lydian"],
    ["B7 2E31"]),
  (["mahj", "mahajani"],
    ["B7 964-96F A830-A839"]),
  (["mlym", "malayalam"],
    ["951-952 964-965 1CDA 1CF2 A830-A832"]),
  (["mand", "mandaic"],
    ["640"]),
  (["mani", "manichaean"],
    ["640"]),
  (["gonm", "masaramgondi"],
    ["964-965"]),
  (["mero", "meroitichieroglyphs"],
    ["205D"]),
  (["modi"],
    ["A830-A839"]),
  (["mong", "mongolian"],
    ["1802-1803 1805 202F 3001-3002 3008-300B"]),
  (["mult", "multani"],
    ["A66-A6F"]),
  (["mymr", "myanmar"],
    ["A92E"]),
  (["nand", "nandinagari"],
    ["951 964-965 CE6-CEF 1CE9 1CF2 1CFA A830-A835"]),
  (["newa"],
    ["951-952 1CD5 1CD7-1CD8 1CE2 1CE9 1CEB 1CED"]),
  (["nkoo", "nko"],
    ["60C 61B 61F FD3E-FD3F"]),
  (["onao", "olonal"],
    ["964-965"]),
  (["hung", "oldhungarian"],
    ["205A 205D 2E31 2E41"]),
  (["perm", "oldpermic"],
    ["B7 300 306-308 313 483"]),
  (["orkh", "oldturkic"],
    ["205A 2E30"]),
  (["ougr", "olduyghur"],
    ["640 10AF2"]),
  (["orya", "oriya"],
    ["951-952 964-965 1CDA 1CF2"]),
  (["osge", "osage"],
    ["301 304 30B 358"]),
  (["phag", "phagspa"],
    ["1802-1803 1805 202F 3002"]),
  (["phlp", "psalterpahlavi"],
    ["640"]),
  (["runr", "runic"],
    ["16EB-16ED"]),
  (["samr", "samaritan"],
    ["2E31"]),
  (["shrd", "sharada"],
    ["951 1CD7 1CD9 1CDC-1CDD 1CE0 1CEA 1CED A830-A835 A838"]),
  (["shaw", "shavian"],
    ["B7"]),
  (["sinh", "sinhala"],
    ["964-965 1CF2"]),
  (["sogd", "sogdian"],
    ["640"]),
  (["sunu", "sunuwar"],
    ["300-301 303 30D 310 32D 331"]),
  (["sylo", "sylotinagri"],
    ["964-965 9E6-9EF"]),
  (["syrc", "syriac"],
    ["303-304 307-308 30A 323-325 32D-32E 330-331 60C 61B-61C 61F 640 64B-655 670 1DF8 1DFA"]),
  (["tglg", "tagalog"],
    ["1735-1736"]),
  (["tagb", "tagbanwa"],
    ["1735-1736"]),
  (["tale", "taile"],
    ["300-301 307-308 30C 1040-1049"]),
  (["takr", "takri"],
    ["964-965 A830-A839"]),
  (["taml", "tamil"],
    ["951-952 964-965 1CDA A8F3 11301 11303 1133B-1133C"]),
  (["tang", "tangut"],
    ["2FF0-2FFF 31EF"]),
  (["telu", "telugu"],
    ["951-952 964-965 1CD5-1CD6 1CD8 1CDA 1CF2"]),
  (["thaa", "thaana"],
    ["60C 61B-61C 61F 660-669 FDF2 FDFD"]),
  (["thai"],
    ["2BC 2D7 303 331"]),
  (["tibt", "tibetan"],
    ["3008-300B"]),
  (["tfng", "tifinagh"],
    ["302 304 306-309 323"]),
  (["tirh", "tirhuta"],
    ["951-952 964-965 1CD5 1CE2 1CF2 A830-A839"]),
  (["todr", "todhri"],
    ["301 304 307 311 313 35E"]),
  (["toto"],
    ["2BC"]),
  (["tutg", "tulutigalari"],
    ["CE6-CEF 1CF2 1CF4 A830-A835 A8F1"]),
  (["yezi", "yezidi"],
    ["60C 61B 61F 660-669"]),
  (["yiii", "yi"],
    ["3001-3002 3008-3011 3014-301B 30FB FF61-FF65"])]

/-- The characters that no script uses in particular. -/
def unextendedScripts : List (List String × List String) := [
  (["zyyy", "common"],
    ["0-40 5B-60 7B-A9 AB-B6 B8-B9 BB-BF D7 F7 2B9-2BB 2BD-2C6 2C8 2CC 2CE-2D6 2D8 2DA-2DF",
     "2E5-2E9 2EC-2FF 37E 385 387 605 6DD 8E2 E3F FD5-FD8 2000-200B 200E-202E 2030-204E",
     "2050-2059 205B-205C 205E-2064 2066-2070 2074-207E 2080-208E 20A0-20C0 2100-2125 2127-2129",
     "212C-2131 2133-214D 214F-215F 2189-218B 2190-2429 2440-244A 2460-27FF 2900-2B73 2B76-2B95",
     "2B97-2BFF 2E00-2E16 2E18-2E2F 2E32-2E3B 2E3D-2E40 2E42 2E44-2E5D 3000 3004 3012 3020 3036",
     "3248-325F 327F 32B1-32BF 32CC-32CF 3371-337A 3380-33DF 33FF 4DC0-4DFF A708-A721 A788-A78A",
     "AB5B AB6A-AB6B FE10-FE19 FE30-FE44 FE47-FE52 FE54-FE66 FE68-FE6B FEFF FF01-FF20 FF3B-FF40",
     "FF5B-FF60 FFE0-FFE6 FFE8-FFEE FFF9-FFFD 10190-1019C 101D0-101FC 1CC00-1CCF9 1CD00-1CEB3",
     "1CF50-1CFC3 1D000-1D0F5 1D100-1D126 1D129-1D166 1D16A-1D17A 1D183-1D184 1D18C-1D1A9",
     "1D1AE-1D1EA 1D2C0-1D2D3 1D2E0-1D2F3 1D300-1D356 1D372-1D378 1D400-1D454 1D456-1D49C",
     "1D49E-1D49F 1D4A2 1D4A5-1D4A6 1D4A9-1D4AC 1D4AE-1D4B9 1D4BB 1D4BD-1D4C3 1D4C5-1D505",
     "1D507-1D50A 1D50D-1D514 1D516-1D51C 1D51E-1D539 1D53B-1D53E 1D540-1D544 1D546 1D54A-1D550",
     "1D552-1D6A5 1D6A8-1D7CB 1D7CE-1D7FF 1EC71-1ECB4 1ED01-1ED3D 1F000-1F02B 1F030-1F093",
     "1F0A0-1F0AE 1F0B1-1F0BF 1F0C1-1F0CF 1F0D1-1F0F5 1F100-1F1AD 1F1E6-1F1FF 1F201-1F202",
     "1F210-1F23B 1F240-1F248 1F260-1F265 1F300-1F6D7 1F6DC-1F6EC 1F6F0-1F6FC 1F700-1F776",
     "1F77B-1F7D9 1F7E0-1F7EB 1F7F0 1F800-1F80B 1F810-1F847 1F850-1F859 1F860-1F887 1F890-1F8AD",
     "1F8B0-1F8BB 1F8C0-1F8C1 1F900-1FA53 1FA60-1FA6D 1FA70-1FA7C 1FA80-1FA89 1FA8F-1FAC6",
     "1FACE-1FADC 1FADF-1FAE9 1FAF0-1FAF8 1FB00-1FB92 1FB94-1FBF9 E0001 E0020-E007F"]),
  (["zinh", "inherited", "qaai"],
    ["30F 312 314-322 326-32C 32F 332-341 343-344 346-357 359-35D 35F-362 953-954 1AB0-1ACE",
     "1DC2-1DF7 1DF9 1DFB-1DFF 200C-200D 20D0-20EF FE00-FE0F FE20-FE2D 101FD 1CF00-1CF2D",
     "1CF30-1CF46 1D167-1D169 1D17B-1D182 1D185-1D18B 1D1AA-1D1AD E0100-E01EF"])]

end Healing.Pattern.Unicode
