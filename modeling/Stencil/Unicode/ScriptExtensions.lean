import Stencil.Unicode.Script

/-!
# Script extensions

A character can be used in more scripts than the one that it belongs to. The tables hold what a
script shares: the code points that are used in it and belong to no script of their own. What is
common or inherited and shared is used in the scripts that share it only.
-/

namespace Stencil.Unicode.ScriptExtensions

def adlam : Ranges := .ofText "61F 640 204F 2E41"

def caucasianAlbanian : Ranges := .ofText "304 331 35E"

def arabic : Ranges := .ofText "60C 61B 61F 640 64B-655 670 204F 2E41 FD3E-FD3F 102E0-102FB"

def armenian : Ranges := .ofText "308"

def avestan : Ranges := .ofText "B7 2E30-2E31"

def bengali : Ranges := .ofLines [
    "2BC 951-952 964-965 1CD0 1CD2 1CD5-1CD6 1CD8 1CE1 1CEA 1CED 1CF2 1CF5-1CF7 A8F1"]

def bopomofo : Ranges := .ofLines [
    "2C7 2C9-2CB 2D9 3001-3003 3008-3011 3013-301F 302A-302D 3030 3037 30FB FE45-FE46 FF61-FF65"]

def buginese : Ranges := .ofText "A9CF"

def buhid : Ranges := .ofText "1735-1736"

def chakma : Ranges := .ofText "9E6-9EF 1040-1049"

def carian : Ranges := .ofText "B7 205A 205D 2E31"

def cherokee : Ranges := .ofText "300-302 304 30B-30C 323-324 330-331"

def coptic : Ranges := .ofText "B7 300 304-305 307 374-375 2E17 102E0-102FB"

def cyproMinoan : Ranges := .ofText "10100-10101"

def cypriot : Ranges := .ofText "10100-10102 10107-10133 10137-1013F"

def cyrillic : Ranges := .ofText "2BC 300-302 304 306 308 30B 311 485-486 1DF8 2E43"

def devanagari : Ranges := .ofText "2BC 951-952 964-965 1CD0-1CF6 1CF8-1CF9 20F0 A830-A839"

def dogra : Ranges := .ofText "964-96F A830-A839"

def duployan : Ranges := .ofText "B7 307-308 30A 323-324 2E3C 1BCA0-1BCA3"

def elbasan : Ranges := .ofText "B7 305"

def ethiopic : Ranges := .ofText "30E"

def garay : Ranges := .ofText "60C 61B 61F"

def georgian : Ranges := .ofText "B7 589 10FB 205A 2E31"

def glagolitic : Ranges := .ofText "B7 303 305 484 487 589 10FB 205A 2E43 A66F"

def gunjalaGondi : Ranges := .ofText "B7 964-965"

def masaramGondi : Ranges := .ofText "964-965"

def gothic : Ranges := .ofText "B7 304-305 308 331"

def grantha : Ranges := .ofLines [
    "951-952 964-965 BE6-BF3 1CD0 1CD2-1CD3 1CF2-1CF4 1CF8-1CF9 20F0 1133B 11FD0-11FD1 11FD3"]

def greek : Ranges := .ofText "B7 300-301 304 306 308 313 342 345 374 1DC0-1DC1 205D"

def gujarati : Ranges := .ofText "951-952 964-965 A830-A839"

def gurungKhema : Ranges := .ofText "965"

def gurmukhi : Ranges := .ofText "951-952 964-965 A830-A839"

def hangul : Ranges := .ofText "3001-3003 3008-3011 3013-301F 3030 3037 30FB FE45-FE46 FF61-FF65"

def han : Ranges := .ofLines [
    "B7 2FF0-2FFF 3001-3003 3006 3008-3011 3013-301F 302A-302D 3030 3037 303C-303F 30FB 3190-319F",
    "31C0-31E5 31EF 3220-3247 3280-32B0 32C0-32CB 32FF 3358-3370 337B-337F 33E0-33FE A700-A707",
    "FE45-FE46 FF61-FF65 1D360-1D371 1F250-1F251"]

def hanunoo : Ranges := .ofText "1735-1736"

def hebrew : Ranges := .ofText "307-308"

def hiragana : Ranges := .ofLines [
    "3001-3003 3008-3011 3013-301F 3030-3035 3037 303C-303D 3099-309C 30A0 30FB-30FC FE45-FE46",
    "FF61-FF65 FF70 FF9E-FF9F"]

def oldHungarian : Ranges := .ofText "205A 205D 2E31 2E41"

def javanese : Ranges := .ofText "A9CF"

def kayahLi : Ranges := .ofText "A92E"

def katakana : Ranges := .ofLines [
    "305 323 3001-3003 3008-3011 3013-301F 3030-3035 3037 303C-303D 3099-309C 30A0 30FB-30FC",
    "FE45-FE46 FF61-FF65 FF70 FF9E-FF9F"]

def khojki : Ranges := .ofText "AE6-AEF A830-A839"

def kannada : Ranges := .ofText "951-952 964-965 1CD0 1CD2-1CD3 1CDA 1CF2 1CF4 A830-A835"

def kaithi : Ranges := .ofText "966-96F 2E31 A830-A839"

def latin : Ranges := .ofLines [
    "B7 2BC 2C7 2C9-2CB 2CD 2D7 2D9 300-30E 310-311 313 320 323-325 32D-32E 330-331 358 35E",
    "363-36F 485-486 951-952 10FB 1DF8 202F 20F0 2E17 A700-A707 A92E"]

def limbu : Ranges := .ofText "965"

def linearA : Ranges := .ofText "10107-10133"

def linearB : Ranges := .ofText "10100-10102 10107-10133 10137-1013F"

def lisu : Ranges := .ofText "2BC 2CD 300A-300B"

def lycian : Ranges := .ofText "205A"

def lydian : Ranges := .ofText "B7 2E31"

def mahajani : Ranges := .ofText "B7 964-96F A830-A839"

def mandaic : Ranges := .ofText "640"

def manichaean : Ranges := .ofText "640"

def meroiticHieroglyphs : Ranges := .ofText "205D"

def malayalam : Ranges := .ofText "951-952 964-965 1CDA 1CF2 A830-A832"

def modi : Ranges := .ofText "A830-A839"

def mongolian : Ranges := .ofText "1802-1803 1805 202F 3001-3002 3008-300B"

def multani : Ranges := .ofText "A66-A6F"

def myanmar : Ranges := .ofText "A92E"

def nandinagari : Ranges := .ofText "964-965 CE6-CEF 1CE9 1CF2 1CFA A830-A835"

def nko : Ranges := .ofText "60C 61B 61F FD3E-FD3F"

def olOnal : Ranges := .ofText "964-965"

def oldTurkic : Ranges := .ofText "205A 2E30"

def oriya : Ranges := .ofText "951-952 964-965 1CDA 1CF2"

def osage : Ranges := .ofText "301 304 30B 358"

def oldUyghur : Ranges := .ofText "640 10AF2"

def oldPermic : Ranges := .ofText "B7 300 306-308 313 483"

def phagsPa : Ranges := .ofText "1802-1803 1805 202F 3002"

def psalterPahlavi : Ranges := .ofText "640"

def hanifiRohingya : Ranges := .ofText "60C 61B 61F 640 6D4"

def runic : Ranges := .ofText "16EB-16ED"

def samaritan : Ranges := .ofText "2E31"

def shavian : Ranges := .ofText "B7"

def sharada : Ranges := .ofText "951 1CD7 1CD9 1CDC-1CDD 1CE0 A830-A835 A838"

def khudawadi : Ranges := .ofText "964-965 A830-A839"

def sinhala : Ranges := .ofText "964-965 1CF2"

def sogdian : Ranges := .ofText "640"

def sunuwar : Ranges := .ofText "300-301 303 30D 310 32D 331"

def sylotiNagri : Ranges := .ofText "964-965 9E6-9EF"

def syriac : Ranges := .ofLines [
    "303-304 307-308 30A 320 323-325 32D-32E 330 60C 61B-61C 61F 640 64B-655 670 1DF8 1DFA"]

def tagbanwa : Ranges := .ofText "1735-1736"

def takri : Ranges := .ofText "964-965 A830-A839"

def taiLe : Ranges := .ofText "300-301 307-308 30C 1040-1049"

def tamil : Ranges := .ofText "951-952 964-965 1CDA A8F3 11301 11303 1133B-1133C"

def tangut : Ranges := .ofText "2FF0-2FFF 31EF"

def telugu : Ranges := .ofText "951-952 964-965 1CDA 1CF2"

def tifinagh : Ranges := .ofText "302 304 307 309"

def tagalog : Ranges := .ofText "1735-1736"

def thaana : Ranges := .ofText "60C 61B-61C 61F 660-669 FDF2 FDFD"

def thai : Ranges := .ofText "2BC 2D7 303 331"

def tibetan : Ranges := .ofText "3008-300B"

def tirhuta : Ranges := .ofText "951-952 964-965 1CF2 A830-A839"

def todhri : Ranges := .ofText "301 304 307 311 313 35E"

def toto : Ranges := .ofText "2BC"

def tuluTigalari : Ranges := .ofText "CE6-CEF 1CF2 1CF4 A830-A835 A8F1"

def yezidi : Ranges := .ofText "60C 61B 61F 660-669"

def yi : Ranges := .ofText "3001-3002 3008-3011 3014-301B 30FB FF61-FF65"

def inherited : Ranges := .ofLines [
    "300-30E 310-311 313 320 323-325 32D-32E 330-331 342 345 358 35E 363-36F 485-486 64B-655 670",
    "951-952 1CD0-1CD2 1CD4-1CE0 1CE2-1CE8 1CED 1CF4 1CF8-1CF9 1DC0-1DC1 1DF8 1DFA 20F0 302A-302D",
    "3099-309A 102E0 1133B"]

def common : Ranges := .ofLines [
    "B7 2BC 2C7 2C9-2CB 2CD 2D7 2D9 374 60C 61B 61F 640 964-965 10FB 16EB-16ED 1735-1736 1802-1803",
    "1805 1CD3 1CE1 1CE9-1CEC 1CEE-1CF3 1CF5-1CF7 1CFA 202F 204F 205A 205D 2E17 2E30-2E31 2E3C",
    "2E41 2E43 2FF0-2FFF 3001-3003 3006 3008-3011 3013-301F 3030-3035 3037 303C-303F 309B-309C",
    "30A0 30FB-30FC 3190-319F 31C0-31E5 31EF 3220-3247 3280-32B0 32C0-32CB 32FF 3358-3370",
    "337B-337F 33E0-33FE A700-A707 A830-A839 A92E A9CF FD3E-FD3F FE45-FE46 FF61-FF65 FF70",
    "FF9E-FF9F 10100-10102 10107-10133 10137-1013F 102E1-102FB 1BCA0-1BCA3 1D360-1D371 1F250-1F251"]

/-- What the scripts share, by the names of the scripts. -/
def shared : List (String × Ranges) := [
  ("adlm", adlam), ("adlam", adlam), ("aghb", caucasianAlbanian),
  ("caucasianalbanian", caucasianAlbanian), ("arab", arabic), ("arabic", arabic),
  ("armn", armenian), ("armenian", armenian), ("avst", avestan), ("avestan", avestan),
  ("beng", bengali), ("bengali", bengali), ("bopo", bopomofo), ("bopomofo", bopomofo),
  ("bugi", buginese), ("buginese", buginese), ("buhd", buhid), ("buhid", buhid), ("cakm", chakma),
  ("chakma", chakma), ("cari", carian), ("carian", carian), ("cher", cherokee),
  ("cherokee", cherokee), ("copt", coptic), ("coptic", coptic), ("qaac", coptic),
  ("cpmn", cyproMinoan), ("cyprominoan", cyproMinoan), ("cprt", cypriot), ("cypriot", cypriot),
  ("cyrl", cyrillic), ("cyrillic", cyrillic), ("deva", devanagari), ("devanagari", devanagari),
  ("dogr", dogra), ("dogra", dogra), ("dupl", duployan), ("duployan", duployan), ("elba", elbasan),
  ("elbasan", elbasan), ("ethi", ethiopic), ("ethiopic", ethiopic), ("gara", garay),
  ("garay", garay), ("geor", georgian), ("georgian", georgian), ("glag", glagolitic),
  ("glagolitic", glagolitic), ("gong", gunjalaGondi), ("gunjalagondi", gunjalaGondi),
  ("gonm", masaramGondi), ("masaramgondi", masaramGondi), ("goth", gothic), ("gothic", gothic),
  ("gran", grantha), ("grantha", grantha), ("grek", greek), ("greek", greek), ("gujr", gujarati),
  ("gujarati", gujarati), ("gukh", gurungKhema), ("gurungkhema", gurungKhema), ("guru", gurmukhi),
  ("gurmukhi", gurmukhi), ("hang", hangul), ("hangul", hangul), ("hani", han), ("han", han),
  ("hano", hanunoo), ("hanunoo", hanunoo), ("hebr", hebrew), ("hebrew", hebrew), ("hira", hiragana),
  ("hiragana", hiragana), ("hung", oldHungarian), ("oldhungarian", oldHungarian),
  ("java", javanese), ("javanese", javanese), ("kali", kayahLi), ("kayahli", kayahLi),
  ("kana", katakana), ("katakana", katakana), ("khoj", khojki), ("khojki", khojki),
  ("knda", kannada), ("kannada", kannada), ("kthi", kaithi), ("kaithi", kaithi), ("latn", latin),
  ("latin", latin), ("limb", limbu), ("limbu", limbu), ("lina", linearA), ("lineara", linearA),
  ("linb", linearB), ("linearb", linearB), ("lisu", lisu), ("lyci", lycian), ("lycian", lycian),
  ("lydi", lydian), ("lydian", lydian), ("mahj", mahajani), ("mahajani", mahajani),
  ("mand", mandaic), ("mandaic", mandaic), ("mani", manichaean), ("manichaean", manichaean),
  ("mero", meroiticHieroglyphs), ("meroitichieroglyphs", meroiticHieroglyphs), ("mlym", malayalam),
  ("malayalam", malayalam), ("modi", modi), ("mong", mongolian), ("mongolian", mongolian),
  ("mult", multani), ("multani", multani), ("mymr", myanmar), ("myanmar", myanmar),
  ("nand", nandinagari), ("nandinagari", nandinagari), ("nkoo", nko), ("nko", nko),
  ("onao", olOnal), ("olonal", olOnal), ("orkh", oldTurkic), ("oldturkic", oldTurkic),
  ("orya", oriya), ("oriya", oriya), ("osge", osage), ("osage", osage), ("ougr", oldUyghur),
  ("olduyghur", oldUyghur), ("perm", oldPermic), ("oldpermic", oldPermic), ("phag", phagsPa),
  ("phagspa", phagsPa), ("phlp", psalterPahlavi), ("psalterpahlavi", psalterPahlavi),
  ("rohg", hanifiRohingya), ("hanifirohingya", hanifiRohingya), ("runr", runic), ("runic", runic),
  ("samr", samaritan), ("samaritan", samaritan), ("shaw", shavian), ("shavian", shavian),
  ("shrd", sharada), ("sharada", sharada), ("sind", khudawadi), ("khudawadi", khudawadi),
  ("sinh", sinhala), ("sinhala", sinhala), ("sogd", sogdian), ("sogdian", sogdian),
  ("sunu", sunuwar), ("sunuwar", sunuwar), ("sylo", sylotiNagri), ("sylotinagri", sylotiNagri),
  ("syrc", syriac), ("syriac", syriac), ("tagb", tagbanwa), ("tagbanwa", tagbanwa), ("takr", takri),
  ("takri", takri), ("tale", taiLe), ("taile", taiLe), ("taml", tamil), ("tamil", tamil),
  ("tang", tangut), ("tangut", tangut), ("telu", telugu), ("telugu", telugu), ("tfng", tifinagh),
  ("tifinagh", tifinagh), ("tglg", tagalog), ("tagalog", tagalog), ("thaa", thaana),
  ("thaana", thaana), ("thai", thai), ("tibt", tibetan), ("tibetan", tibetan), ("tirh", tirhuta),
  ("tirhuta", tirhuta), ("todr", todhri), ("todhri", todhri), ("toto", toto),
  ("tutg", tuluTigalari), ("tulutigalari", tuluTigalari), ("yezi", yezidi), ("yezidi", yezidi),
  ("yiii", yi), ("yi", yi)]

/-- What is shared of the characters without a script of their own. -/
def sharing : List (String × Ranges) := [
  ("zinh", inherited), ("inherited", inherited), ("qaai", inherited), ("zyyy", common),
  ("common", common)]

end Stencil.Unicode.ScriptExtensions
