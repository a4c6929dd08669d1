import UiStream.Character.ScriptRanges

/-!
# Scripts

The scripts that characters are written in, known by a long and by a short name.
-/

namespace UiStream

/-- The characters of each script, by the names of the script in lower case and without
separators. -/
def scripts : List (List String × CodeRanges) :=
  [(["adlam", "adlm"], ScriptRanges.adlam), (["ahom"], ScriptRanges.ahom),
   (["anatolianhieroglyphs", "hluw"], ScriptRanges.anatolianHieroglyphs),
   (["arabic", "arab"], ScriptRanges.arabic), (["armenian", "armn"], ScriptRanges.armenian),
   (["avestan", "avst"], ScriptRanges.avestan), (["balinese", "bali"], ScriptRanges.balinese),
   (["bamum", "bamu"], ScriptRanges.bamum), (["bassavah", "bass"], ScriptRanges.bassaVah),
   (["batak", "batk"], ScriptRanges.batak), (["bengali", "beng"], ScriptRanges.bengali),
   (["bhaiksuki", "bhks"], ScriptRanges.bhaiksuki), (["bopomofo", "bopo"], ScriptRanges.bopomofo),
   (["brahmi", "brah"], ScriptRanges.brahmi), (["braille", "brai"], ScriptRanges.braille),
   (["buginese", "bugi"], ScriptRanges.buginese), (["buhid", "buhd"], ScriptRanges.buhid),
   (["canadianaboriginal", "cans"], ScriptRanges.canadianAboriginal),
   (["carian", "cari"], ScriptRanges.carian),
   (["caucasianalbanian", "aghb"], ScriptRanges.caucasianAlbanian),
   (["chakma", "cakm"], ScriptRanges.chakma), (["cham"], ScriptRanges.cham),
   (["cherokee", "cher"], ScriptRanges.cherokee), (["chorasmian", "chrs"], ScriptRanges.chorasmian),
   (["common", "zyyy"], ScriptRanges.common), (["coptic", "copt", "qaac"], ScriptRanges.coptic),
   (["cuneiform", "xsux"], ScriptRanges.cuneiform), (["cypriot", "cprt"], ScriptRanges.cypriot),
   (["cyprominoan", "cpmn"], ScriptRanges.cyproMinoan),
   (["cyrillic", "cyrl"], ScriptRanges.cyrillic), (["deseret", "dsrt"], ScriptRanges.deseret),
   (["devanagari", "deva"], ScriptRanges.devanagari),
   (["divesakuru", "diak"], ScriptRanges.divesAkuru), (["dogra", "dogr"], ScriptRanges.dogra),
   (["duployan", "dupl"], ScriptRanges.duployan),
   (["egyptianhieroglyphs", "egyp"], ScriptRanges.egyptianHieroglyphs),
   (["elbasan", "elba"], ScriptRanges.elbasan), (["elymaic", "elym"], ScriptRanges.elymaic),
   (["ethiopic", "ethi"], ScriptRanges.ethiopic), (["garay", "gara"], ScriptRanges.garay),
   (["georgian", "geor"], ScriptRanges.georgian), (["glagolitic", "glag"], ScriptRanges.glagolitic),
   (["gothic", "goth"], ScriptRanges.gothic), (["grantha", "gran"], ScriptRanges.grantha),
   (["greek", "grek"], ScriptRanges.greek), (["gujarati", "gujr"], ScriptRanges.gujarati),
   (["gunjalagondi", "gong"], ScriptRanges.gunjalaGondi),
   (["gurmukhi", "guru"], ScriptRanges.gurmukhi),
   (["gurungkhema", "gukh"], ScriptRanges.gurungKhema), (["han", "hani"], ScriptRanges.han),
   (["hangul", "hang"], ScriptRanges.hangul),
   (["hanifirohingya", "rohg"], ScriptRanges.hanifiRohingya),
   (["hanunoo", "hano"], ScriptRanges.hanunoo), (["hatran", "hatr"], ScriptRanges.hatran),
   (["hebrew", "hebr"], ScriptRanges.hebrew), (["hiragana", "hira"], ScriptRanges.hiragana),
   (["imperialaramaic", "armi"], ScriptRanges.imperialAramaic),
   (["inherited", "zinh", "qaai"], ScriptRanges.inherited),
   (["inscriptionalpahlavi", "phli"], ScriptRanges.inscriptionalPahlavi),
   (["inscriptionalparthian", "prti"], ScriptRanges.inscriptionalParthian),
   (["javanese", "java"], ScriptRanges.javanese), (["kaithi", "kthi"], ScriptRanges.kaithi),
   (["kannada", "knda"], ScriptRanges.kannada), (["katakana", "kana"], ScriptRanges.katakana),
   (["kawi"], ScriptRanges.kawi), (["kayahli", "kali"], ScriptRanges.kayahLi),
   (["kharoshthi", "khar"], ScriptRanges.kharoshthi),
   (["khitansmallscript", "kits"], ScriptRanges.khitanSmallScript),
   (["khmer", "khmr"], ScriptRanges.khmer), (["khojki", "khoj"], ScriptRanges.khojki),
   (["khudawadi", "sind"], ScriptRanges.khudawadi), (["kiratrai", "krai"], ScriptRanges.kiratRai),
   (["lao", "laoo"], ScriptRanges.lao), (["latin", "latn"], ScriptRanges.latin),
   (["lepcha", "lepc"], ScriptRanges.lepcha), (["limbu", "limb"], ScriptRanges.limbu),
   (["lineara", "lina"], ScriptRanges.linearA), (["linearb", "linb"], ScriptRanges.linearB),
   (["lisu"], ScriptRanges.lisu), (["lycian", "lyci"], ScriptRanges.lycian),
   (["lydian", "lydi"], ScriptRanges.lydian), (["mahajani", "mahj"], ScriptRanges.mahajani),
   (["makasar", "maka"], ScriptRanges.makasar), (["malayalam", "mlym"], ScriptRanges.malayalam),
   (["mandaic", "mand"], ScriptRanges.mandaic), (["manichaean", "mani"], ScriptRanges.manichaean),
   (["marchen", "marc"], ScriptRanges.marchen),
   (["masaramgondi", "gonm"], ScriptRanges.masaramGondi),
   (["medefaidrin", "medf"], ScriptRanges.medefaidrin),
   (["meeteimayek", "mtei"], ScriptRanges.meeteiMayek),
   (["mendekikakui", "mend"], ScriptRanges.mendeKikakui),
   (["meroiticcursive", "merc"], ScriptRanges.meroiticCursive),
   (["meroitichieroglyphs", "mero"], ScriptRanges.meroiticHieroglyphs),
   (["miao", "plrd"], ScriptRanges.miao), (["modi"], ScriptRanges.modi),
   (["mongolian", "mong"], ScriptRanges.mongolian), (["mro", "mroo"], ScriptRanges.mro),
   (["multani", "mult"], ScriptRanges.multani), (["myanmar", "mymr"], ScriptRanges.myanmar),
   (["nabataean", "nbat"], ScriptRanges.nabataean),
   (["nagmundari", "nagm"], ScriptRanges.nagMundari),
   (["nandinagari", "nand"], ScriptRanges.nandinagari),
   (["newtailue", "talu"], ScriptRanges.newTaiLue), (["newa"], ScriptRanges.newa),
   (["nko", "nkoo"], ScriptRanges.nko), (["nushu", "nshu"], ScriptRanges.nushu),
   (["nyiakengpuachuehmong", "hmnp"], ScriptRanges.nyiakengPuachueHmong),
   (["ogham", "ogam"], ScriptRanges.ogham), (["olchiki", "olck"], ScriptRanges.olChiki),
   (["olonal", "onao"], ScriptRanges.olOnal), (["oldhungarian", "hung"], ScriptRanges.oldHungarian),
   (["olditalic", "ital"], ScriptRanges.oldItalic),
   (["oldnortharabian", "narb"], ScriptRanges.oldNorthArabian),
   (["oldpermic", "perm"], ScriptRanges.oldPermic),
   (["oldpersian", "xpeo"], ScriptRanges.oldPersian),
   (["oldsogdian", "sogo"], ScriptRanges.oldSogdian),
   (["oldsoutharabian", "sarb"], ScriptRanges.oldSouthArabian),
   (["oldturkic", "orkh"], ScriptRanges.oldTurkic), (["olduyghur", "ougr"], ScriptRanges.oldUyghur),
   (["oriya", "orya"], ScriptRanges.oriya), (["osage", "osge"], ScriptRanges.osage),
   (["osmanya", "osma"], ScriptRanges.osmanya), (["pahawhhmong", "hmng"], ScriptRanges.pahawhHmong),
   (["palmyrene", "palm"], ScriptRanges.palmyrene), (["paucinhau", "pauc"], ScriptRanges.pauCinHau),
   (["phagspa", "phag"], ScriptRanges.phagsPa), (["phoenician", "phnx"], ScriptRanges.phoenician),
   (["psalterpahlavi", "phlp"], ScriptRanges.psalterPahlavi),
   (["rejang", "rjng"], ScriptRanges.rejang), (["runic", "runr"], ScriptRanges.runic),
   (["samaritan", "samr"], ScriptRanges.samaritan),
   (["saurashtra", "saur"], ScriptRanges.saurashtra), (["sharada", "shrd"], ScriptRanges.sharada),
   (["shavian", "shaw"], ScriptRanges.shavian), (["siddham", "sidd"], ScriptRanges.siddham),
   (["signwriting", "sgnw"], ScriptRanges.signwriting), (["sinhala", "sinh"], ScriptRanges.sinhala),
   (["sogdian", "sogd"], ScriptRanges.sogdian), (["sorasompeng", "sora"], ScriptRanges.soraSompeng),
   (["soyombo", "soyo"], ScriptRanges.soyombo), (["sundanese", "sund"], ScriptRanges.sundanese),
   (["sunuwar", "sunu"], ScriptRanges.sunuwar), (["sylotinagri", "sylo"], ScriptRanges.sylotiNagri),
   (["syriac", "syrc"], ScriptRanges.syriac), (["tagalog", "tglg"], ScriptRanges.tagalog),
   (["tagbanwa", "tagb"], ScriptRanges.tagbanwa), (["taile", "tale"], ScriptRanges.taiLe),
   (["taitham", "lana"], ScriptRanges.taiTham), (["taiviet", "tavt"], ScriptRanges.taiViet),
   (["takri", "takr"], ScriptRanges.takri), (["tamil", "taml"], ScriptRanges.tamil),
   (["tangsa", "tnsa"], ScriptRanges.tangsa), (["tangut", "tang"], ScriptRanges.tangut),
   (["telugu", "telu"], ScriptRanges.telugu), (["thaana", "thaa"], ScriptRanges.thaana),
   (["thai"], ScriptRanges.thai), (["tibetan", "tibt"], ScriptRanges.tibetan),
   (["tifinagh", "tfng"], ScriptRanges.tifinagh), (["tirhuta", "tirh"], ScriptRanges.tirhuta),
   (["todhri", "todr"], ScriptRanges.todhri), (["toto"], ScriptRanges.toto),
   (["tulutigalari", "tutg"], ScriptRanges.tuluTigalari),
   (["ugaritic", "ugar"], ScriptRanges.ugaritic), (["unknown", "zzzz"], ScriptRanges.unknown),
   (["vai", "vaii"], ScriptRanges.vai), (["vithkuqi", "vith"], ScriptRanges.vithkuqi),
   (["wancho", "wcho"], ScriptRanges.wancho), (["warangciti", "wara"], ScriptRanges.warangCiti),
   (["yezidi", "yezi"], ScriptRanges.yezidi), (["yi", "yiii"], ScriptRanges.yi),
   (["zanabazarsquare", "zanb"], ScriptRanges.zanabazarSquare)]

/-- The first name and the characters of the script with a name. -/
def scriptNamed? (name : String) : Option (String × CodeRanges) :=
  (scripts.find? fun (names, _) => names.contains name).bind fun (names, ranges) =>
    names.head?.map (·, ranges)

end UiStream
