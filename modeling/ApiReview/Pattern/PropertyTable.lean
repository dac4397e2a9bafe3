/-!
# Names of Unicode properties

A pattern can ask for the characters with a property by one of its names: a
category, a script, or a property that a character has or has not.  Names are
kept without case, blanks, hyphens and underscores.  For each class the table
also says how many bytes a compiled pattern takes for one occurrence of it.
-/

namespace ApiReview.Pattern

/-- A class of characters with its names and the size it takes when compiled. -/
structure PropertyClass where
  names : List String
  size : Nat

/-- The general categories, without the surrogates, which no text holds. -/
def categories : List PropertyClass := [
  ⟨["c", "other"], 43204⟩, ⟨["cc", "control", "cntrl"], 204⟩,
  ⟨["cf", "format"], 1784⟩, ⟨["cn", "unassigned"], 42516⟩,
  ⟨["co", "privateuse"], 864⟩, ⟨["l", "letter"], 43216⟩,
  ⟨["lc", "casedletter"], 9640⟩, ⟨["ll", "lowercaseletter"], 27740⟩,
  ⟨["lm", "modifierletter"], 5256⟩, ⟨["lo", "otherletter"], 34532⟩,
  ⟨["lt", "titlecaseletter"], 552⟩, ⟨["lu", "uppercaseletter"], 26672⟩,
  ⟨["m", "mark", "combiningmark"], 19012⟩, ⟨["mc", "spacingmark"], 10448⟩,
  ⟨["me", "enclosingmark"], 468⟩, ⟨["mn", "nonspacingmark"], 19700⟩,
  ⟨["n", "number"], 9884⟩, ⟨["nd", "decimalnumber", "digit"], 5184⟩,
  ⟨["nl", "letternumber"], 1212⟩, ⟨["no", "othernumber"], 5100⟩,
  ⟨["p", "punctuation", "punct"], 11952⟩,
  ⟨["pc", "connectorpunctuation"], 540⟩, ⟨["pd", "dashpunctuation"], 1392⟩,
  ⟨["pe", "closepunctuation"], 3504⟩, ⟨["pf", "finalpunctuation"], 552⟩,
  ⟨["pi", "initialpunctuation"], 588⟩, ⟨["po", "otherpunctuation"], 11280⟩,
  ⟨["ps", "openpunctuation"], 3644⟩, ⟨["s", "symbol"], 15936⟩,
  ⟨["sc", "currencysymbol"], 1720⟩, ⟨["sk", "modifiersymbol"], 2020⟩,
  ⟨["sm", "mathsymbol"], 4160⟩, ⟨["so", "othersymbol"], 13264⟩,
  ⟨["z", "separator"], 608⟩, ⟨["zl", "lineseparator"], 164⟩,
  ⟨["zp", "paragraphseparator"], 164⟩, ⟨["zs", "spaceseparator"], 572⟩,
  ⟨["any"], 964⟩, ⟨["assigned"], 51044⟩, ⟨["ascii"], 72⟩]

def scripts : List PropertyClass := [
  ⟨["adlm", "adlam"], 336⟩, ⟨["aghb", "caucasianalbanian"], 300⟩,
  ⟨["ahom"], 336⟩, ⟨["arab", "arabic"], 3268⟩,
  ⟨["armi", "imperialaramaic"], 232⟩, ⟨["armn", "armenian"], 440⟩,
  ⟨["avst", "avestan"], 232⟩, ⟨["bali", "balinese"], 268⟩,
  ⟨["bamu", "bamum"], 432⟩, ⟨["bass", "bassavah"], 232⟩,
  ⟨["batk", "batak"], 200⟩, ⟨["beng", "bengali"], 700⟩,
  ⟨["berf", "beriaerfe"], 300⟩, ⟨["bhks", "bhaiksuki"], 372⟩,
  ⟨["bopo", "bopomofo"], 300⟩, ⟨["brah", "brahmi"], 336⟩,
  ⟨["brai", "braille"], 164⟩, ⟨["bugi", "buginese"], 200⟩,
  ⟨["buhd", "buhid"], 164⟩, ⟨["cakm", "chakma"], 300⟩,
  ⟨["cans", "canadianaboriginal"], 432⟩, ⟨["cari", "carian"], 264⟩,
  ⟨["cham"], 304⟩, ⟨["cher", "cherokee"], 436⟩, ⟨["chrs", "chorasmian"], 264⟩,
  ⟨["copt", "coptic", "qaac"], 336⟩, ⟨["cpmn", "cyprominoan"], 264⟩,
  ⟨["cprt", "cypriot"], 376⟩, ⟨["cyrl", "cyrillic"], 1244⟩,
  ⟨["deva", "devanagari"], 536⟩, ⟨["diak", "divesakuru"], 516⟩,
  ⟨["dogr", "dogra"], 196⟩, ⟨["dsrt", "deseret"], 264⟩,
  ⟨["dupl", "duployan"], 440⟩, ⟨["egyp", "egyptianhieroglyphs"], 536⟩,
  ⟨["elba", "elbasan"], 196⟩, ⟨["elym", "elymaic"], 196⟩,
  ⟨["ethi", "ethiopic"], 2016⟩, ⟨["gara", "garay"], 336⟩,
  ⟨["geor", "georgian"], 652⟩, ⟨["glag", "glagolitic"], 508⟩,
  ⟨["gong", "gunjalagondi"], 444⟩, ⟨["gonm", "masaramgondi"], 480⟩,
  ⟨["goth", "gothic"], 264⟩, ⟨["gran", "grantha"], 768⟩,
  ⟨["grek", "greek"], 2244⟩, ⟨["gujr", "gujarati"], 700⟩,
  ⟨["gukh", "gurungkhema"], 196⟩, ⟨["guru", "gurmukhi"], 772⟩,
  ⟨["hang", "hangul"], 1456⟩, ⟨["hani", "han"], 3584⟩,
  ⟨["hano", "hanunoo"], 164⟩, ⟨["hatr", "hatran"], 268⟩,
  ⟨["hebr", "hebrew"], 584⟩, ⟨["hira", "hiragana"], 740⟩,
  ⟨["hluw", "anatolianhieroglyphs"], 264⟩, ⟨["hmng", "pahawhhmong"], 476⟩,
  ⟨["hmnp", "nyiakengpuachuehmong"], 336⟩, ⟨["hung", "oldhungarian"], 300⟩,
  ⟨["ital", "olditalic"], 232⟩, ⟨["java", "javanese"], 304⟩,
  ⟨["kali", "kayahli"], 200⟩, ⟨["kana", "katakana"], 1220⟩, ⟨["kawi"], 336⟩,
  ⟨["khar", "kharoshthi"], 516⟩, ⟨["khmr", "khmer"], 372⟩,
  ⟨["khoj", "khojki"], 300⟩, ⟨["kits", "khitansmallscript"], 400⟩,
  ⟨["knda", "kannada"], 664⟩, ⟨["krai", "kiratrai"], 196⟩,
  ⟨["kthi", "kaithi"], 300⟩, ⟨["lana", "taitham"], 444⟩,
  ⟨["laoo", "lao"], 556⟩, ⟨["latn", "latin"], 2740⟩,
  ⟨["lepc", "lepcha"], 304⟩, ⟨["limb", "limbu"], 340⟩,
  ⟨["lina", "lineara"], 368⟩, ⟨["linb", "linearb"], 580⟩, ⟨["lisu"], 296⟩,
  ⟨["lyci", "lycian"], 196⟩, ⟨["lydi", "lydian"], 232⟩,
  ⟨["mahj", "mahajani"], 196⟩, ⟨["maka", "makasar"], 196⟩,
  ⟨["mand", "mandaic"], 200⟩, ⟨["mani", "manichaean"], 232⟩,
  ⟨["marc", "marchen"], 336⟩, ⟨["medf", "medefaidrin"], 264⟩,
  ⟨["mend", "mendekikakui"], 300⟩, ⟨["merc", "meroiticcursive"], 336⟩,
  ⟨["mero", "meroitichieroglyphs"], 196⟩, ⟨["mlym", "malayalam"], 448⟩,
  ⟨["modi"], 300⟩, ⟨["mong", "mongolian"], 540⟩, ⟨["mroo", "mro"], 268⟩,
  ⟨["mtei", "meeteimayek"], 268⟩, ⟨["mult", "multani"], 340⟩,
  ⟨["mymr", "myanmar"], 532⟩, ⟨["nagm", "nagmundari"], 196⟩,
  ⟨["nand", "nandinagari"], 336⟩, ⟨["narb", "oldnortharabian"], 196⟩,
  ⟨["nbat", "nabataean"], 232⟩, ⟨["newa"], 300⟩, ⟨["nkoo", "nko"], 168⟩,
  ⟨["nshu", "nushu"], 432⟩, ⟨["ogam", "ogham"], 164⟩,
  ⟨["olck", "olchiki"], 164⟩, ⟨["onao", "olonal"], 232⟩,
  ⟨["orkh", "oldturkic"], 264⟩, ⟨["orya", "oriya"], 700⟩,
  ⟨["osge", "osage"], 300⟩, ⟨["osma", "osmanya"], 232⟩,
  ⟨["ougr", "olduyghur"], 264⟩, ⟨["palm", "palmyrene"], 196⟩,
  ⟨["pauc", "paucinhau"], 196⟩, ⟨["perm", "oldpermic"], 196⟩,
  ⟨["phag", "phagspa"], 164⟩, ⟨["phli", "inscriptionalpahlavi"], 232⟩,
  ⟨["phlp", "psalterpahlavi"], 268⟩, ⟨["phnx", "phoenician"], 232⟩,
  ⟨["plrd", "miao"], 404⟩, ⟨["prti", "inscriptionalparthian"], 232⟩,
  ⟨["rjng", "rejang"], 268⟩, ⟨["rohg", "hanifirohingya"], 232⟩,
  ⟨["runr", "runic"], 268⟩, ⟨["samr", "samaritan"], 200⟩,
  ⟨["sarb", "oldsoutharabian"], 196⟩, ⟨["saur", "saurashtra"], 268⟩,
  ⟨["sgnw", "signwriting"], 336⟩, ⟨["shaw", "shavian"], 196⟩,
  ⟨["shrd", "sharada"], 332⟩, ⟨["sidd", "siddham"], 300⟩,
  ⟨["sidt", "sidetic"], 196⟩, ⟨["sind", "khudawadi"], 300⟩,
  ⟨["sinh", "sinhala"], 724⟩, ⟨["sogd", "sogdian"], 264⟩,
  ⟨["sogo", "oldsogdian"], 196⟩, ⟨["sora", "sorasompeng"], 232⟩,
  ⟨["soyo", "soyombo"], 264⟩, ⟨["sund", "sundanese"], 232⟩,
  ⟨["sunu", "sunuwar"], 232⟩, ⟨["sylo", "sylotinagri"], 164⟩,
  ⟨["syrc", "syriac"], 372⟩, ⟨["tagb", "tagbanwa"], 236⟩,
  ⟨["takr", "takri"], 264⟩, ⟨["tale", "taile"], 200⟩,
  ⟨["talu", "newtailue"], 340⟩, ⟨["taml", "tamil"], 940⟩,
  ⟨["tang", "tangut"], 600⟩, ⟨["tavt", "taiviet"], 268⟩,
  ⟨["tayo", "taiyo"], 268⟩, ⟨["telu", "telugu"], 664⟩,
  ⟨["tfng", "tifinagh"], 304⟩, ⟨["tglg", "tagalog"], 200⟩,
  ⟨["thaa", "thaana"], 132⟩, ⟨["thai"], 232⟩, ⟨["tibt", "tibetan"], 584⟩,
  ⟨["tirh", "tirhuta"], 300⟩, ⟨["tnsa", "tangsa"], 332⟩,
  ⟨["todr", "todhri"], 196⟩, ⟨["tols", "tolongsiki"], 300⟩, ⟨["toto"], 196⟩,
  ⟨["tutg", "tulutigalari"], 624⟩, ⟨["ugar", "ugaritic"], 232⟩,
  ⟨["vaii", "vai"], 232⟩, ⟨["vith", "vithkuqi"], 516⟩,
  ⟨["wara", "warangciti"], 300⟩, ⟨["wcho", "wancho"], 232⟩,
  ⟨["xpeo", "oldpersian"], 300⟩, ⟨["xsux", "cuneiform"], 572⟩,
  ⟨["yezi", "yezidi"], 268⟩, ⟨["yiii", "yi"], 336⟩,
  ⟨["zanb", "zanabazarsquare"], 264⟩, ⟨["zinh", "inherited", "qaai"], 2444⟩,
  ⟨["zyyy", "common"], 12544⟩]

/-- The properties that a character has or has not. -/
def binaryProperties : List PropertyClass := [
  ⟨["asciihexdigit", "ahex"], 88⟩, ⟨["alphabetic", "alpha"], 47480⟩,
  ⟨["bidicontrol", "bidic"], 336⟩, ⟨["bidimirrored", "bidim"], 5560⟩,
  ⟨["caseignorable", "ci"], 25024⟩, ⟨["cased"], 10436⟩,
  ⟨["changeswhencasefolded", "cwcf"], 25240⟩,
  ⟨["changeswhencasemapped", "cwcm"], 8496⟩,
  ⟨["changeswhenlowercased", "cwl"], 24680⟩,
  ⟨["changeswhentitlecased", "cwt"], 25556⟩,
  ⟨["changeswhenuppercased", "cwu"], 25624⟩, ⟨["dash"], 1632⟩,
  ⟨["defaultignorablecodepoint", "di"], 1476⟩, ⟨["deprecated", "dep"], 736⟩,
  ⟨["diacritic", "dia"], 13688⟩, ⟨["emoji"], 7660⟩,
  ⟨["emojicomponent", "ecomp"], 908⟩, ⟨["emojimodifier", "emod"], 196⟩,
  ⟨["emojimodifierbase", "ebase"], 2144⟩,
  ⟨["emojipresentation", "epres"], 4856⟩,
  ⟨["extendedpictographic", "extpict"], 8172⟩, ⟨["extender", "ext"], 3084⟩,
  ⟨["graphemebase", "grbase"], 55856⟩, ⟨["graphemeextend", "grext"], 20548⟩,
  ⟨["graphemelink", "grlink"], 500⟩, ⟨["hexdigit", "hex"], 376⟩,
  ⟨["hyphen"], 500⟩, ⟨["idsbinaryoperator", "idsb"], 300⟩,
  ⟨["idstrinaryoperator", "idst"], 164⟩, ⟨["idsunaryoperator", "idsu"], 500⟩,
  ⟨["idcompatmathcontinue"], 500⟩, ⟨["idcompatmathstart"], 500⟩,
  ⟨["idcontinue", "idc"], 49908⟩, ⟨["idstart", "ids"], 43352⟩,
  ⟨["ideographic", "ideo"], 3952⟩, ⟨["joincontrol", "joinc"], 164⟩,
  ⟨["logicalorderexception", "loe"], 540⟩, ⟨["lowercase", "lower"], 28368⟩,
  ⟨["math"], 7368⟩, ⟨["modifiercombiningmark", "mcm"], 500⟩,
  ⟨["noncharactercodepoint", "nchar"], 1992⟩,
  ⟨["otheralphabetic", "oalpha"], 10000⟩,
  ⟨["otherdefaultignorablecodepoint", "odi"], 500⟩,
  ⟨["othergraphemeextend", "ogrext"], 2500⟩,
  ⟨["otheridcontinue", "oidc"], 500⟩, ⟨["otheridstart", "oids"], 500⟩,
  ⟨["otherlowercase", "olower"], 1500⟩, ⟨["othermath", "omath"], 2500⟩,
  ⟨["otheruppercase", "oupper"], 500⟩, ⟨["patternsyntax", "patsyn"], 1792⟩,
  ⟨["patternwhitespace", "patws"], 340⟩,
  ⟨["prependedconcatenationmark", "pcm"], 500⟩,
  ⟨["quotationmark", "qmark"], 852⟩, ⟨["radical"], 404⟩,
  ⟨["regionalindicator", "ri"], 196⟩, ⟨["sentenceterminal", "sterm"], 5796⟩,
  ⟨["softdotted", "sd"], 2248⟩, ⟨["terminalpunctuation", "term"], 7316⟩,
  ⟨["unifiedideograph", "uideo"], 2740⟩, ⟨["uppercase", "upper"], 27152⟩,
  ⟨["variationselector", "vs"], 500⟩,
  ⟨["whitespace", "wspace", "space"], 680⟩, ⟨["xidcontinue", "xidc"], 50296⟩,
  ⟨["xidstart", "xids"], 43740⟩]

/-- The names of the category whose characters no text holds. -/
def emptyCategories : List String := [
  "cs", "surrogate"]

/-- The names of scripts to which no character belongs alone. -/
def emptyScripts : List String := [
  "zzzz", "unknown", "hrkt", "katakanaorhiragana"]

/-- The names of properties that are no classes by themselves. -/
def valuedProperties : List String := [
  "age", "bc", "bidiclass", "blk", "block", "bmg", "bidimirroringglyph",
  "bpb", "bidipairedbracket", "bpt", "bidipairedbrackettype", "ccc",
  "canonicalcombiningclass", "ce", "compositionexclusion", "cf",
  "casefolding", "compex", "fullcompositionexclusion", "cwkcf",
  "changeswhennfkccasefolded", "dm", "decompositionmapping", "dt",
  "decompositiontype", "ea", "eastasianwidth", "equideo",
  "equivalentunifiedideograph", "gc", "generalcategory", "gcb",
  "graphemeclusterbreak", "hst", "hangulsyllabletype", "inpc",
  "indicpositionalcategory", "insc", "indicsyllabiccategory", "isc", "jg",
  "joininggroup", "jt", "joiningtype", "lb", "linebreak", "lc",
  "lowercasemapping", "na", "name", "na1", "unicode1name", "nfcqc",
  "nfcquickcheck", "nfdqc", "nfdquickcheck", "nfkccf", "nfkccasefold",
  "nfkcqc", "nfkcquickcheck", "nfkdqc", "nfkdquickcheck", "nt", "numerictype",
  "nv", "numericvalue", "sb", "sentencebreak", "sc", "script", "scf",
  "simplecasefolding", "sfc", "scx", "scriptextensions", "slc",
  "simplelowercasemapping", "stc", "simpletitlecasemapping", "suc",
  "simpleuppercasemapping", "tc", "titlecasemapping", "uc",
  "uppercasemapping", "vo", "verticalorientation", "wb", "wordbreak"]

/-- The versions in which characters were added. -/
def ages : List String := [
  "1.1", "10.0", "11.0", "12.0", "12.1", "13.0", "14.0", "15.0", "15.1",
  "16.0", "2.0", "2.1", "3.0", "3.1", "3.2", "4.0", "4.1", "5.0", "5.1",
  "5.2", "6.0", "6.1", "6.2", "6.3", "7.0", "8.0", "9.0", "v100", "v11",
  "v110", "v120", "v121", "v130", "v140", "v150", "v151", "v160", "v20",
  "v21", "v30", "v31", "v32", "v40", "v41", "v50", "v51", "v52", "v60", "v61",
  "v62", "v63", "v70", "v80", "v90"]

/-- The values for the bounds of graphemes. -/
def graphemeBreaks : List String := [
  "cn", "control", "cr", "ex", "extend", "l", "lf", "lv", "lvt", "pp",
  "prepend", "ri", "regionalindicator", "sm", "spacingmark", "t", "v", "zwj"]

/-- The values for the bounds of sentences. -/
def sentenceBreaks : List String := [
  "at", "aterm", "cl", "close", "cr", "ex", "extend", "fo", "format", "le",
  "oletter", "lf", "lo", "lower", "nu", "numeric", "sc", "scontinue", "se",
  "sep", "sp", "st", "sterm", "up", "upper"]

/-- The values for the bounds of words. -/
def wordBreaks : List String := [
  "cr", "dq", "doublequote", "ex", "extendnumlet", "extend", "fo", "format",
  "hl", "hebrewletter", "ka", "katakana", "le", "aletter", "lf", "mb",
  "midnumlet", "ml", "midletter", "mn", "midnum", "nl", "newline", "nu",
  "numeric", "ri", "regionalindicator", "sq", "singlequote", "wsegspace",
  "zwj"]

end ApiReview.Pattern
